import Mathlib
import KeyMacro.Proofs.Script.Note
import KeyMacro.Proofs.Script.Run

/-!
# Lines without effect

Some lines of a script are *inert*: the blank ones and the rejected ones. Wherever such
a line stands, the macro is the same without it, and a delay is owed in the end with it
if and only if one is owed without it (`inert_of_isNoted`). Only the log can tell: it
has the note on the line, if there is one, in its place between the notes on the lines
before and those on the lines behind, which are counted on by one.
-/

namespace KeyMacro

/-- A note on a line that has moved on by one. -/
def Note.movedOn : Note → Note
  | malformed number line => malformed (number + 1) line
  | unknownKey token => unknownKey token
  | oversized digits limit => oversized digits limit

namespace Script

/-! ## Inert directives -/

/-- Whether a directive does nothing. -/
def Directive.isInert : Directive → Bool
  | blank => true
  | d => d.isRejected

/-- An inert directive changes no draft and adds no events. -/
theorem Draft.run_cons_of_isInert (draft : Draft) {d : Directive} (h : d.isInert = true)
    (ds : List Directive) : draft.run (d :: ds) = draft.run ds := by
  cases d with
  | blank | rejected => simp [run, advance, emit]
  | delay | defaultDelay | noDelay | name | key => cases h

theorem Draft.run_append_of_isInert (draft : Draft) {d : Directive} (h : d.isInert = true)
    (ds es : List Directive) : draft.run (ds ++ d :: es) = draft.run (ds ++ es) := by
  rw [run_append, run_append, run_cons_of_isInert _ h]

theorem isInert_of_fields_eq_nil {line : List Char}
    (h : Text.fields (Text.chomp line) = []) : (directive line).isInert = true := by
  rw [directive_eq, h]
  rfl

/-- A line that is noted is rejected. -/
theorem isInert_of_notesFrom_ne_nil {number : Nat} {line : List Char}
    (h : notesFrom number [line] ≠ []) : (directive line).isInert = true := by
  cases hd : directive line with
  | blank | rejected => rfl
  | delay | defaultDelay | noDelay | name | key =>
    rw [notesFrom_cons, hd] at h
    exact absurd rfl h

/-! ## Lines that move on -/

theorem Directive.notes_succ (d : Directive) (number : Nat) (line : List Char) :
    d.notes (number + 1) line = (d.notes number line).map Note.movedOn := by
  cases d with
  | rejected cause => cases cause <;> rfl
  | blank | delay | defaultDelay | noDelay | name | key => rfl

/-- Lines that move on by one have the same notes, with the numbers of the lines
    moving on as well. -/
theorem notesFrom_succ (number : Nat) (lines : List (List Char)) :
    notesFrom (number + 1) lines = (notesFrom number lines).map Note.movedOn := by
  induction lines generalizing number with
  | nil => rfl
  | cons line lines ih =>
    rw [notesFrom_cons, notesFrom_cons, List.map_append, Directive.notes_succ, ih]

/-! ## Scripts with inert lines -/

variable {before after : List (List Char)} {line : List Char}

/-- The notes on a script are those on the lines before a line, on the line, and on the
    lines behind it. -/
theorem notes_append_cons (before : List (List Char)) (line : List Char)
    (after : List (List Char)) : notes (before ++ line :: after) =
      notes before ++ (notesFrom (before.length + 1) [line] ++
        (notesFrom (before.length + 1) after).map Note.movedOn) := by
  have hnotes : notes before = notesFrom 1 before := rfl
  rw [notes, hnotes, notesFrom_append, Nat.add_comm 1, ← List.singleton_append, notesFrom_append,
    ← notesFrom_succ]
  rfl

/-- A line that is blank or noted changes nothing, wherever it stands, except that it
    is noted in its place and the lines behind it are counted on by one. -/
theorem inert_of_isNoted
    (h : Text.fields (Text.chomp line) = [] ∨ notesFrom (before.length + 1) [line] ≠ []) :
    compile (before ++ line :: after) = compile (before ++ after) ∧
      (draftAfter (before ++ line :: after)).owed = (draftAfter (before ++ after)).owed ∧
      ∃ later, notes (before ++ after) = notes before ++ later ∧
        notes (before ++ line :: after) =
          notes before ++ (notesFrom (before.length + 1) [line] ++ later.map Note.movedOn) := by
  have hinert : (directive line).isInert = true := by
    rcases h with hblank | hnoted
    · exact isInert_of_fields_eq_nil hblank
    · exact isInert_of_notesFrom_ne_nil hnoted
  have hrun : Draft.run {} (directives (before ++ line :: after)) =
      Draft.run {} (directives (before ++ after)) := by
    rw [directives_append, directives_append, directives_cons,
      Draft.run_append_of_isInert _ hinert]
  refine ⟨?_, ?_, notesFrom (before.length + 1) after, ?_, notes_append_cons _ _ _⟩
  · rw [compile, compile, hrun]
  · rw [draftAfter, draftAfter, hrun]
  · rw [notes, notesFrom_append, Nat.add_comm, notes]

/-- A line between two key lines, with more fields than its word admits. -/
def crowdedLine : List Char := "down a b".toList

/-- The line neither pays the delay that is owed nor settles it. -/
theorem inert_of_crowded :
    notesFrom 2 [crowdedLine] ≠ [] ∧
      compile ["a".toList, crowdedLine, "press".toList, "b".toList] =
        { events := [.keyTap 65 15, .delay 15, .keyTap 66 15] } ∧
      (draftAfter ["a".toList, crowdedLine, "press".toList, "b".toList]).owed = true ∧
      notes ["a".toList, crowdedLine, "press".toList, "b".toList] =
        [.malformed 2 crowdedLine, .malformed 3 "press".toList] := by
  have hline : notesFrom (["a".toList].length + 1) [crowdedLine] = [.malformed 2 crowdedLine] := by
    cbv
  have hnoted : notesFrom (["a".toList].length + 1) [crowdedLine] ≠ [] :=
    hline ▸ List.cons_ne_nil _ _
  have hsame : compile (["a".toList] ++ crowdedLine :: ["press".toList, "b".toList]) =
      compile (["a".toList] ++ ["press".toList, "b".toList]) ∧ _ :=
    inert_of_isNoted (.inr hnoted)
  obtain ⟨hevents, howed, later, hwithout, hwith⟩ := hsame
  refine ⟨hnoted, hevents.trans (by cbv), howed.trans (by cbv), ?_⟩
  -- The only other note is that on the second line of the shorter script.
  have hbefore : notes ["a".toList] = [] := by cbv
  have hlater : [.malformed 2 "press".toList] = later := by
    rw [hbefore, List.nil_append] at hwithout
    rw [← hwithout]
    cbv
  rw [hline, hbefore, ← hlater] at hwith
  exact hwith

end Script

end KeyMacro
