import KeyMacro.Proofs.Script.Name
import KeyMacro.Proofs.Script.Number

/-!
# Settings

The default delay and the name of a macro are *settings*: the last line that sets one of
them has the say (`IsLastSet`), and a line that is rejected does not count.

The name has no part in anything else. The lines that give names may be left out, or be
given any other text behind their word (`Renamed`). Then the macro has
the same events and the same default delay, a delay is owed in the end as it was, and the
same is noted, but for the numbers of lines (`SameButName`). This holds along every run
(`Renamed.run`), whatever a name may look like.
-/

namespace KeyMacro.Script

/-! ## The last line has the say -/

/-- Whether a line sets the default delay: it begins with a word for it, and has a number
    that is admitted behind the word. -/
def SetsDefaultDelay (line : List Char) (ms : Int) : Prop :=
  ∃ word args, Text.fields (Text.chomp line) = word :: args ∧
    word ∈ Word.defaultDelay.spellings ∧ GivesNumber 1 999 args ms

/-- Whether a value is the one that is set by the last of the lines that set any, or the
    usual one where there are none. -/
inductive IsLastSet {α : Type} (Sets : List Char → α → Prop) (usual : α) :
    List (List Char) → α → Prop
  | usual {lines : List (List Char)} : (∀ line ∈ lines, ∀ a, ¬ Sets line a) →
      IsLastSet Sets usual lines usual
  | last {before after : List (List Char)} {line : List Char} {a : α} : Sets line a →
      (∀ later ∈ after, ∀ b, ¬ Sets later b) → IsLastSet Sets usual (before ++ line :: after) a

variable {α : Type} {Sets : List Char → α → Prop} {usual a : α} {line other : List Char}
  {lines others : List (List Char)}

theorem IsLastSet.concat_of_sets (h : Sets line a) : IsLastSet Sets usual (lines ++ [line]) a :=
  .last h fun _ hlater => absurd hlater List.not_mem_nil

theorem IsLastSet.concat (h : IsLastSet Sets usual lines a) (hline : ∀ b, ¬ Sets line b) :
    IsLastSet Sets usual (lines ++ [line]) a := by
  have hmem {rest : List (List Char)} (hrest : ∀ l ∈ rest, ∀ b, ¬ Sets l b) :
      ∀ l ∈ rest ++ [line], ∀ b, ¬ Sets l b := by
    simpa only [List.forall_mem_append, List.forall_mem_singleton] using ⟨hrest, hline⟩
  cases h with
  | usual hnone => exact .usual (hmem hnone)
  | last hsets hafter =>
    rw [List.append_assoc, List.cons_append]
    exact .last hsets (hmem hafter)

/-- What lines set and other lines leave as it is, is set by the last of the former. -/
theorem isLastSet_draftAfter (read : Draft → α)
    (hsets : ∀ (draft : Draft) line a, Sets line a → read (draft.advance (directive line)) = a)
    (hkeeps : ∀ (draft : Draft) line, (∀ a, ¬ Sets line a) →
      read (draft.advance (directive line)) = read draft) (lines : List (List Char)) :
    IsLastSet Sets (read {}) lines (read (draftAfter lines)) := by
  induction lines using List.reverseRecOn with
  | nil => exact .usual fun _ hline => absurd hline List.not_mem_nil
  | append_singleton lines line ih =>
    rw [draftAfter_concat]
    by_cases h : ∃ a, Sets line a
    · obtain ⟨a, ha⟩ := h
      rw [hsets _ _ _ ha]
      exact .concat_of_sets ha
    · have hnone := not_exists.1 h
      rw [hkeeps _ _ hnone]
      exact ih.concat hnone

theorem setsDefaultDelay_iff {ms : Int} : SetsDefaultDelay line ms ↔
    ∃ time : Duration, directive line = .defaultDelay time ∧ (time.val : Int) = ms := by
  constructor
  · rintro ⟨word, args, hfields, hword, token, rfl, hdenotes, hlow, hhigh⟩
    obtain ⟨time, rfl⟩ : ∃ time : Duration, ms = (time.val : Int) :=
      ⟨⟨ms.toNat, by omega⟩, (Int.toNat_of_nonneg (by omega)).symm⟩
    have hgiven := (onlyTime?_eq_some_iff defaultDelayOf?_reads).2
      ⟨token, rfl, hdenotes, hlow, hhigh⟩
    refine ⟨time, ?_, rfl⟩
    rw [directive_defaultDelay hfields hword, hgiven]
  · rintro ⟨time, hdirective, rfl⟩
    have hline : defaultDelayLine? line = some time := by
      rw [defaultDelayLine?_eq, hdirective]
      rfl
    unfold defaultDelayLine? at hline
    split at hline
    · next word field hfields =>
      obtain ⟨hword, hfield⟩ := Option.ite_none_right_eq_some.1 hline
      exact ⟨word, [field], hfields, hword, field, rfl, (defaultDelayOf?_reads field time).1 hfield⟩
    · cases hline

/-- The default delay of a script is set by its last line that sets one. -/
theorem isLastSet_defaultDelay (lines : List (List Char)) :
    IsLastSet SetsDefaultDelay 15 lines (compile lines).defaultDelay := by
  refine isLastSet_draftAfter (fun draft => (draft.defaultDelay.val : Int)) ?_ ?_ lines
  · intro draft line ms h
    obtain ⟨time, hdirective, rfl⟩ := setsDefaultDelay_iff.1 h
    rw [hdirective]
    rfl
  · intro draft line h
    cases hdirective : directive line with
    | defaultDelay time => exact absurd (setsDefaultDelay_iff.2 ⟨time, hdirective, rfl⟩) (h _)
    | blank | delay | noDelay | name | key | rejected => rfl

/-- The name of a script is given by its last line that gives one. -/
theorem isLastSet_name (lines : List (List Char)) :
    IsLastSet GivesName Macro.usualName lines (compile lines).name := by
  refine isLastSet_draftAfter Draft.name ?_ ?_ lines
  · intro draft line text h
    obtain ⟨given, hdirective, rfl⟩ := h.exists_directive
    rw [hdirective]
    rfl
  · intro draft line h
    cases hdirective : directive line with
    | name given =>
      obtain ⟨text, htext⟩ := (isNameLine_of_directive hdirective).exists_givesName
      exact absurd htext (h text)
    | blank | delay | noDelay | defaultDelay | key | rejected => rfl

/-! ## Other names -/

/-- Whether a script is another one, named first, in which any of the lines that begin
    with the word for the name are left out, or have something else behind this word. -/
inductive Renamed : List (List Char) → List (List Char) → Prop
  | nil : Renamed [] []
  | same (line : List Char) {lines others : List (List Char)} : Renamed lines others →
      Renamed (line :: lines) (line :: others)
  | leftOut {line : List Char} {lines others : List (List Char)} : IsNameLine line →
      Renamed lines others → Renamed (line :: lines) others
  | changed {line other : List Char} {lines others : List (List Char)} : IsNameLine line →
      IsNameLine other → Renamed lines others → Renamed (line :: lines) (other :: others)

/-- Whether two macros are the same but for the name and the numbers of noted lines. -/
structure SameButName (p q : Progress) : Prop where
  events : p.events = q.events
  defaultDelay : p.defaultDelay = q.defaultDelay
  owed : p.owed = q.owed
  log : p.log.map Note.unnumbered = q.log.map Note.unnumbered

namespace SameButName

variable {p q : Progress}

/-- The same line does the same to both macros. -/
theorem step (h : SameButName p q) (i j : Nat) (line : List Char) :
    SameButName (p.step i line) (q.step j line) where
  events := by
    have hemit : p.emit (directive line) = q.emit (directive line) := by
      cases directive line <;> simp [Draft.emit, Draft.due, h.defaultDelay, h.owed]
    simp only [Progress.step, hemit, h.events]
  defaultDelay := by
    simp only [Progress.step, defaultDelay_advance, h.defaultDelay]
  owed := by
    simp only [Progress.step, owed_advance, h.owed]
  log := by
    simp only [Progress.step, List.map_append, h.log, Directive.map_unnumbered_notes _ i j]

/-- A name line does nothing to the first macro that could be told from the second. -/
theorem step_left (h : SameButName p q) (hline : IsNameLine line) (number : Nat) :
    SameButName (p.step number line) q := by
  obtain ⟨text, htext⟩ := hline.exists_givesName
  rw [htext.step_eq]
  exact ⟨h.events, h.defaultDelay, h.owed, h.log⟩

theorem symm (h : SameButName p q) : SameButName q p :=
  ⟨h.events.symm, h.defaultDelay.symm, h.owed.symm, h.log.symm⟩

theorem step_right (h : SameButName p q) (hline : IsNameLine line) (number : Nat) :
    SameButName p (q.step number line) :=
  (h.symm.step_left hline number).symm

end SameButName

/-- Lines with other names do the same, but for the name. -/
theorem Renamed.run (h : Renamed lines others) {p q : Progress} (hp : SameButName p q)
    (i j : Nat) : SameButName (p.run i lines) (q.run j others) := by
  induction h generalizing p q i j with
  | nil => exact hp
  | same line _ ih => exact ih (hp.step i j line) _ _
  | leftOut hline _ ih => exact ih (hp.step_left hline i) _ _
  | changed hline hother _ ih => exact ih ((hp.step_left hline i).step_right hother j) _ _

/-! ## Scripts -/

/-- How the settings of a script come about. -/
structure IsSettled (lines : List (List Char)) : Prop where
  /-- The last line that sets the default delay has the say. -/
  defaultDelay : IsLastSet SetsDefaultDelay 15 lines (compile lines).defaultDelay
  /-- The last line that gives a name has the say. -/
  name : IsLastSet GivesName Macro.usualName lines (compile lines).name
  /-- Other names make no other difference. -/
  renamed {others : List (List Char)} : Renamed lines others →
    (compile others).events = (compile lines).events ∧
      (compile others).defaultDelay = (compile lines).defaultDelay ∧
      (draftAfter others).owed = (draftAfter lines).owed ∧
      (notes others).map Note.unnumbered = (notes lines).map Note.unnumbered

/-- Every script is settled by its last lines, and the name has no part in the rest. -/
theorem compile_isSettled (lines : List (List Char)) : IsSettled lines where
  defaultDelay := isLastSet_defaultDelay lines
  name := isLastSet_name lines
  renamed := by
    intro others h
    have hsame := h.run (p := {}) (q := {}) ⟨rfl, rfl, rfl, rfl⟩ 1 1
    obtain ⟨hcompile, hnotes⟩ := Progress.run_initial lines
    obtain ⟨hcompile', hnotes'⟩ := Progress.run_initial others
    have howed (lines : List (List Char)) :
        (draftAfter lines).owed = (Progress.run {} 1 lines).owed := by
      rw [Progress.run_eq]
      rfl
    rw [hcompile, hcompile', hnotes, hnotes', howed, howed, hsame.events, hsame.defaultDelay,
      hsame.owed, hsame.log]
    exact ⟨rfl, rfl, rfl, rfl⟩

example : compile ["name a".toList, "defaultdelay 20".toList, "a".toList,
      "defaultdelay 0".toList, "name delay 5".toList, "b".toList] =
    { name := "delay 5".toList, defaultDelay := 20,
      events := [.keyTap 65 20, .delay 20, .keyTap 66 20] } := by
  cbv

end KeyMacro.Script
