import KeyMacro.Proofs.Script.Line

/-!
# The notes on a script

Every line is noted on its own: the notes on lines are those on the lines before a
cut and those on the lines behind it (`notesFrom_append`), and there are none on lines
that are not rejected (`notesFrom_eq_nil`). A note depends on where its line stands by
the number in it only, and is the same anywhere without that number
(`map_unnumbered_notesFrom`).
-/

namespace KeyMacro

/-- A note without the number of its line. -/
def Note.unnumbered : Note → Note
  | malformed _ line => malformed 0 line
  | note => note

namespace Script

/-- Whether a directive says nothing that can be understood. -/
def Directive.isRejected : Directive → Bool
  | rejected _ => true
  | _ => false

theorem notesFrom_cons (number : Nat) (line : List Char) (rest : List (List Char)) :
    notesFrom number (line :: rest) =
      (directive line).notes number (Text.chomp line) ++ notesFrom (number + 1) rest := rfl

theorem notesFrom_append (number : Nat) (first second : List (List Char)) :
    notesFrom number (first ++ second) =
      notesFrom number first ++ notesFrom (number + first.length) second := by
  induction first generalizing number with
  | nil => rfl
  | cons line first ih =>
    have hnumber : number + 1 + first.length = number + (line :: first).length := by
      rw [List.length_cons]
      omega
    rw [List.cons_append, notesFrom_cons, notesFrom_cons, ih, hnumber, List.append_assoc]

theorem Directive.notes_eq_nil {d : Directive} (h : d.isRejected = false) (number : Nat)
    (line : List Char) : d.notes number line = [] := by
  cases d with
  | rejected cause => cases h
  | blank | delay | defaultDelay | noDelay | name | key => rfl

theorem notesFrom_eq_nil {lines : List (List Char)}
    (h : ∀ d ∈ directives lines, d.isRejected = false) (number : Nat) :
    notesFrom number lines = [] := by
  induction lines generalizing number with
  | nil => rfl
  | cons line lines ih =>
    rw [directives_cons, List.forall_mem_cons] at h
    rw [notesFrom_cons, ih h.2, Directive.notes_eq_nil h.1, List.append_nil]

theorem Directive.map_unnumbered_notes (d : Directive) (first second : Nat) (line : List Char) :
    (d.notes first line).map Note.unnumbered = (d.notes second line).map Note.unnumbered := by
  cases d with
  | rejected cause => cases cause <;> rfl
  | blank | delay | defaultDelay | noDelay | name | key => rfl

/-- Without their numbers, the notes on lines are the same wherever the lines
    stand. -/
theorem map_unnumbered_notesFrom (first second : Nat) (lines : List (List Char)) :
    (notesFrom first lines).map Note.unnumbered = (notesFrom second lines).map Note.unnumbered := by
  induction lines generalizing first second with
  | nil => rfl
  | cons line lines ih =>
    rw [notesFrom_cons, notesFrom_cons, List.map_append, List.map_append,
      Directive.map_unnumbered_notes _ first second, ih (first + 1) (second + 1)]

end Script

end KeyMacro
