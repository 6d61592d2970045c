import KeyMacro.Proofs.Script.Note
import KeyMacro.Proofs.Script.Run

/-!
# Macros under construction

While a script is carried out there is a macro under construction: a draft, the events so
far, and the log so far (`Progress`). One line after the other is carried out on it
(`Progress.step`). Whatever it is like to begin with, a script does to it what its
directives do to the draft, and adds events and notes behind those that are there
(`Progress.run_eq`). A script that is carried out from the beginning leaves the macro and
the notes of the script (`Progress.run_initial`).
-/

namespace KeyMacro.Script

/-- A macro under construction. -/
structure Progress extends Draft where
  /-- The events so far. -/
  events : List Event := []
  /-- The notes so far. -/
  log : List Note := []
  deriving DecidableEq

namespace Progress

/-- The macro after the line of a number. -/
def step (p : Progress) (number : Nat) (line : List Char) : Progress where
  toDraft := p.advance (directive line)
  events := p.events ++ p.emit (directive line)
  log := p.log ++ (directive line).notes number (Text.chomp line)

/-- The macro after some lines, the first of which has a given number. -/
def run (p : Progress) (number : Nat) : List (List Char) → Progress
  | [] => p
  | line :: rest => (p.step number line).run (number + 1) rest

theorem run_eq (p : Progress) (number : Nat) (lines : List (List Char)) :
    p.run number lines =
      { toDraft := (p.toDraft.run (directives lines)).1
        events := p.events ++ (p.toDraft.run (directives lines)).2
        log := p.log ++ notesFrom number lines } := by
  induction lines generalizing p number with
  | nil => simp [run, directives, Draft.run, notesFrom]
  | cons line lines ih =>
    rw [run, ih, directives_cons, notesFrom_cons, Draft.run]
    simp [step]

/-- From the beginning, the lines of a script make its macro and its notes. -/
theorem run_initial (lines : List (List Char)) :
    compile lines =
        { name := (run {} 1 lines).name
          defaultDelay := ((run {} 1 lines).defaultDelay.val : Int)
          events := (run {} 1 lines).events } ∧
      notes lines = (run {} 1 lines).log := by
  rw [run_eq]
  exact ⟨rfl, rfl⟩

theorem run_append (p : Progress) (number : Nat) (first second : List (List Char)) :
    p.run number (first ++ second) =
      (p.run number first).run (number + first.length) second := by
  induction first generalizing p number with
  | nil => rfl
  | cons line first ih =>
    have hnumber : number + (line :: first).length = number + 1 + first.length := by
      rw [List.length_cons]
      omega
    rw [List.cons_append, run, run, ih, hnumber]

end Progress

end KeyMacro.Script
