import KeyMacro.Proofs.Script.Progress
import KeyMacro.Proofs.Script.Sound
import KeyMacro.Proofs.Text.Numeral

/-!
# Numbers in lines

Three kinds of lines take a number: those that wait, those that press a key for some
time, and those that set the default delay. What counts as a number is the same for all
of them (`Numeral.Denotes`). They differ in the bounds of the number, and in what they do
without one: a line that waits, or presses a key, does so for the default delay, while a
line that is to set the default delay is rejected (`step_takesNumbers`).

An argument that is left out is no number, nor are several.
-/

namespace KeyMacro.Script

/-- Whether arguments are a single one, which denotes a number between two bounds. -/
def GivesNumber (low high : Int) (args : List (List Char)) (n : Int) : Prop :=
  ∃ token, args = [token] ∧ Numeral.Denotes token n ∧ low ≤ n ∧ n ≤ high

/-- The time that arguments stand for, where there is one to be used without them. -/
inductive IsTimeOf (args : List (List Char)) (usual : Duration) : Duration → Prop
  /-- They give it. -/
  | given {time : Duration} : GivesNumber 0 65535 args time.val → IsTimeOf args usual time
  /-- They give none. -/
  | missing : (∀ n, ¬ GivesNumber 0 65535 args n) → IsTimeOf args usual usual

/-- How a line that takes a number is carried out on a macro. -/
structure TakesNumbers (p : Progress) (number : Nat) (line : List Char) : Prop where
  /-- A line that waits adds a delay. -/
  delay {word : List Char} {args : List (List Char)} {time : Duration} :
    Text.fields (Text.chomp line) = word :: args → word ∈ Word.delay.spellings →
      IsTimeOf args p.defaultDelay time →
      p.step number line = { p with owed := false, events := p.events ++ [.delay time] }
  /-- A line that presses a key adds a tap, behind the delay that is owed. -/
  press {word token : List Char} {args : List (List Char)} {code : KeyCode} {time : Duration} :
    Text.fields (Text.chomp line) = word :: token :: args → args.length ≤ 1 →
      word ∈ Word.press.spellings → Key.resolve? token = some code →
      IsTimeOf args p.defaultDelay time →
      p.step number line =
        { p with owed := true, events := p.events ++ (p.due ++ [.keyTap code time]) }
  /-- A number sets the default delay. -/
  defaultDelay {word : List Char} {args : List (List Char)} {time : Duration} :
    Text.fields (Text.chomp line) = word :: args → word ∈ Word.defaultDelay.spellings →
      GivesNumber 1 999 args time.val → p.step number line = { p with defaultDelay := time }
  /-- Without one the line is noted, and nothing else is done. -/
  noDefaultDelay {word : List Char} {args : List (List Char)} :
    Text.fields (Text.chomp line) = word :: args → word ∈ Word.defaultDelay.spellings →
      (∀ n, ¬ GivesNumber 1 999 args n) →
      p.step number line = { p with log := p.log ++ [.malformed number (Text.chomp line)] }

/-! ## Arguments -/

variable {line word token : List Char} {args : List (List Char)} {usual time : Duration}

/-- The time that a single argument is read as. -/
def onlyTime? (read : List Char → Option Duration) : List (List Char) → Option Duration
  | [field] => read field
  | _ => none

section OnlyTime

variable {read : List Char → Option Duration} {low high : Int}
  (hread : ∀ field (time : Duration), read field = some time ↔
    Numeral.Denotes field time.val ∧ low ≤ time.val ∧ time.val ≤ high)
include hread

theorem onlyTime?_eq_some_iff :
    onlyTime? read args = some time ↔ GivesNumber low high args time.val := by
  rcases args with _ | ⟨field, _ | ⟨other, more⟩⟩
  · simp [onlyTime?, GivesNumber]
  · simp [onlyTime?, GivesNumber, hread]
  · simp [onlyTime?, GivesNumber]

theorem onlyTime?_eq_none (hnone : ∀ n, ¬ GivesNumber low high args n) :
    onlyTime? read args = none :=
  Option.eq_none_iff_forall_ne_some.2 fun _ h => hnone _ ((onlyTime?_eq_some_iff hread).1 h)

end OnlyTime

/-- Every number from 0 to 65535 is read as a duration. -/
theorem durationOf?_reads (field : List Char) (time : Duration) : durationOf? field = some time ↔
    Numeral.Denotes field time.val ∧ 0 ≤ (time.val : Int) ∧ (time.val : Int) ≤ 65535 := by
  rw [durationOf?_eq_some_iff, Numeral.integer?_eq_some_iff, iff_self_and]
  intro
  omega

/-- Every number from 1 to 999 is read as a default delay. -/
theorem defaultDelayOf?_reads (field : List Char) (time : Duration) :
    defaultDelayOf? field = some time ↔
      Numeral.Denotes field time.val ∧ 1 ≤ (time.val : Int) ∧ (time.val : Int) ≤ 999 := by
  rw [defaultDelayOf?_eq_some_iff, Numeral.integer?_eq_some_iff]
  refine and_congr_right fun _ => ?_
  omega

theorem getD_onlyTime? (h : IsTimeOf args usual time) :
    (onlyTime? durationOf? args).getD usual = time := by
  cases h with
  | given h => rw [(onlyTime?_eq_some_iff durationOf?_reads).2 h, Option.getD_some]
  | missing hnone => rw [onlyTime?_eq_none durationOf?_reads hnone, Option.getD_none]

/-! ## Directives -/

theorem directive_delay (hfields : Text.fields (Text.chomp line) = word :: args)
    (hword : word ∈ Word.delay.spellings) :
    directive line = .delay (onlyTime? durationOf? args) := by
  rw [directive_of_fields hfields hword]
  rcases args with _ | ⟨field, _ | ⟨other, more⟩⟩ <;> rfl

theorem directive_press (hfields : Text.fields (Text.chomp line) = word :: token :: args)
    (hargs : args.length ≤ 1) (hword : word ∈ Word.press.spellings) :
    directive line = .ofKey (.press (onlyTime? durationOf? args)) token := by
  rw [directive_of_fields hfields hword]
  rcases args with _ | ⟨field, _ | ⟨other, more⟩⟩
  · rfl
  · rfl
  · simp at hargs

theorem directive_defaultDelay (hfields : Text.fields (Text.chomp line) = word :: args)
    (hword : word ∈ Word.defaultDelay.spellings) :
    directive line = match onlyTime? defaultDelayOf? args with
      | some time => .defaultDelay time
      | none => .rejected .malformed := by
  rw [directive_of_fields hfields hword]
  rcases args with _ | ⟨field, _ | ⟨other, more⟩⟩ <;> rfl

/-! ## Lines -/

/-- Every line takes the numbers that it is given. -/
theorem step_takesNumbers (p : Progress) (number : Nat) (line : List Char) :
    TakesNumbers p number line where
  delay := by
    intro word args time hfields hword htime
    rw [Progress.step, directive_delay hfields hword]
    simp [Draft.advance, Draft.emit, Directive.notes, getD_onlyTime? htime]
  press := by
    intro word token args code time hfields hargs hword hcode htime
    rw [Progress.step, directive_press hfields hargs hword, Directive.ofKey, hcode]
    simp [Draft.advance, Draft.emit, Stroke.event, Directive.notes, getD_onlyTime? htime]
  defaultDelay := by
    intro word args time hfields hword htime
    rw [Progress.step, directive_defaultDelay hfields hword,
      (onlyTime?_eq_some_iff defaultDelayOf?_reads).2 htime]
    simp [Draft.advance, Draft.emit, Directive.notes]
  noDefaultDelay := by
    intro word args hfields hword hnone
    rw [Progress.step, directive_defaultDelay hfields hword,
      onlyTime?_eq_none defaultDelayOf?_reads hnone]
    simp [Draft.advance, Draft.emit, Directive.notes]

example : (({ defaultDelay := 40 } : Progress).run 1 ["delay -0".toList, "delay 65536".toList,
    "press a +0007".toList, "delay 1_0".toList]).events =
    [.delay 0, .delay 40, .keyTap 65 7, .delay 40] := by
  cbv

end KeyMacro.Script
