import Mathlib.Data.List.Induction
import KeyMacro.Proofs.Script.Line

/-!
# Scripts line by line

A script may be cut anywhere: what its later lines add depends on the earlier
ones only through the draft that they leave (`draftAfter`), and the events of
the parts follow each other (`eventsAfter_append`). The draft, in turn, is told
by the lines themselves:

* its default delay is that of the last default delay line (`inForce`);
* a delay is owed if there is a key line and behind it neither another one, nor
  a delay line, nor a waiving line (`owed_quiet`).

A run of lines among which there is no key line is *quiet*.
-/

namespace KeyMacro.Script

/-! ## Runs in parts -/

theorem Draft.run_append (draft : Draft) (ds es : List Directive) :
    draft.run (ds ++ es) =
      (((draft.run ds).1.run es).1, (draft.run ds).2 ++ ((draft.run ds).1.run es).2) := by
  induction ds generalizing draft with
  | nil => simp [run]
  | cons d ds ih => simp [run, ih]

/-- The draft that lines leave. -/
def draftAfter (before : List (List Char)) : Draft := (Draft.run {} (directives before)).1

/-- The events that lines add behind other lines. -/
def eventsAfter (before lines : List (List Char)) : List Event :=
  ((draftAfter before).run (directives lines)).2

theorem compile_eq (lines : List (List Char)) : compile lines =
    { name := (draftAfter lines).name
      defaultDelay := ((draftAfter lines).defaultDelay.val : Int)
      events := eventsAfter [] lines } := rfl

theorem compile_events (lines : List (List Char)) :
    (compile lines).events = eventsAfter [] lines := rfl

theorem draftAfter_concat (before : List (List Char)) (line : List Char) :
    draftAfter (before ++ [line]) = (draftAfter before).advance (directive line) := by
  simp [draftAfter, directives, Draft.run_append, Draft.run, directive]

theorem eventsAfter_nil (before : List (List Char)) : eventsAfter before [] = [] := rfl

theorem eventsAfter_cons (before : List (List Char)) (line : List Char)
    (rest : List (List Char)) : eventsAfter before (line :: rest) =
      (draftAfter before).emit (directive line) ++ eventsAfter (before ++ [line]) rest := by
  rw [eventsAfter, eventsAfter, draftAfter_concat]
  rfl

theorem eventsAfter_append (before first second : List (List Char)) :
    eventsAfter before (first ++ second) =
      eventsAfter before first ++ eventsAfter (before ++ first) second := by
  induction first generalizing before with
  | nil => simp [eventsAfter_nil]
  | cons line first ih => simp [eventsAfter_cons, ih]

/-! ## The default delay -/

/-- The default delay in force behind some lines: that of the last default delay
    line among them, if there is one. -/
def inForce (before : List (List Char)) : Duration :=
  (before.filterMap defaultDelayLine?).getLast?.getD Macro.usualDelay

/-- The same for lines in front of which another default delay than the usual one is in
    force. -/
def inForceFrom (time : Duration) (before : List (List Char)) : Duration :=
  (before.filterMap defaultDelayLine?).getLast?.getD time

theorem inForceFrom_cons (time : Duration) (line : List Char) (rest : List (List Char)) :
    inForceFrom time (line :: rest) = inForceFrom ((defaultDelayLine? line).getD time) rest := by
  rw [inForceFrom, inForceFrom, List.filterMap_cons]
  cases defaultDelayLine? line with
  | none => rfl
  | some other => simp [List.getLast?_cons]

theorem defaultDelay_advance (draft : Draft) (d : Directive) :
    (draft.advance d).defaultDelay = d.defaultDelay?.getD draft.defaultDelay := by
  cases d <;> rfl

/-- The last default delay line has the say, if there is one. -/
theorem defaultDelay_run (draft : Draft) (lines : List (List Char)) :
    (draft.run (directives lines)).1.defaultDelay = inForceFrom draft.defaultDelay lines := by
  induction lines generalizing draft with
  | nil => rfl
  | cons line lines ih =>
    rw [directives_cons, Draft.run, inForceFrom_cons, defaultDelayLine?_eq, ← defaultDelay_advance]
    exact ih _

theorem defaultDelay_draftAfter (before : List (List Char)) :
    (draftAfter before).defaultDelay = inForce before :=
  defaultDelay_run {} before

/-! ## Delays that are owed -/

/-- Whether none of some lines is a key line. -/
def IsQuiet (lines : List (List Char)) : Prop := ∀ line ∈ lines, keyLine? line = none

/-- Whether a line settles a delay that is owed. -/
def settles (line : List Char) : Bool := (delayLine? line).isSome || isWaivingLine line

theorem owed_advance (draft : Draft) (d : Directive) :
    (draft.advance d).owed = (d.key?.isSome || draft.owed && !(d.delay?.isSome || d.isWaiver)) := by
  cases d <;> simp [Draft.advance, Directive.key?, Directive.delay?, Directive.isWaiver]

/-- A key line leaves a delay owed. -/
theorem owed_of_keyLine {before : List (List Char)} {line : List Char}
    (h : (keyLine? line).isSome) : (draftAfter (before ++ [line])).owed := by
  rw [draftAfter_concat, owed_advance, ← keyLine?_eq, h, Bool.true_or]

/-- Through quiet lines a delay stays owed until a line settles it. -/
theorem owed_quiet {before quiet : List (List Char)} (h : IsQuiet quiet) :
    (draftAfter (before ++ quiet)).owed =
      ((draftAfter before).owed && !quiet.any settles) := by
  induction quiet using List.reverseRecOn with
  | nil => simp
  | append_singleton quiet line ih =>
    -- The last line decides, as it is no key line either.
    have hq : IsQuiet quiet := fun l hl => h l (List.mem_append_left _ hl)
    have hl : keyLine? line = none := h line (by simp)
    rw [← List.append_assoc, draftAfter_concat, owed_advance, ← keyLine?_eq, ← delayLine?_eq,
      ← isWaivingLine_eq, hl, ih hq]
    simp [settles, Bool.and_assoc]

/-! ## Handing over -/

/-- A script as it is handed over: as one text, or line by line. -/
inductive Source where
  | text (cs : List Char)
  | lines (ls : List (List Char))

/-- The lines of a script. -/
def Source.toLines : Source → List (List Char)
  | text cs => ofText cs
  | lines ls => ls

end KeyMacro.Script
