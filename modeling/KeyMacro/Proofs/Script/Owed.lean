import KeyMacro.Proofs.Script.Gap
import KeyMacro.Proofs.Script.Progress

/-!
# What it matters that a delay is owed

Whether a delay is owed when a line comes makes a difference to one event at most. Let
some lines be carried out twice on one macro, once with a delay owed to it and once
without. Which lines these are decides what comes of it:

* key lines, delay lines and waiving lines are *effective* (`isEffective`): what is owed
  behind them does not depend on what was owed before. The first effective line is where
  the two macros meet;
* if it is a key line, then the lines *pay* the delay (`PaysDelay`): the macro to which it
  was owed has one more delay in front of the first key event of the lines, and this is
  the only difference there will ever be (`IsDelayed`);
* if it is not, the macros are the same from there on;
* without effective lines, the delay is still owed to the one and not to the other.

Neither the name nor the default delay nor the log is affected. All this together is what
it is to differ by a delay (`DiffersByDelay`), and the two macros always do
(`run_differsByDelay`).
-/

namespace KeyMacro.Script

/-! ## Two macros -/

/-- Whether it does not matter to what is owed behind a line what was owed before. -/
def isEffective (line : List Char) : Bool := (keyLine? line).isSome || settles line

/-- Whether a delay is paid that is owed before some lines: there is a key line among
    them, and neither a delay line nor a waiving line in front of it. -/
def PaysDelay (lines : List (List Char)) : Prop :=
  ∃ before line after, lines = before ++ line :: after ∧ (keyLine? line).isSome ∧
    ∀ l ∈ before, settles l = false

/-- Whether some events are others with one delay inserted, immediately before the first
    key event that lines added to a macro. It is the default delay in force at the line of
    that event. -/
def IsDelayed (start : Progress) (lines : List (List Char)) (events others : List Event) : Prop :=
  ∃ before line after stroke code front back, lines = before ++ line :: after ∧ IsQuiet before ∧
    keyLine? line = some (stroke, code) ∧ front.filter Event.isKey = [] ∧
    let time := inForceFrom start.defaultDelay before
    others = start.events ++ front ++ stroke.event code time :: back ∧
    events = start.events ++ front ++ .delay time :: stroke.event code time :: back

/-- How two macros differ after the same lines if a delay was owed to the first one, and
    none to the second. -/
structure DiffersByDelay (start : Progress) (lines : List (List Char)) (first second : Progress) :
    Prop where
  name : first.name = second.name
  defaultDelay : first.defaultDelay = second.defaultDelay
  log : first.log = second.log
  /-- There is a delay more, or there is not. -/
  events : first.events = second.events ∨ IsDelayed start lines first.events second.events
  /-- There is if and only if the delay was paid. -/
  paid : IsDelayed start lines first.events second.events ↔ PaysDelay lines
  /-- An effective line leaves the same owed to both. -/
  met : (∃ line ∈ lines, isEffective line = true) → first.owed = second.owed
  /-- Without one, what was owed is owed. -/
  unmet : (∀ line ∈ lines, isEffective line = false) → first.owed = true ∧ second.owed = false

/-! ## The first effective line -/

variable {start : Progress} {lines : List (List Char)} {line : List Char}

/-- A delay is paid if the first effective line is a key line. -/
theorem paysDelay_iff :
    PaysDelay lines ↔ ∃ line, lines.find? isEffective = some line ∧ (keyLine? line).isSome := by
  constructor
  · rintro ⟨before, line, after, rfl, hkey, hbefore⟩
    rw [List.find?_append]
    cases hfind : before.find? isEffective with
    | none => exact ⟨line, by simp [isEffective, hkey], hkey⟩
    | some other =>
      -- A line in front of the key line is effective only if it is a key line itself.
      have heffective := List.find?_some hfind
      rw [isEffective, hbefore other (List.mem_of_find?_eq_some hfind), Bool.or_false]
        at heffective
      exact ⟨other, rfl, heffective⟩
  · rintro ⟨line, hfind, hkey⟩
    obtain ⟨-, before, after, rfl, hbefore⟩ := List.find?_eq_some_iff_append.1 hfind
    refine ⟨before, line, after, rfl, hkey, fun l hl => ?_⟩
    have := hbefore l hl
    simp_all [isEffective]

theorem not_isDelayed_self (events : List Event) : ¬ IsDelayed start lines events events := by
  rintro ⟨before, line, after, stroke, code, front, back, -, -, -, -, hothers, hevents⟩
  have hlength := congrArg List.length (hothers.symm.trans hevents)
  simp at hlength

/-! ## Macros that a delay is owed to -/

namespace Progress

/-- The macro with a delay owed to it, or with none. -/
def owing (p : Progress) (owed : Bool) : Progress := { p with owed := owed }

/-- A line that is not effective leaves the events and what is owed as they are. -/
theorem step_owing (p : Progress) (owed : Bool) (number : Nat) (h : isEffective line = false) :
    (p.owing owed).step number line = (p.step number line).owing owed ∧
      (p.step number line).events = p.events := by
  rw [isEffective, settles, keyLine?_eq, delayLine?_eq, isWaivingLine_eq] at h
  rw [step, step]
  cases hd : directive line with
  | blank | defaultDelay | name | rejected => simp [owing, Draft.advance, Draft.emit]
  | key | delay | noDelay =>
    rw [hd] at h
    cases h

theorem run_owing (p : Progress) (owed : Bool) (number : Nat)
    (h : ∀ line ∈ lines, isEffective line = false) :
    (p.owing owed).run number lines = (p.run number lines).owing owed ∧
      (p.run number lines).events = p.events := by
  induction lines generalizing p number with
  | nil => exact ⟨rfl, rfl⟩
  | cons line lines ih =>
    rw [List.forall_mem_cons] at h
    obtain ⟨hstep, hevents⟩ := p.step_owing owed number h.1
    obtain ⟨hrun, hrest⟩ := ih (p.step number line) (number + 1) h.2
    rw [run, run, hstep, hrun, hrest, hevents]
    exact ⟨rfl, rfl⟩

/-- A line that settles the delay makes up for it. -/
theorem step_owing_of_settles (p : Progress) (owed : Bool) (number : Nat)
    (h : settles line = true) : (p.owing owed).step number line = p.step number line := by
  rw [settles, delayLine?_eq, isWaivingLine_eq] at h
  rw [step, step]
  cases hd : directive line with
  | delay | noDelay => rfl
  | blank | key | defaultDelay | name | rejected =>
    rw [hd] at h
    cases h

/-- A key line pays the delay and adds its event. -/
theorem step_owing_of_keyLine (p : Progress) (owed : Bool) (number : Nat) {stroke : Stroke}
    {code : KeyCode} (h : keyLine? line = some (stroke, code)) :
    (p.owing owed).step number line = { p.owing true with
      events := p.events ++ ((if owed then [.delay p.defaultDelay] else []) ++
        [stroke.event code p.defaultDelay]) } := by
  rw [keyLine?_eq] at h
  rw [step]
  cases hd : directive line with
  | key =>
    rw [hd] at h
    cases h
    cases owed <;> simp [owing, Draft.advance, Draft.emit, Draft.due, Directive.notes]
  | blank | delay | noDelay | defaultDelay | name | rejected =>
    rw [hd] at h
    cases h

/-- The events that are there have no part in what is added to them. -/
theorem run_events (p : Progress) (events : List Event) (number : Nat)
    (lines : List (List Char)) : { p with events }.run number lines =
      { p.run number lines with events := events ++ (p.toDraft.run (directives lines)).2 } := by
  rw [run_eq, run_eq]

theorem defaultDelay_run (p : Progress) (number : Nat) (lines : List (List Char)) :
    (p.run number lines).defaultDelay = inForceFrom p.defaultDelay lines := by
  rw [run_eq]
  exact Script.defaultDelay_run p.toDraft lines

end Progress

/-! ## Two runs -/

/-- What comes of it that a delay was owed to the first one of two macros. -/
inductive Outcome (start : Progress) (lines : List (List Char)) (first second : Progress) : Prop
  /-- The delay is still owed. -/
  | pending {p : Progress} : lines.find? isEffective = none → first = p.owing true →
      second = p.owing false → Outcome start lines first second
  /-- It has been settled by a line. -/
  | settled {line : List Char} : lines.find? isEffective = some line → keyLine? line = none →
      first = second → Outcome start lines first second
  /-- It has been paid. -/
  | paid {line : List Char} : lines.find? isEffective = some line → (keyLine? line).isSome →
      first = { second with events := first.events } →
      IsDelayed start lines first.events second.events → Outcome start lines first second

/-- One of the three comes of it. -/
theorem outcome_run (start : Progress) (number : Nat) (lines : List (List Char)) :
    Outcome start lines ((start.owing true).run number lines)
      ((start.owing false).run number lines) := by
  cases hfind : lines.find? isEffective with
  | none =>
    have hidle : ∀ line ∈ lines, isEffective line = false := by
      simpa using List.find?_eq_none.1 hfind
    exact .pending hfind (start.run_owing true number hidle).1
      (start.run_owing false number hidle).1
  | some line =>
    obtain ⟨heffective, before, after, rfl, hbefore⟩ := List.find?_eq_some_iff_append.1 hfind
    have hidle : ∀ l ∈ before, isEffective l = false := by simpa using hbefore
    -- Up to the effective line, the macros differ in what is owed only.
    have hevents : (start.run number before).events = start.events :=
      (start.run_owing true number hidle).2
    have htime : (start.run number before).defaultDelay = inForceFrom start.defaultDelay before :=
      start.defaultDelay_run number before
    have hrun (owed : Bool) : (start.owing owed).run number (before ++ line :: after) =
        (((start.run number before).owing owed).step (number + before.length) line).run
          (number + before.length + 1) after := by
      rw [Progress.run_append, (start.run_owing owed number hidle).1, Progress.run]
    generalize start.run number before = p at hevents htime hrun
    cases hkey : keyLine? line with
    | none =>
      have hsettles : settles line = true := by simpa [isEffective, hkey] using heffective
      refine .settled hfind hkey ?_
      rw [hrun, hrun, Progress.step_owing_of_settles _ _ _ hsettles,
        Progress.step_owing_of_settles _ _ _ hsettles]
    | some key =>
      obtain ⟨stroke, code⟩ := key
      have hquiet : IsQuiet before := by
        intro l hl
        have := hidle l hl
        simp_all [isEffective]
      -- Behind the key line, the same is added to both.
      have hadded (owed : Bool) : (start.owing owed).run number (before ++ line :: after) =
          { (p.owing true).run (number + before.length + 1) after with
            events := start.events ++
              ((if owed then [.delay (inForceFrom start.defaultDelay before)] else []) ++
                [stroke.event code (inForceFrom start.defaultDelay before)]) ++
              ((p.owing true).toDraft.run (directives after)).2 } := by
        rw [hrun, Progress.step_owing_of_keyLine _ _ _ hkey, Progress.run_events, hevents, htime]
      rw [hadded, hadded]
      refine .paid hfind (by rw [hkey]; rfl) rfl ?_
      exact ⟨before, line, after, stroke, code, [],
        ((p.owing true).toDraft.run (directives after)).2, rfl, hquiet, hkey, rfl, by simp, by simp⟩

namespace Outcome

variable {first second : Progress}

/-- Nothing is affected but the events and what is owed. -/
theorem agree (h : Outcome start lines first second) : first.name = second.name ∧
    first.defaultDelay = second.defaultDelay ∧ first.log = second.log := by
  cases h with
  | pending _ hfirst hsecond =>
    subst hfirst hsecond
    exact ⟨rfl, rfl, rfl⟩
  | settled _ _ heq =>
    subst heq
    exact ⟨rfl, rfl, rfl⟩
  | paid _ _ heq _ =>
    rw [heq]
    exact ⟨rfl, rfl, rfl⟩

theorem events_or (h : Outcome start lines first second) :
    first.events = second.events ∨ IsDelayed start lines first.events second.events := by
  cases h with
  | pending _ hfirst hsecond =>
    subst hfirst hsecond
    exact .inl rfl
  | settled _ _ heq => exact .inl (congrArg Progress.events heq)
  | paid _ _ _ hdelayed => exact .inr hdelayed

theorem isDelayed_iff (h : Outcome start lines first second) :
    IsDelayed start lines first.events second.events ↔ PaysDelay lines := by
  rw [paysDelay_iff]
  cases h with
  | pending hfind hfirst hsecond =>
    subst hfirst hsecond
    refine iff_of_false (not_isDelayed_self _) ?_
    rintro ⟨line, hline, -⟩
    rw [hfind] at hline
    cases hline
  | settled hfind hkey heq =>
    subst heq
    refine iff_of_false (not_isDelayed_self _) ?_
    rintro ⟨line, hline, hsome⟩
    obtain rfl := Option.some.inj (hfind.symm.trans hline)
    rw [hkey] at hsome
    cases hsome
  | paid hfind hkey _ hdelayed => exact iff_of_true hdelayed ⟨_, hfind, hkey⟩

theorem owed_eq (h : Outcome start lines first second)
    (heffective : ∃ line ∈ lines, isEffective line = true) : first.owed = second.owed := by
  cases h with
  | pending hfind _ _ =>
    obtain ⟨line, hline, heffective⟩ := heffective
    exact absurd heffective (List.find?_eq_none.1 hfind line hline)
  | settled _ _ heq => rw [heq]
  | paid _ _ heq _ => rw [heq]

theorem owed_of_idle (h : Outcome start lines first second)
    (hidle : ∀ line ∈ lines, isEffective line = false) :
    first.owed = true ∧ second.owed = false := by
  have hnone : lines.find? isEffective = none := List.find?_eq_none.2 (by simpa using hidle)
  cases h with
  | pending _ hfirst hsecond =>
    subst hfirst hsecond
    exact ⟨rfl, rfl⟩
  | settled hfind _ _ | paid hfind _ _ _ =>
    rw [hnone] at hfind
    cases hfind

end Outcome

/-- After the same lines, a macro to which a delay was owed and the same macro to which
    none was differ by a delay at most. -/
theorem run_differsByDelay (start : Progress) (number : Nat) (lines : List (List Char)) :
    DiffersByDelay start lines ({ start with owed := true }.run number lines)
      ({ start with owed := false }.run number lines) := by
  have houtcome := outcome_run start number lines
  obtain ⟨hname, hdefaultDelay, hlog⟩ := houtcome.agree
  exact {
    name := hname
    defaultDelay := hdefaultDelay
    log := hlog
    events := houtcome.events_or
    paid := houtcome.isDelayed_iff
    met := houtcome.owed_eq
    unmet := houtcome.owed_of_idle }

example : (({ owed := true } : Progress).run 1 ["defaultdelay 40".toList, "a".toList]).events =
    [.delay 40, .keyTap 65 40] := by
  cbv

end KeyMacro.Script
