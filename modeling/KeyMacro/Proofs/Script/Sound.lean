import KeyMacro.Proofs.Event
import KeyMacro.Proofs.Script.Run
import KeyMacro.Proofs.Text.Blank

/-!
# Sound macros

However a script looks, the macro that it is compiled to is *sound*
(`Macro.IsSound`): its default delay is one that scripts may set, its name is
there to be seen, and its events have keys of the table and times that fit an
opcode. The same holds after every line on the way.

That the numbers fit is not a matter of the types alone. A script may also be
carried out with plain integers, whose range is only looked at when an event is
made of them (`Checked.run`). As no such check ever fails, this is the same as
compiling the script (`Checked.run_eq`).
-/

namespace KeyMacro

/-! ## Soundness -/

/-- Whether a name is there to be seen: it begins with a character that is no
    blank. -/
def IsVisible (name : List Char) : Prop := ∃ c rest, name = c :: rest ∧ Text.isBlank c = false

/-- What every compiled macro is like. -/
structure Macro.IsSound (m : Macro) : Prop where
  defaultDelay : 1 ≤ m.defaultDelay ∧ m.defaultDelay ≤ 999
  times : ∀ e ∈ m.events, ∀ time ∈ e.time?, 0 ≤ time.val ∧ time.val ≤ 65535
  keys : ∀ e ∈ m.events, ∀ code ∈ e.key?, Key.IsNamed code ∧ Key.IsOrdinary code
  name : IsVisible m.name

namespace Script

/-! ## Directives -/

theorem isNamed_of_directive {line : List Char} {stroke : Stroke} {code : KeyCode}
    (h : directive line = .key stroke code) : Key.IsNamed code := by
  have hk : keyLine? line = some (stroke, code) := by rw [keyLine?_eq, h]; rfl
  obtain ⟨token, ht⟩ : ∃ token, Key.resolve? token = some code := by
    -- Wherever a key line has a key, a token was resolved to it.
    unfold keyLine? at hk
    repeat' split at hk
    all_goals first
      | cases hk
      | obtain ⟨_, ht, he⟩ := Option.map_eq_some_iff.1 hk
        cases he
        exact ⟨_, ht⟩
  exact Key.isNamed_of_resolve? ht

theorem toOption_duration?_eq_some_iff {n : Int} {time : Duration} :
    (duration? n).toOption = some time ↔ n = time.val := by
  by_cases h : 0 ≤ n ∧ n < 65536
  · simp only [duration?, h, and_self, ↓reduceDIte, Except.toOption, Option.some.injEq, Fin.ext_iff]
    omega
  · simp only [duration?, h, ↓reduceDIte, Except.toOption, reduceCtorEq, false_iff]
    omega

theorem durationOf?_eq_some_iff {field : List Char} {time : Duration} :
    durationOf? field = some time ↔ Numeral.integer? field = some (time.val : Int) := by
  rw [durationOf?]
  cases Numeral.integer? field with
  | none => simp
  | some n =>
    show (duration? n).toOption = some time ↔ _
    rw [toOption_duration?_eq_some_iff, Option.some.injEq]

theorem defaultDelayOf?_eq_some_iff {field : List Char} {time : Duration} :
    defaultDelayOf? field = some time ↔
      Numeral.integer? field = some (time.val : Int) ∧ 1 ≤ time.val ∧ time.val ≤ 999 := by
  rw [defaultDelayOf?]
  cases Numeral.integer? field with
  | none => simp
  | some n =>
    by_cases h : minDefaultDelay ≤ n ∧ n ≤ maxDefaultDelay
    · simp only [minDefaultDelay, maxDefaultDelay] at h
      simp only [minDefaultDelay, maxDefaultDelay, Option.bind_eq_bind, Option.bind_some, h,
        and_self, ↓reduceIte, toOption_duration?_eq_some_iff, Option.some.injEq, iff_self_and]
      omega
    · simp only [minDefaultDelay, maxDefaultDelay] at h
      simp only [minDefaultDelay, maxDefaultDelay, Option.bind_eq_bind, Option.bind_some, h,
        ↓reduceIte, reduceCtorEq, Option.some.injEq, false_iff, not_and]
      omega

theorem range_of_directive {line : List Char} {time : Duration}
    (h : directive line = .defaultDelay time) : 1 ≤ time.val ∧ time.val ≤ 999 := by
  have hd : defaultDelayLine? line = some time := by rw [defaultDelayLine?_eq, h]; rfl
  unfold defaultDelayLine? at hd
  split at hd
  · rw [Option.ite_none_right_eq_some, defaultDelayOf?_eq_some_iff] at hd
    exact hd.2.2
  · cases hd

theorem isVisible_of_directive {line text : List Char} (h : directive line = .name (some text)) :
    IsVisible text := by
  have hn : nameLine? line = some (some text) := by rw [nameLine?_eq, h]; rfl
  unfold nameLine? at hn
  split at hn
  · cases hn
  next word args hf =>
    simp only [Option.ite_none_right_eq_some, Option.some.injEq, Option.ite_none_left_eq_some] at hn
    obtain ⟨-, hargs, rfl⟩ := hn
    obtain ⟨arg, more, rfl⟩ := List.exists_cons_of_ne_nil hargs
    exact Text.afterFirst_eq_cons hf

/-! ## Drafts -/

/-- What the draft after each line of a script is like. -/
structure Draft.IsSound (draft : Draft) : Prop where
  defaultDelay : 1 ≤ draft.defaultDelay.val ∧ draft.defaultDelay.val ≤ 999
  name : IsVisible draft.name

theorem isVisible_usualName : IsVisible Macro.usualName := ⟨'N', "ewMacro".toList, rfl, rfl⟩

theorem isSound_advance {draft : Draft} (h : draft.IsSound) (line : List Char) :
    (draft.advance (directive line)).IsSound := by
  cases hd : directive line with
  | defaultDelay time => exact ⟨range_of_directive hd, h.name⟩
  | name text =>
    refine ⟨h.defaultDelay, ?_⟩
    cases text with
    | none => exact isVisible_usualName
    | some text => exact isVisible_of_directive hd
  | blank | delay | noDelay | key | rejected => exact ⟨h.defaultDelay, h.name⟩

theorem isSound_draftAfter (lines : List (List Char)) : (draftAfter lines).IsSound := by
  induction lines using List.reverseRecOn with
  | nil => exact ⟨by decide, isVisible_usualName⟩
  | append_singleton lines line ih =>
    rw [draftAfter_concat]
    exact isSound_advance ih line

/-! ## Events -/

theorem isNamed_of_mem_emit {draft : Draft} {line : List Char} {e : Event} {code : KeyCode}
    (he : e ∈ draft.emit (directive line)) (hc : e.key? = some code) : Key.IsNamed code := by
  cases hd : directive line with
  | key stroke code' =>
    rw [hd, Draft.emit, List.mem_append, List.mem_singleton] at he
    rcases he with he | rfl
    · -- The delay that is owed has no key.
      rw [Draft.due] at he
      split at he <;> simp at he
      subst he
      cases hc
    · have : code = code' := by cases stroke <;> exact (Option.some.inj hc).symm
      exact this ▸ isNamed_of_directive hd
  | delay time =>
    rw [hd, Draft.emit, List.mem_singleton] at he
    subst he
    cases hc
  | blank | defaultDelay | noDelay | name | rejected =>
    rw [hd] at he
    cases he

theorem isNamed_of_mem_eventsAfter {before lines : List (List Char)} {e : Event} {code : KeyCode}
    (he : e ∈ eventsAfter before lines) (hc : e.key? = some code) : Key.IsNamed code := by
  induction lines generalizing before with
  | nil => cases he
  | cons line lines ih =>
    rw [eventsAfter_cons, List.mem_append] at he
    rcases he with he | he
    · exact isNamed_of_mem_emit he hc
    · exact ih he

theorem isSound_compile (lines : List (List Char)) : (compile lines).IsSound := by
  obtain ⟨⟨hlow, hhigh⟩, hname⟩ := isSound_draftAfter lines
  rw [compile_eq]
  refine ⟨⟨?_, ?_⟩, fun e _ time _ => ⟨Nat.zero_le _, Nat.le_of_lt_succ time.isLt⟩, ?_, hname⟩
  · exact Int.ofNat_le.2 hlow
  · exact Int.ofNat_le.2 hhigh
  · intro e he code hc
    have := isNamed_of_mem_eventsAfter he hc
    exact ⟨this, Key.isOrdinary_of_isNamed this⟩

/-! ## Checked numbers -/

namespace Checked

/-- A macro as far as it has been carried out with plain numbers. -/
structure State where
  name : List Char := Macro.usualName
  defaultDelay : Int := 15
  owed : Bool := false
  events : List Event := []

/-- The number that a field gives, if it gives one between two bounds. -/
def numberIn? (low high : Int) (field : List Char) : Option Int :=
  (Numeral.integer? field).filter fun n => low ≤ n ∧ n ≤ high

/-- The number of the only one of some fields. -/
def onlyNumberIn? (low high : Int) : List (List Char) → Option Int
  | [field] => numberIn? low high field
  | _ => none

/-- The state with another event, whose numbers may be out of range. -/
def State.append (s : State) (event : Except RangeError Event) : Except RangeError State := do
  return { s with events := s.events ++ [← event] }

/-- The state with another key event, behind the delay that is owed. -/
def State.emit (s : State) (event : Except RangeError Event) : Except RangeError State := do
  let paid ← if s.owed then s.append (Event.delay? s.defaultDelay) else pure s
  let next ← paid.append event
  return { next with owed := true }

/-- The state with an event of the key that a token names. -/
def State.strike (s : State) (token : List Char) (event : Int → Except RangeError Event) :
    Except RangeError State :=
  match Key.resolve? token with
  | some code => s.emit (event code.val)
  | none => pure s

/-- What the arguments of a word do, given the line that they are in. -/
def State.obey (s : State) (args : List (List Char)) (line : List Char) :
    Word → Except RangeError State
  | .delay => do
    let next ← s.append (Event.delay? ((onlyNumberIn? 0 65535 args).getD s.defaultDelay))
    return { next with owed := false }
  | .defaultDelay => pure { s with defaultDelay := (onlyNumberIn? 1 999 args).getD s.defaultDelay }
  | .noDelay => pure { s with owed := false }
  | .name => pure { s with name := if args = [] then Macro.usualName else Text.afterFirst line }
  | .press =>
    match args with
    | [token] => s.strike token (Event.keyTap? · s.defaultDelay)
    | [token, field] =>
      s.strike token (Event.keyTap? · ((numberIn? 0 65535 field).getD s.defaultDelay))
    | _ => pure s
  | .down =>
    match args with
    | [token] => s.strike token Event.keyDown?
    | _ => pure s
  | .up =>
    match args with
    | [token] => s.strike token Event.keyUp?
    | _ => pure s

/-- What a line does. -/
def State.step (s : State) (line : List Char) : Except RangeError State :=
  match Text.fields (Text.chomp line) with
  | [] => pure s
  | word :: args =>
    match Word.ofField? word with
    | some w => s.obey args (Text.chomp line) w
    | none => s.strike word (Event.keyTap? · s.defaultDelay)

/-- What the lines of a script do, if no number on the way is out of range. -/
def run (lines : List (List Char)) : Except RangeError State := lines.foldlM State.step {}

/-- The macro of a state. -/
def State.toMacro (s : State) : Macro where
  name := s.name
  defaultDelay := s.defaultDelay
  events := s.events

/-- The state of a draft with the events up to it. -/
def State.ofDraft (draft : Draft) (events : List Event) : State where
  name := draft.name
  defaultDelay := (draft.defaultDelay.val : Int)
  owed := draft.owed
  events := events

@[simp]
theorem State.defaultDelay_ofDraft (draft : Draft) (events : List Event) :
    (State.ofDraft draft events).defaultDelay = draft.defaultDelay.val := rfl

/-- The numbers of a stroke of a key are in range. -/
theorem stroke?_val (code : KeyCode) (time : Duration) :
    Event.delay? (time.val : Int) = .ok (.delay time) ∧
      Event.keyDown? (code.val : Int) = .ok (.keyDown code) ∧
      Event.keyUp? (code.val : Int) = .ok (.keyUp code) ∧
      Event.keyTap? (code.val : Int) (time.val : Int) = .ok (.keyTap code time) := by
  rw [Event.delay?, Event.keyDown?, Event.keyUp?, Event.keyTap?, duration?_val, keyCode?_val]
  exact ⟨rfl, rfl, rfl, rfl⟩

theorem numberIn?_duration (field : List Char) :
    numberIn? 0 65535 field = (durationOf? field).map fun time => (time.val : Int) := by
  rw [numberIn?, durationOf?]
  cases Numeral.integer? field with
  | none => rfl
  | some n =>
    by_cases h : 0 ≤ n ∧ n < 65536
    · have h' : 0 ≤ n ∧ n ≤ 65535 := by omega
      simp [duration?, h, h', Except.toOption]
    · have h' : 0 ≤ n → 65535 < n := by omega
      simpa [duration?, h, Except.toOption] using h'

theorem numberIn?_defaultDelay (field : List Char) :
    numberIn? 1 999 field = (defaultDelayOf? field).map fun time => (time.val : Int) := by
  rw [numberIn?, defaultDelayOf?]
  cases Numeral.integer? field with
  | none => rfl
  | some n =>
    by_cases h : 1 ≤ n ∧ n ≤ 999
    · have h' : 0 ≤ n ∧ n < 65536 := by omega
      simp [duration?, minDefaultDelay, maxDefaultDelay, h, h', Except.toOption]
    · have h' : 1 ≤ n → 999 < n := by omega
      simpa [minDefaultDelay, maxDefaultDelay, h] using h'

theorem append_ok (s : State) (event : Event) :
    s.append (.ok event) = .ok { s with events := s.events ++ [event] } := rfl

/-- A key event stands behind the delay that is owed. -/
theorem emit_ok (s : State) (event : Event) {time : Duration} (h : s.defaultDelay = time.val) :
    s.emit (.ok event) = .ok { s with
      owed := true
      events := s.events ++ ((if s.owed then [.delay time] else []) ++ [event]) } := by
  obtain ⟨name, defaultDelay, owed, events⟩ := s
  obtain rfl : defaultDelay = time.val := h
  rw [State.emit, (stroke?_val 0 time).1]
  cases owed with
  | false => rfl
  | true =>
    simp only [↓reduceIte, append_ok]
    show Except.ok _ = _
    simp

/-- What is rejected adds nothing. -/
theorem rejected_ofDraft (draft : Draft) (events : List Event) (cause : Rejection) :
    (.ok (State.ofDraft draft events) : Except RangeError State) =
      .ok (State.ofDraft (draft.advance (.rejected cause))
        (events ++ draft.emit (.rejected cause))) := by
  simp [Draft.advance, Draft.emit]

/-- A key event adds to a state what it adds to a draft. -/
theorem strike_ofDraft (draft : Draft) (events : List Event) (stroke : Stroke)
    (token : List Char) {event : Int → Except RangeError Event}
    (h : ∀ code : KeyCode, event code.val = .ok (stroke.event code draft.defaultDelay)) :
    (State.ofDraft draft events).strike token event =
      .ok (State.ofDraft (draft.advance (.ofKey stroke token))
        (events ++ draft.emit (.ofKey stroke token))) := by
  rw [State.strike, Directive.ofKey]
  cases Key.resolve? token with
  | none => exact rejected_ofDraft draft events (.unknownKey token)
  | some code =>
    simp only [h code]
    rw [emit_ok _ _ rfl]
    rfl

theorem getD_map_val (time : Option Duration) (usual : Duration) :
    (time.map fun t => (t.val : Int)).getD usual.val = ((time.getD usual).val : Int) := by
  cases time <;> rfl

/-- A tap adds to a state what it adds to a draft. -/
theorem tap_ofDraft (draft : Draft) (events : List Event) (time : Option Duration)
    (token : List Char) :
    (State.ofDraft draft events).strike token
        (Event.keyTap? · (time.getD draft.defaultDelay).val) =
      .ok (State.ofDraft (draft.advance (.ofKey (.press time) token))
        (events ++ draft.emit (.ofKey (.press time) token))) :=
  strike_ofDraft draft events (.press time) token fun code => (stroke?_val code _).2.2.2

/-- A delay adds to a state what it adds to a draft. -/
theorem delay_ofDraft (draft : Draft) (events : List Event) (time : Option Duration) :
    (do let next ← (State.ofDraft draft events).append
          (Event.delay? (time.getD draft.defaultDelay).val)
        return { next with owed := false }) =
      (.ok (State.ofDraft (draft.advance (.delay time)) (events ++ draft.emit (.delay time))) :
        Except RangeError State) := by
  rw [(stroke?_val 0 _).1, append_ok]
  rfl

/-- The arguments of a word do to a state what they do to a draft. -/
theorem obey_ofDraft (draft : Draft) (events : List Event) (word : Word) {field : List Char}
    {args : List (List Char)} {line : List Char} (hfields : Text.fields line = field :: args) :
    (State.ofDraft draft events).obey args line word =
      .ok (State.ofDraft (draft.advance (.ofWord word args line))
        (events ++ draft.emit (.ofWord word args line))) := by
  -- Each word counts its arguments before it looks at any of them.
  cases word with
  | delay =>
    rcases args with _ | ⟨field, _ | ⟨_, _⟩⟩
    · exact delay_ofDraft draft events none
    · rw [State.obey, onlyNumberIn?, numberIn?_duration, State.defaultDelay_ofDraft, getD_map_val]
      exact delay_ofDraft draft events (durationOf? field)
    · exact delay_ofDraft draft events none
  | defaultDelay =>
    rcases args with _ | ⟨field, _ | ⟨_, _⟩⟩
    · exact rejected_ofDraft draft events .malformed
    · rw [State.obey, onlyNumberIn?, numberIn?_defaultDelay, State.defaultDelay_ofDraft,
        getD_map_val, Directive.ofWord]
      cases defaultDelayOf? field <;> simp [Draft.advance, Draft.emit] <;> rfl
    · exact rejected_ofDraft draft events .malformed
  | noDelay =>
    simp only [State.obey, Directive.ofWord, Draft.advance, Draft.emit, List.append_nil]
    rfl
  | name =>
    rw [Directive.ofWord, Text.splitOnce_eq hfields]
    cases args <;> simp [State.obey, Draft.advance, Draft.emit] <;> rfl
  | press =>
    rcases args with _ | ⟨token, _ | ⟨field, _ | ⟨_, _⟩⟩⟩
    · exact rejected_ofDraft draft events .malformed
    · exact tap_ofDraft draft events none token
    · rw [State.obey, numberIn?_duration, State.defaultDelay_ofDraft, getD_map_val]
      exact tap_ofDraft draft events (durationOf? field) token
    · exact rejected_ofDraft draft events .malformed
  | down =>
    rcases args with _ | ⟨token, _ | ⟨_, _⟩⟩
    · exact rejected_ofDraft draft events .malformed
    · exact strike_ofDraft draft events .down token fun code => (stroke?_val code 0).2.1
    · exact rejected_ofDraft draft events .malformed
  | up =>
    rcases args with _ | ⟨token, _ | ⟨_, _⟩⟩
    · exact rejected_ofDraft draft events .malformed
    · exact strike_ofDraft draft events .up token fun code => (stroke?_val code 0).2.2.1
    · exact rejected_ofDraft draft events .malformed

/-- A line does to a state what it does to a draft, and is never out of range. -/
theorem step_ofDraft (draft : Draft) (events : List Event) (line : List Char) :
    (State.ofDraft draft events).step line =
      .ok (State.ofDraft (draft.advance (directive line))
        (events ++ draft.emit (directive line))) := by
  rw [State.step, directive_eq]
  cases hfields : Text.fields (Text.chomp line) with
  | nil => simp [Draft.advance, Draft.emit, pure, Except.pure]
  | cons word args =>
    simp only []
    cases Word.ofField? word with
    | some w => exact obey_ofDraft draft events w hfields
    | none =>
      exact strike_ofDraft draft events (.press none) word fun code => (stroke?_val code _).2.2.2

theorem run_ofDraft (before lines : List (List Char)) (events : List Event) :
    lines.foldlM State.step (State.ofDraft (draftAfter before) events) =
      .ok (State.ofDraft (draftAfter (before ++ lines)) (events ++ eventsAfter before lines)) := by
  induction lines generalizing before events with
  | nil => simp [eventsAfter_nil, pure, Except.pure]
  | cons line lines ih =>
    rw [List.foldlM_cons, step_ofDraft, ← draftAfter_concat]
    show lines.foldlM State.step _ = _
    rw [ih, eventsAfter_cons]
    simp

/-- No number of a script is ever out of range, and so checking changes nothing. -/
theorem run_eq (lines : List (List Char)) :
    run lines = .ok (State.ofDraft (draftAfter lines) (eventsAfter [] lines)) :=
  run_ofDraft [] lines []

end Checked

/-! ## Sources -/

/-- Up to any line, a script can be carried out with no number out of range, and
    leaves a sound macro. -/
theorem run_take_isSound (source : Source) (count : Nat) :
    (Checked.run (source.toLines.take count)).map Checked.State.toMacro =
        .ok (compile (source.toLines.take count)) ∧
      (compile (source.toLines.take count)).IsSound := by
  refine ⟨?_, isSound_compile _⟩
  rw [Checked.run_eq]
  rfl

end Script

end KeyMacro
