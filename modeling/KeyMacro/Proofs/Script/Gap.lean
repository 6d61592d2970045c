import Mathlib
import KeyMacro.Proofs.Script.Run

/-!
# The gaps between key events

Between two key events there is a *gap*. Which delays stand in it can be told
from the lines between those of the two events, without going through the
script line by line (`gap`):

* if there are delay lines, one delay for each of them and no other;
* if there are none, but there are waiving lines, nothing;
* otherwise the default delay, which is the one in force where the gap ends.

In front of the first key event and behind the last one no delay is ever owed,
and stand only the delays of the delay lines there. A macro whose key events are
those of the key lines, with such gaps between them, is said to be *timed* by the
script (`IsTimedBy`); the macro that a script is compiled to is (`compile_isTimedBy`).
-/

namespace KeyMacro

/-- Whether an event is that of a key. -/
def Event.isKey : Event → Bool
  | delay _ => false
  | keyDown _ => true
  | keyUp _ => true
  | keyTap _ _ => true

namespace Script

/-! ## Events of lines -/

/-- The event of a key line behind some lines. -/
def keyEvent? (before : List (List Char)) (line : List Char) : Option Event :=
  (keyLine? line).map fun (stroke, code) => stroke.event code (inForce before)

/-- The event of a delay line behind some lines. -/
def delayEvent? (before : List (List Char)) (line : List Char) : Option Event :=
  (delayLine? line).map fun time => .delay (time.getD (inForce before))

/-- The events of the key lines among lines that stand behind others, in order. -/
def keyEvents (before : List (List Char)) : List (List Char) → List Event
  | [] => []
  | line :: rest => (keyEvent? before line).toList ++ keyEvents (before ++ [line]) rest

/-- The events of the delay lines among lines that stand behind others, in order. -/
def delayEvents (before : List (List Char)) : List (List Char) → List Event
  | [] => []
  | line :: rest => (delayEvent? before line).toList ++ delayEvents (before ++ [line]) rest

/-- The delays between two key events, given the lines up to that of the first and
    the lines between those of the two. -/
def gap (before quiet : List (List Char)) : List Event :=
  if quiet.any fun line => (delayLine? line).isSome then delayEvents before quiet
  else if quiet.any isWaivingLine then []
  else [.delay (inForce (before ++ quiet))]

/-- The key events are those of the key lines of a script, and the delays are
    where its delay lines, its waiving lines and its default delays want them. -/
structure IsTimedBy (events : List Event) (lines : List (List Char)) : Prop where
  /-- There is one key event for each key line, in order. -/
  keys : events.filter Event.isKey = keyEvents [] lines
  /-- Between the events of two key lines that follow each other is their gap. -/
  between : ∀ {before quiet after : List (List Char)} {x y : List Char} {e f : Event},
    lines = before ++ x :: quiet ++ y :: after → keyEvent? before x = some e → IsQuiet quiet →
    keyEvent? (before ++ x :: quiet) y = some f →
    ∃ front back, events = front ++ e :: gap (before ++ [x]) quiet ++ f :: back ∧
      front.filter Event.isKey = keyEvents [] before
  /-- In front of the event of the first key line are the delays in front of it. -/
  first : ∀ {quiet after : List (List Char)} {y : List Char} {f : Event},
    lines = quiet ++ y :: after → IsQuiet quiet → keyEvent? quiet y = some f →
    ∃ back, events = delayEvents [] quiet ++ f :: back
  /-- Behind the event of the last key line are the delays behind it. -/
  last : ∀ {before quiet : List (List Char)} {x : List Char} {e : Event},
    lines = before ++ x :: quiet → keyEvent? before x = some e → IsQuiet quiet →
    ∃ front, events = front ++ e :: delayEvents (before ++ [x]) quiet ∧
      front.filter Event.isKey = keyEvents [] before
  /-- Without key lines there are only delays. -/
  none : IsQuiet lines → events = delayEvents [] lines

/-! ## What one line adds -/

theorem isKey_event (stroke : Stroke) (code : KeyCode) (time : Duration) :
    (stroke.event code time).isKey := by
  cases stroke <;> rfl

theorem isKey_of_keyEvent? {before : List (List Char)} {line : List Char} {e : Event}
    (h : keyEvent? before line = some e) : e.isKey := by
  obtain ⟨⟨stroke, code⟩, -, rfl⟩ := Option.map_eq_some_iff.1 h
  exact isKey_event stroke code _

theorem keyLine?_of_keyEvent? {before : List (List Char)} {line : List Char} {e : Event}
    (h : keyEvent? before line = some e) : (keyLine? line).isSome := by
  obtain ⟨key, hk, -⟩ := Option.map_eq_some_iff.1 h
  rw [hk]
  rfl

/-- A key line adds its event, behind the delay that is owed. -/
theorem emit_keyLine {before : List (List Char)} {line : List Char} {e : Event}
    (h : keyEvent? before line = some e) :
    (draftAfter before).emit (directive line) = (draftAfter before).due ++ [e] := by
  obtain ⟨⟨stroke, code⟩, hk, rfl⟩ := Option.map_eq_some_iff.1 h
  rw [keyLine?_eq] at hk
  cases hd : directive line <;> simp [hd, Directive.key?] at hk
  obtain ⟨rfl, rfl⟩ := hk
  rw [Draft.emit, defaultDelay_draftAfter]

/-- A line that is no key line adds its delay, if it is a delay line. -/
theorem emit_quiet {before : List (List Char)} {line : List Char} (h : keyLine? line = none) :
    (draftAfter before).emit (directive line) = (delayEvent? before line).toList := by
  rw [keyLine?_eq] at h
  rw [delayEvent?, delayLine?_eq]
  cases hd : directive line <;>
    simp_all [Draft.emit, Directive.key?, Directive.delay?, defaultDelay_draftAfter]

theorem filter_isKey_due (draft : Draft) : draft.due.filter Event.isKey = [] := by
  rw [Draft.due]
  split <;> rfl

theorem filter_isKey_delayEvent? (before : List (List Char)) (line : List Char) :
    (delayEvent? before line).toList.filter Event.isKey = [] := by
  rw [delayEvent?]
  cases delayLine? line <;> rfl

/-! ## What many lines add -/

theorem eventsAfter_quiet {before quiet : List (List Char)} (h : IsQuiet quiet) :
    eventsAfter before quiet = delayEvents before quiet := by
  induction quiet generalizing before with
  | nil => rfl
  | cons line quiet ih =>
    rw [eventsAfter_cons, delayEvents, emit_quiet (h line List.mem_cons_self),
      ih fun l hl => h l (List.mem_cons_of_mem _ hl)]

theorem filter_isKey_eventsAfter (before lines : List (List Char)) :
    (eventsAfter before lines).filter Event.isKey = keyEvents before lines := by
  induction lines generalizing before with
  | nil => rfl
  | cons line lines ih =>
    rw [eventsAfter_cons, List.filter_append, ih, keyEvents]
    congr 1
    cases he : keyEvent? before line with
    | none =>
      -- The line adds a delay at most.
      rw [emit_quiet (Option.map_eq_none_iff.1 he), filter_isKey_delayEvent?]
      rfl
    | some e =>
      -- In front of its event, the line adds a delay at most.
      rw [emit_keyLine he, List.filter_append, filter_isKey_due]
      simp [isKey_of_keyEvent? he]

theorem delayEvents_eq_nil {before quiet : List (List Char)}
    (h : ∀ line ∈ quiet, delayLine? line = none) : delayEvents before quiet = [] := by
  induction quiet generalizing before with
  | nil => rfl
  | cons line quiet ih =>
    rw [delayEvents, delayEvent?, h line List.mem_cons_self,
      ih fun l hl => h l (List.mem_cons_of_mem _ hl)]
    rfl

/-- Behind a key line, the delays of quiet lines and the delay that is then still
    owed are the gap. -/
theorem delayEvents_append_due {before quiet : List (List Char)}
    (howed : (draftAfter before).owed) (hq : IsQuiet quiet) :
    delayEvents before quiet ++ (draftAfter (before ++ quiet)).due = gap before quiet := by
  rw [Draft.due, owed_quiet hq, howed, defaultDelay_draftAfter, Bool.true_and, gap]
  by_cases hd : quiet.any fun line => (delayLine? line).isSome
  · -- A delay line settles what is owed.
    have hs : quiet.any settles := by
      obtain ⟨line, hm, hl⟩ := List.any_eq_true.1 hd
      exact List.any_eq_true.2 ⟨line, hm, by simp [settles, hl]⟩
    simp [hd, hs]
  · -- Without delay lines, a waiving line is the only kind that settles it.
    have hn : ∀ line ∈ quiet, delayLine? line = none := by simpa using hd
    have hs : quiet.any settles = quiet.any isWaivingLine := by
      rw [Bool.eq_iff_iff, List.any_eq_true, List.any_eq_true]
      exact exists_congr fun line => and_congr_right fun hm => by simp [settles, hn line hm]
    rw [if_neg hd, hs, delayEvents_eq_nil hn]
    cases quiet.any isWaivingLine <;> rfl

/-- From a key line on, there are the delay that is owed, the event of the line and
    what later lines add. -/
theorem eventsAfter_keyLine {before rest : List (List Char)} {line : List Char} {e : Event}
    (h : keyEvent? before line = some e) : eventsAfter before (line :: rest) =
      (draftAfter before).due ++ e :: eventsAfter (before ++ [line]) rest := by
  rw [eventsAfter_cons, emit_keyLine h, List.append_assoc, List.singleton_append]

theorem eventsAfter_quiet_append {before quiet rest : List (List Char)} (h : IsQuiet quiet) :
    eventsAfter before (quiet ++ rest) =
      delayEvents before quiet ++ eventsAfter (before ++ quiet) rest := by
  rw [eventsAfter_append, eventsAfter_quiet h]

/-- Nothing is owed behind quiet lines at the beginning. -/
theorem due_quiet {quiet : List (List Char)} (h : IsQuiet quiet) : (draftAfter quiet).due = [] := by
  have : (draftAfter ([] ++ quiet)).owed = _ := owed_quiet h
  rw [List.nil_append, show (draftAfter []).owed = false from rfl, Bool.false_and] at this
  rw [Draft.due, this]
  rfl

/-! ## Compiled macros -/

/-- What a script adds in front of the event of a key line and the delay owed to
    it has the key events of the lines before. -/
theorem filter_isKey_front (before : List (List Char)) :
    (eventsAfter [] before ++ (draftAfter before).due).filter Event.isKey =
      keyEvents [] before := by
  rw [List.filter_append, filter_isKey_due, filter_isKey_eventsAfter, List.append_nil]

theorem events_from_keyLine {before rest : List (List Char)} {x : List Char} {e : Event}
    (he : keyEvent? before x = some e) : eventsAfter [] (before ++ x :: rest) =
      (eventsAfter [] before ++ (draftAfter before).due) ++
        e :: eventsAfter (before ++ [x]) rest := by
  rw [eventsAfter_append, List.nil_append, eventsAfter_keyLine he, List.append_assoc]

/-- The macro of a script is timed by it. -/
theorem compile_isTimedBy (lines : List (List Char)) :
    IsTimedBy (compile lines).events lines where
  keys := filter_isKey_eventsAfter [] lines
  between := by
    rintro before quiet after x y e f rfl he hq hf
    -- A delay is owed from the first event on. What the quiet lines add, and what is
    -- still owed when the second event comes, make up the gap.
    rw [List.append_cons] at hf
    refine ⟨_, eventsAfter (before ++ [x] ++ quiet ++ [y]) after, ?_, filter_isKey_front before⟩
    have howed : (draftAfter (before ++ [x])).owed := owed_of_keyLine (keyLine?_of_keyEvent? he)
    rw [compile_events, List.append_assoc, List.cons_append, events_from_keyLine he,
      eventsAfter_quiet_append hq, eventsAfter_keyLine hf, ← delayEvents_append_due howed hq]
    simp
  first := by
    rintro quiet after y f rfl hq hf
    refine ⟨eventsAfter (quiet ++ [y]) after, ?_⟩
    rw [compile_events, eventsAfter_quiet_append hq, List.nil_append, eventsAfter_keyLine hf,
      due_quiet hq, List.nil_append]
  last := by
    rintro before quiet x e rfl he hq
    refine ⟨_, ?_, filter_isKey_front before⟩
    rw [compile_events, events_from_keyLine he, eventsAfter_quiet hq]
  none := fun h => by rw [compile_events, eventsAfter_quiet h]

example : (compile ["a".toList, "defaultdelay 40".toList, "b".toList, "nodelay".toList,
    "up a".toList]).events = [.keyTap 65 15, .delay 40, .keyTap 66 40, .keyUp 65] := by
  cbv

end Script

end KeyMacro
