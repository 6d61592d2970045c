import KeyMacro.Proofs.Payload.Format
import KeyMacro.Proofs.Script.Inert

/-!
# The size of macros

A line makes at most one key event, and a delay in front of it only if one is owed. Nothing
is owed at the beginning, and blank lines make nothing at all. So `n` lines that are not
blank make at most `2 * n - 1` events, and as each of their key events takes three opcodes
at most, at most `4 * n - 1` opcodes. Lines that press a key make as many as that
(`size_compile`). Hence a script overflows the field of its payload with 341 such lines at
the earliest.

Both bounds are one: events are given weights, a delay the weight 1, and their sum is
bounded along a run (`weight_run_le`). Whether a delay is owed makes a difference of 1
throughout.
-/

namespace KeyMacro.Script

/-- Whether a line has other characters than blanks. -/
def isInked (line : List Char) : Bool := line.any Text.isInk

/-- The number of lines that are not blank. -/
def inkedCount (lines : List (List Char)) : Nat := lines.countP isInked

/-- Whether the opcodes of a script are more than fit, and this is noted. -/
def Overflows (lines : List (List Char)) : Prop := Payload.notes (compile lines).events ≠ []

/-! ## Weights of events -/

section Weight

variable {weight : Event → Nat} {most : Nat}

/-- The weight of a row of events. -/
def totalWeight (weight : Event → Nat) (events : List Event) : Nat := (events.map weight).sum

theorem totalWeight_append (first second : List Event) :
    totalWeight weight (first ++ second) = totalWeight weight first + totalWeight weight second := by
  rw [totalWeight, List.map_append, List.sum_append]
  rfl

theorem totalWeight_one (events : List Event) : totalWeight (fun _ => 1) events = events.length := by
  simp [totalWeight]

theorem totalWeight_opcodes (events : List Event) :
    totalWeight (fun e => e.opcodes.length) events = Payload.unitCount events := by
  rw [← Payload.length_opcodes, Payload.opcodes, List.length_flatMap]
  rfl

/-- A directive adds one event, and the delay that is owed. -/
theorem weight_emit_le (hdelay : ∀ time, weight (.delay time) = 1)
    (hmost : ∀ e, weight e ≤ most) (draft : Draft) (d : Directive) :
    totalWeight weight (draft.emit d) ≤ most + draft.owed.toNat := by
  have hdue : totalWeight weight draft.due = draft.owed.toNat := by
    rw [Draft.due]
    cases draft.owed <;> simp [totalWeight, hdelay]
  cases d with
  | key stroke code =>
    have hevent := hmost (stroke.event code draft.defaultDelay)
    rw [Draft.emit, totalWeight_append, hdue]
    simp only [totalWeight, List.map_singleton, List.sum_singleton]
    omega
  | delay time =>
    have hevent := hmost (.delay (time.getD draft.defaultDelay))
    simp only [Draft.emit, totalWeight, List.map_singleton, List.sum_singleton]
    omega
  | blank | defaultDelay | noDelay | name | rejected => exact Nat.zero_le _

theorem isInert_of_not_isInked {line : List Char} (h : ¬ isInked line = true) :
    (directive line).isInert = true := by
  refine isInert_of_fields_eq_nil ?_
  rw [Text.fields_chomp]
  refine Text.fields_eq_nil fun c hc => ?_
  by_contra hblank
  exact h (List.any_eq_true.2 ⟨c, hc, by simp [Text.isInk, hblank]⟩)

/-- The weight of what a run adds, by the number of its lines that are not blank. If no delay
    is owed in front of the first of them, the bound is lower by 1. -/
theorem weight_run_le (hdelay : ∀ time, weight (.delay time) = 1) (hmost : ∀ e, weight e ≤ most)
    (draft : Draft) (lines : List (List Char)) :
    totalWeight weight (draft.run (directives lines)).2 ≤
      (most + 1) * inkedCount lines + draft.owed.toNat - 1 := by
  induction lines generalizing draft with
  | nil => exact Nat.zero_le _
  | cons line lines ih =>
    rw [directives_cons]
    by_cases hline : isInked line = true
    · have hstep := weight_emit_le hdelay hmost draft (directive line)
      have hrest := ih (draft.advance (directive line))
      have howed := Bool.toNat_le (draft.advance (directive line)).owed
      have hcount : inkedCount (line :: lines) = inkedCount lines + 1 :=
        List.countP_cons_of_pos hline
      rw [Draft.run, totalWeight_append, hcount, Nat.mul_succ]
      omega
    · have hcount : inkedCount (line :: lines) = inkedCount lines := List.countP_cons_of_neg hline
      rw [Draft.run_cons_of_isInert draft (isInert_of_not_isInked hline), hcount]
      exact ih draft

end Weight

/-! ## Scripts of presses -/

/-- A script that presses the same key, line by line. -/
def presses (n : Nat) : List (List Char) := List.replicate n ['a']

theorem inkedCount_presses (n : Nat) : inkedCount (presses n) = n := by
  have hline : isInked ['a'] = true := by decide
  rw [inkedCount, presses, List.countP_replicate, if_pos hline]

theorem directive_presses : directive ['a'] = .key (.press none) 65 := by cbv

/-- Where a delay is owed, each line adds the delay and the event of the key. -/
theorem run_presses (n : Nat) : (Draft.run { owed := true } (directives (presses n))).2 =
    (List.replicate n [Event.delay 15, .keyTap 65 15]).flatten := by
  induction n with
  | zero => rfl
  | succ n ih =>
    rw [presses, List.replicate_succ, directives_cons, directive_presses, List.replicate_succ,
      List.flatten_cons, ← ih]
    rfl

/-- Only the first event has no delay in front. -/
theorem events_presses (n : Nat) : (compile (presses (n + 1))).events =
    .keyTap 65 15 :: (List.replicate n [Event.delay 15, .keyTap 65 15]).flatten := by
  have hdraft : draftAfter ([] ++ [['a']]) = { owed := true } := by
    rw [draftAfter_concat, directive_presses]
    rfl
  rw [compile_events, presses, List.replicate_succ, eventsAfter_cons, directive_presses,
    eventsAfter, hdraft, ← run_presses]
  rfl

theorem weight_presses (weight : Event → Nat) (n : Nat) :
    totalWeight weight (compile (presses (n + 1))).events =
      weight (.keyTap 65 15) + n * (weight (.delay 15) + weight (.keyTap 65 15)) := by
  simp [events_presses, totalWeight]

theorem size_presses (n : Nat) : (compile (presses n)).events.length = 2 * n - 1 ∧
    Payload.unitCount (compile (presses n)).events = 4 * n - 1 := by
  cases n with
  | zero => exact ⟨rfl, rfl⟩
  | succ n =>
    rw [← totalWeight_one, ← totalWeight_opcodes, weight_presses, weight_presses]
    simp only [Event.opcodes, List.length_cons, List.length_nil]
    omega

/-! ## The size of scripts -/

/-- What the number of lines that are not blank says about the size of a script. Where all
    are blank, nothing is left. -/
structure IsSized (lines : List (List Char)) : Prop where
  events : (compile lines).events.length ≤ 2 * inkedCount lines - 1
  units : Payload.unitCount (compile lines).events ≤ 4 * inkedCount lines - 1
  fits : inkedCount lines ≤ 340 →
    (Payload.encode (compile lines).events).length = 8160 ∧
      (∀ c ∈ Payload.encode (compile lines).events, Numeral.IsHex c) ∧ ¬ Overflows lines

theorem overflows_iff {lines : List (List Char)} :
    Overflows lines ↔ 1360 < Payload.unitCount (compile lines).events := by
  have hmax : Payload.maxDigits = 8160 := rfl
  rw [Overflows, Payload.notes, Payload.length_digits, hmax]
  split
  · next h => exact iff_of_true (List.cons_ne_nil _ _) (by omega)
  · next h => exact iff_of_false (fun hne => hne rfl) (by omega)

theorem isSized_compile (lines : List (List Char)) : IsSized lines := by
  have hevents : (compile lines).events.length ≤ 2 * inkedCount lines - 1 := by
    rw [← totalWeight_one]
    exact weight_run_le (fun _ => rfl) (fun _ => Nat.le_refl 1) {} lines
  have hunits : Payload.unitCount (compile lines).events ≤ 4 * inkedCount lines - 1 := by
    have hmost (e : Event) : e.opcodes.length ≤ 3 := by
      rw [Payload.length_opcodes_event]
      split <;> omega
    rw [← totalWeight_opcodes]
    exact weight_run_le (fun _ => rfl) hmost {} lines
  refine ⟨hevents, hunits, fun hfew => ⟨?_, fun _ => Payload.isHex_of_mem_encode, ?_⟩⟩
  · rw [Payload.length_encode]
    omega
  · rw [overflows_iff]
    omega

/-- For each line that is not blank, a script makes at most two events and four opcodes, for
    the first of them one less. With up to 340 such lines it fits. Lines that press a key
    reach both bounds, and overflow from 341 on. -/
theorem size_compile :
    (∀ lines, IsSized lines) ∧
      (∀ n, inkedCount (presses n) = n ∧ (compile (presses n)).events.length = 2 * n - 1 ∧
        Payload.unitCount (compile (presses n)).events = 4 * n - 1) ∧
      ∀ n, Overflows (presses n) ↔ 341 ≤ n := by
  refine ⟨isSized_compile, fun n => ⟨inkedCount_presses n, size_presses n⟩, fun n => ?_⟩
  rw [overflows_iff, (size_presses n).2]
  omega

end KeyMacro.Script
