import KeyMacro.Proofs.Payload

/-!
# The format of payloads

How many opcodes a payload has can be counted on its events: a tap counts for three,
any other event for one (`unitCount`). With six digits for each, the opcodes stand at
the beginning of the payload, one behind the other and in the order of the events. If
they are fewer than the 1360 that fit, zeros fill the payload up to the length of a full
one; if they are more, that is noted, once. A payload that is like this is said to be
*formatted* (`IsFormatted`), and the payload of any row of events is
(`encode_isFormatted`).
-/

namespace KeyMacro

/-- Whether an event is a tap. -/
def Event.isTap : Event → Bool
  | keyTap _ _ => true
  | delay _ | keyDown _ | keyUp _ => false

namespace Payload

/-- The number of opcodes of a row of events, counted on the events. -/
def unitCount (events : List Event) : Nat :=
  (events.filter fun e => !e.isTap).length + 3 * (events.filter Event.isTap).length

/-- What the payload of a row of events and the log of it are like. -/
structure IsFormatted (events : List Event) (payload : List Char) (log : List String) : Prop where
  /-- There are only hexadecimal digits in it, those that are letters in lower case. -/
  hex : ∀ c ∈ payload, c ∈ "0123456789abcdef".toList
  /-- It is as long as its opcodes, but no shorter than a full one. -/
  length : payload.length = max 8160 (6 * unitCount events)
  /-- It begins with the opcodes of the events. -/
  opcodes : payload.take (6 * unitCount events) = events.flatMap Event.hex
  /-- Behind them are zeros. -/
  rest : ∀ c ∈ payload.drop (6 * unitCount events), c = '0'
  /-- One record says that it is too long, if it is. -/
  log : log = if 1360 < unitCount events then
      [s!"macro maximum size exceeded ({6 * unitCount events} of 8160 hex digits)"]
    else []

/-! ## Opcodes of events -/

theorem length_opcodes_event (e : Event) : e.opcodes.length = if e.isTap then 3 else 1 := by
  cases e <;> rfl

theorem unitCount_cons (e : Event) (events : List Event) :
    unitCount (e :: events) = e.opcodes.length + unitCount events := by
  rw [length_opcodes_event, unitCount, unitCount, List.filter_cons, List.filter_cons]
  cases e.isTap with
  | true =>
    simp
    omega
  | false =>
    simp
    omega

/-- There are as many opcodes as are counted. -/
theorem length_opcodes (events : List Event) : (opcodes events).length = unitCount events := by
  induction events with
  | nil => rfl
  | cons e events ih =>
    rw [unitCount_cons, ← ih]
    exact List.length_append

/-- The digits of a row of events are those of each of them. -/
theorem digits_eq (events : List Event) : digits events = events.flatMap Event.hex :=
  List.flatMap_assoc

theorem length_digits (events : List Event) : (digits events).length = 6 * unitCount events := by
  rw [digits, length_flatMap_hex, length_opcodes, Opcode.width]

theorem digits_append (first second : List Event) :
    digits (first ++ second) = digits first ++ digits second := by
  rw [digits_eq, digits_eq, digits_eq, List.flatMap_append]

/-! ## Payloads of events -/

/-- A payload begins with the digits of its events. -/
theorem take_encode (events : List Event) :
    (encode events).take (6 * unitCount events) = digits events := by
  rw [encode_eq_digits, List.take_left' (length_digits events)]

theorem drop_encode (events : List Event) : (encode events).drop (6 * unitCount events) =
    List.replicate (8160 - 6 * unitCount events) '0' := by
  rw [encode_eq_digits, List.drop_left' (length_digits events), length_digits]
  rfl

theorem length_encode (events : List Event) :
    (encode events).length = max 8160 (6 * unitCount events) := by
  have hmax : maxDigits = 8160 := rfl
  rw [encode_eq_digits, List.length_append, List.length_replicate, length_digits, hmax]
  omega

theorem message_oversized (digits : Nat) : (Note.oversized digits 8160).message =
    s!"macro maximum size exceeded ({digits} of 8160 hex digits)" := by
  have hwording (limit : Nat) : (Note.oversized digits limit).message =
      s!"macro maximum size exceeded ({digits}" ++ s!" of {limit} hex digits)" := by
    have hmessage : (Note.oversized digits limit).message =
        s!"macro maximum size exceeded ({digits} of {limit} hex digits)" := rfl
    rw [hmessage]
    simp only [String.append_assoc]
  -- Only the limit is a number that can be written out.
  have hlimit : s!" of {8160} hex digits)" = " of 8160 hex digits)" := by decide +kernel
  rw [hwording, hlimit]
  rfl

theorem map_message_notes (events : List Event) :
    (notes events).map Note.message = if 1360 < unitCount events then
      [s!"macro maximum size exceeded ({6 * unitCount events} of 8160 hex digits)"] else [] := by
  have hmax : maxDigits = 8160 := rfl
  rw [notes, length_digits, hmax]
  by_cases h : 1360 < unitCount events
  · have hdigits : 6 * unitCount events > 8160 := by omega
    rw [if_pos h, if_pos hdigits, List.map_singleton, message_oversized]
  · have hdigits : ¬ 6 * unitCount events > 8160 := by omega
    rw [if_neg h, if_neg hdigits]
    rfl

/-- The payload of any row of events is formatted, and so is what is noted about it. The
    opcodes of one row of events behind another one are those of both. -/
theorem encode_isFormatted :
    (∀ events, IsFormatted events (encode events) ((notes events).map Note.message)) ∧
    ∀ first second, (encode (first ++ second)).take (6 * unitCount (first ++ second)) =
      (encode first).take (6 * unitCount first) ++
        (encode second).take (6 * unitCount second) := by
  refine ⟨fun events => ?_, fun first second => ?_⟩
  · exact {
      hex := fun c hc => Numeral.mem_of_isHex (isHex_of_mem_encode hc)
      length := length_encode events
      opcodes := (take_encode events).trans (digits_eq events)
      rest := fun c hc => by
        rw [drop_encode] at hc
        exact List.eq_of_mem_replicate hc
      log := map_message_notes events }
  · rw [take_encode, take_encode, take_encode, digits_append]

end Payload

end KeyMacro
