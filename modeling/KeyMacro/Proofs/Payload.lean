import KeyMacro.Payload
import KeyMacro.Proofs.Event

/-!
# The digits of payloads

Opcodes all have the same number of digits, and so the zeros that fill a payload
up are a whole number of opcodes (`encode_eq`). All of its characters are
hexadecimal digits.
-/

namespace KeyMacro.Payload

theorem length_flatMap_hex (ops : List Opcode) :
    (ops.flatMap Opcode.hex).length = Opcode.width * ops.length := by
  induction ops with
  | nil => rfl
  | cons op ops ih =>
    rw [List.flatMap_cons, List.length_append, ih, Opcode.length_hex, List.length_cons,
      Nat.mul_succ, Nat.add_comm]

/-- As opcodes all have the width of a place, no place is left free in part. -/
theorem missingUnits_width_mul (n : Nat) : missingUnits (Opcode.width * n) = maxUnits - n := by
  have hwidth : padUnit.length = 6 := rfl
  rw [missingUnits, maxDigits, hwidth, Opcode.width, maxUnits]
  omega

theorem flatten_replicate_padUnit (n : Nat) :
    (List.replicate n padUnit).flatten = List.replicate (Opcode.width * n) '0' := by
  have hunit : padUnit = List.replicate Opcode.width '0' := rfl
  rw [hunit, List.flatten_replicate_replicate, Nat.mul_comm]

/-- So the zeros of a payload are as many as there are digits missing. -/
theorem encode_eq_digits (events : List Event) : encode events =
    digits events ++ List.replicate (maxDigits - (digits events).length) '0' := by
  rw [encode, digits, length_flatMap_hex, missingUnits_width_mul, flatten_replicate_padUnit,
    maxDigits, Nat.mul_comm maxUnits, ← Nat.mul_sub]
  split
  · next hlong =>
    have hnone : maxUnits - (opcodes events).length = 0 :=
      Nat.sub_eq_zero_of_le (Nat.le_of_mul_le_mul_left (Nat.le_of_lt hlong) (by decide))
    rw [hnone, Nat.mul_zero, List.replicate_zero, List.append_nil]
  · rfl

/-- A payload is a row of opcodes and the place of as many as are missing. -/
theorem encode_eq (events : List Event) : encode events =
    (opcodes events).flatMap Opcode.hex ++
      List.replicate (Opcode.width * (maxUnits - (opcodes events).length)) '0' := by
  rw [encode_eq_digits, digits, length_flatMap_hex, maxDigits, Nat.mul_comm maxUnits, Nat.mul_sub]

/-- A payload depends on the opcodes only. -/
theorem encode_congr {first second : List Event} (h : opcodes first = opcodes second) :
    encode first = encode second := by
  rw [encode_eq, encode_eq, h]

/-- So does what there is to note about it. -/
theorem notes_congr {first second : List Event} (h : opcodes first = opcodes second) :
    notes first = notes second := by
  rw [notes, notes, digits, digits, h]

theorem isHex_of_mem_encode {events : List Event} {c : Char} (h : c ∈ encode events) :
    Numeral.IsHex c := by
  rw [encode_eq, List.mem_append, List.mem_flatMap, List.mem_replicate] at h
  rcases h with ⟨op, -, h⟩ | ⟨-, rfl⟩
  · exact Opcode.isHex_of_mem_hex h
  · decide

/-- The opcodes of ordinary events are ordinary. -/
theorem isOrdinary_of_mem_opcodes {events : List Event} (h : ∀ e ∈ events, e.IsOrdinary)
    {op : Opcode} (hop : op ∈ opcodes events) : op.IsOrdinary := by
  obtain ⟨e, he, hop⟩ := List.mem_flatMap.1 hop
  exact Event.isOrdinary_of_mem_opcodes (h e he) hop

end KeyMacro.Payload
