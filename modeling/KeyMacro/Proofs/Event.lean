import KeyMacro.Event
import KeyMacro.Proofs.Key
import KeyMacro.Proofs.Text.Numeral

/-!
# Keys and times of events

An event, and each of its opcodes, has at most one key. It is *ordinary* if no
payload takes that key for something else (`Event.IsOrdinary`); its opcodes are
then ordinary as well (`Event.isOrdinary_of_mem_opcodes`). Every opcode has six
hexadecimal digits. Key codes and durations are what their numbers are taken for.
-/

namespace KeyMacro

/-! ## Numbers -/

theorem duration?_val (time : Duration) : duration? (time.val : Int) = .ok time := by
  have h : 0 ≤ (time.val : Int) ∧ (time.val : Int) < 65536 := by omega
  simp [duration?, h]

theorem keyCode?_val (code : KeyCode) : keyCode? (code.val : Int) = .ok code := by
  have h : 0 ≤ (code.val : Int) ∧ (code.val : Int) < 256 := by omega
  simp [keyCode?, h]

/-! ## Opcodes -/

namespace Opcode

/-- The key of an opcode, if it has one. -/
def key? : Opcode → Option KeyCode
  | delay _ => none
  | keyDown key => some key
  | keyUp key => some key

/-- Whether an opcode has no key but an ordinary one. -/
def IsOrdinary (op : Opcode) : Prop := ∀ code ∈ op.key?, Key.IsOrdinary code

@[simp] theorem length_hex (op : Opcode) : op.hex.length = width := by
  cases op <;> simp [hex, width]

theorem isHex_of_mem_hex {op : Opcode} {c : Char} (h : c ∈ op.hex) : Numeral.IsHex c := by
  have hzero : Numeral.IsHex '0' := by decide
  have hone : Numeral.IsHex '1' := by decide
  cases op with
  | delay time =>
    rcases List.mem_cons.1 h with rfl | h
    · decide
    rcases List.mem_cons.1 h with rfl | h
    · decide
    exact Numeral.isHex_of_mem_hexFixed h
  | keyDown key =>
    have hstate : ∀ c ∈ ['0', '0', '0', '1'], Numeral.IsHex c := by simp [hzero, hone]
    rcases List.mem_append.1 h with h | h
    · exact Numeral.isHex_of_mem_hexFixed h
    · exact hstate c h
  | keyUp key =>
    have hstate : ∀ c ∈ ['0', '0', '0', '0'], Numeral.IsHex c := by simp [hzero]
    rcases List.mem_append.1 h with h | h
    · exact Numeral.isHex_of_mem_hexFixed h
    · exact hstate c h

end Opcode

/-! ## Events -/

namespace Event

/-- The key of an event, if it has one. -/
def key? : Event → Option KeyCode
  | delay _ => none
  | keyDown key => some key
  | keyUp key => some key
  | keyTap key _ => some key

/-- The time of an event, if it has one. -/
def time? : Event → Option Duration
  | delay time => some time
  | keyDown _ => none
  | keyUp _ => none
  | keyTap _ hold => some hold

/-- Whether an event has no key but an ordinary one. -/
def IsOrdinary (e : Event) : Prop := ∀ code ∈ e.key?, Key.IsOrdinary code

/-- The opcodes of an event have its key, or none. -/
theorem key?_of_mem_opcodes {e : Event} {op : Opcode} {code : KeyCode} (h : op ∈ e.opcodes)
    (hc : op.key? = some code) : e.key? = some code := by
  cases e with
  | delay time =>
    rw [opcodes, List.mem_singleton] at h
    subst h
    cases hc
  | keyDown key | keyUp key =>
    rw [opcodes, List.mem_singleton] at h
    subst h
    exact hc
  | keyTap key hold =>
    simp only [opcodes, List.mem_cons, List.not_mem_nil, or_false] at h
    rcases h with rfl | rfl | rfl
    · exact hc
    · cases hc
    · exact hc

theorem isOrdinary_of_mem_opcodes {e : Event} {op : Opcode} (he : e.IsOrdinary)
    (h : op ∈ e.opcodes) : op.IsOrdinary :=
  fun code hc => he code (key?_of_mem_opcodes h hc)

end Event

end KeyMacro
