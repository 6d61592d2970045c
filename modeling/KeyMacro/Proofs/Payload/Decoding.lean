import KeyMacro.Proofs.Listing

/-!
# Payloads told apart

A payload gives back the opcodes that it was made of (`Payload.decode_encode`), whether
it was filled up, full or too long: what fills it up is none of them. So two payloads
are equal only if they are made of the same opcodes, and the events that opcodes come
from are settled but for one choice, since a tap has the opcodes of the three events
that it is short for (`Payload.encode_eq_encode_iff`).
-/

namespace KeyMacro

namespace Event

/-- An event, with a tap written as what it is short for. -/
def untapped : Event → List Event
  | keyTap key hold => [keyDown key, delay hold, keyUp key]
  | e => [e]

/-- The event of an opcode. -/
def ofOpcode : Opcode → Event
  | .delay time => delay time
  | .keyDown key => keyDown key
  | .keyUp key => keyUp key

theorem ofOpcode_injective : Function.Injective ofOpcode := by
  intro op other h
  cases op <;> cases other <;> cases h <;> rfl

theorem map_ofOpcode_opcodes (e : Event) : e.opcodes.map ofOpcode = e.untapped := by
  cases e <;> rfl

end Event

namespace Payload

/-- Rows of events have the same opcodes if they are the same but for taps. -/
theorem opcodes_eq_opcodes_iff {first second : List Event} :
    opcodes first = opcodes second ↔
      first.flatMap Event.untapped = second.flatMap Event.untapped := by
  have huntapped : ∀ events : List Event,
      events.flatMap Event.untapped = (opcodes events).map Event.ofOpcode := by
    intro events
    simp only [opcodes, List.map_flatMap, Event.map_ofOpcode_opcodes]
  rw [huntapped, huntapped]
  exact (List.map_injective_iff.2 Event.ofOpcode_injective).eq_iff.symm

end Payload

/-! ## Reading opcodes -/

/-- The opcode that an entry of a listing shows. -/
def Listing.Entry.opcode? : Listing.Entry → Option Opcode
  | delay time => (duration? time).toOption.map .delay
  | keyDown code => (keyCode? code).toOption.map .keyDown
  | keyUp code => (keyCode? code).toOption.map .keyUp
  | unknown _ => none
  | padding _ => none
  | incomplete _ => none

theorem Listing.Entry.opcode?_ofOpcode (op : Opcode) : (Entry.ofOpcode op).opcode? = some op := by
  cases op with
  | delay time =>
    rw [ofOpcode, opcode?, duration?_val]
    rfl
  | keyDown key | keyUp key =>
    rw [ofOpcode, opcode?, keyCode?_val]
    rfl

namespace Payload

/-- The opcodes of a payload. -/
def decode (payload : List Char) : List Opcode :=
  (Listing.entries payload).filterMap Listing.Entry.opcode?

/-- A payload gives back its opcodes. -/
theorem decode_encode {events : List Event} (h : ∀ e ∈ events, e.IsOrdinary) :
    decode (encode events) = opcodes events := by
  have hops : ∀ op ∈ opcodes events, op.IsOrdinary := fun op => isOrdinary_of_mem_opcodes h
  have hshown : Listing.Entry.opcode? ∘ Listing.Entry.ofOpcode = some :=
    funext Listing.Entry.opcode?_ofOpcode
  rw [decode, encode_eq, Listing.entries_flatMap_hex_append hops, Listing.entries_padding,
    List.filterMap_append, List.filterMap_map, hshown, List.filterMap_some]
  split
  · rw [List.filterMap_nil, List.append_nil]
  · -- Padding shows no opcode.
    rw [List.filterMap_cons_none rfl, List.filterMap_nil, List.append_nil]

/-- Payloads of events with ordinary keys are equal only if the events are the same
    but for taps, and scripts make no other events. -/
theorem encode_eq_encode_iff :
    (∀ first second : List Event, (∀ e ∈ first, e.IsOrdinary) → (∀ e ∈ second, e.IsOrdinary) →
      (encode first = encode second ↔
        first.flatMap Event.untapped = second.flatMap Event.untapped)) ∧
    ∀ source : Script.Source, ∀ e ∈ (Script.compile source.toLines).events, e.IsOrdinary := by
  refine ⟨fun first second hfirst hsecond => ?_, fun source => Listing.isOrdinary_compile _⟩
  rw [← opcodes_eq_opcodes_iff]
  constructor
  · intro h
    rw [← decode_encode hfirst, h, decode_encode hsecond]
  · exact encode_congr

/-- A tap has the payload of the three events that it is short for. One opcode more
    than fit make a difference. -/
theorem encode_tap :
    ((∀ e ∈ [Event.keyTap 65 30], e.IsOrdinary) ∧
      (∀ e ∈ [Event.keyDown 65, .delay 30, .keyUp 65], e.IsOrdinary) ∧
      encode [.keyTap 65 30] = encode [.keyDown 65, .delay 30, .keyUp 65]) ∧
    encode (List.replicate 1360 (.keyUp 1)) ≠ encode (List.replicate 1361 (.keyUp 1)) := by
  have hkey : ∀ code : KeyCode, Key.IsOrdinary code → (Event.keyUp code).IsOrdinary := by
    rintro code h _ ⟨⟩
    exact h
  have htap : ∀ e ∈ [Event.keyTap 65 30], e.IsOrdinary := by
    rw [List.forall_mem_singleton]
    rintro code ⟨⟩
    decide
  have hthree : ∀ e ∈ [Event.keyDown 65, .delay 30, .keyUp 65], e.IsOrdinary := by
    rw [List.forall_mem_cons, List.forall_mem_cons, List.forall_mem_singleton]
    refine ⟨?_, ?_, hkey 65 (by decide)⟩
    · rintro code ⟨⟩
      decide
    · rintro code ⟨⟩
  have hmany : ∀ n, ∀ e ∈ List.replicate n (Event.keyUp 1), e.IsOrdinary := by
    intro n e he
    rw [List.eq_of_mem_replicate he]
    exact hkey 1 (by decide)
  refine ⟨⟨htap, hthree, (encode_eq_encode_iff.1 _ _ htap hthree).2 rfl⟩, fun h => ?_⟩
  have hsize : ∀ n, ((List.replicate n (Event.keyUp 1)).flatMap Event.untapped).length = n := by
    intro n
    simp [List.length_flatMap, Event.untapped]
  have hlength := congrArg List.length ((encode_eq_encode_iff.1 _ _ (hmany _) (hmany _)).1 h)
  rw [hsize, hsize] at hlength
  exact absurd hlength (by decide)

end Payload

end KeyMacro
