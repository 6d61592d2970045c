import KeyMacro.Listing
import KeyMacro.Proofs.Payload
import KeyMacro.Proofs.Script.Sound
import KeyMacro.Proofs.Text.Blank

/-!
# Listings of payloads

The listing of a payload shows the opcodes that the payload was made of, each at
its address, and says how much of the payload was filled up (`Listing.ofOpcodes`).
This is so for all events with ordinary keys (`Listing.disassemble_encode`), and
for all events of a script.

A listing goes through a payload six digits at a time. The digits of an ordinary
opcode are never all zeros, and those of a key never begin with ff, so that what
is read is the opcode as it was written (`Listing.entries_hex_append`). Only the
zeros behind the last opcode are padding.
-/

namespace KeyMacro

/-- The wording of an opcode. -/
def Opcode.text : Opcode → List Char
  | delay time => "DELAY ".toList ++ Nat.toDigits 10 time
  | keyDown key => "KEYDOWN ".toList ++ Key.nameOf key
  | keyUp key => "KEYUP ".toList ++ Key.nameOf key

namespace Listing

/-! ## What a listing shows -/

/-- The line of a text at an index: its address is that of the opcode with this
    index, three bytes for each of those before. -/
def lineAt (i : Nat) (text : List Char) : List Char :=
  "0x".toList ++ Numeral.hexPadded 4 (3 * i) ++ ": ".toList ++ text

/-- The listing of the payload of some opcodes: one line for each, and another
    one if there is room for more. -/
def ofOpcodes (ops : List Opcode) : List (List Char) :=
  (ops.mapIdx fun i op => lineAt i op.text) ++
    if ops.length < 1360 then
      [lineAt ops.length ("PADDING ".toList ++ Nat.toDigits 10 (1360 - ops.length))]
    else []

/-! ## Digits -/

theorem plain_of_isHex {c : Char} (h : Numeral.IsHex c) :
    Text.isBlank c = false ∧ c.toLower = c := by
  have digit : ∀ n < 16, Text.isBlank (Numeral.hexDigit n) = false ∧
      (Numeral.hexDigit n).toLower = Numeral.hexDigit n := by decide
  obtain ⟨n, hn, rfl⟩ := Numeral.exists_of_isHex h
  exact digit n hn

/-- Hexadecimal digits are left as they are. -/
theorem digits_eq_self {payload : List Char} (h : ∀ c ∈ payload, Numeral.IsHex c) :
    digits payload = payload := by
  rw [digits, Text.strip_eq_self fun c hc => (plain_of_isHex (h c hc)).1]
  rw [List.map_congr_left fun c hc => (plain_of_isHex (h c hc)).2, List.map_id']

/-! ## Opcodes -/

/-- The entry of an opcode. -/
def Entry.ofOpcode : Opcode → Entry
  | .delay time => .delay time
  | .keyDown key => .keyDown key
  | .keyUp key => .keyUp key

theorem Entry.text_ofOpcode (op : Opcode) : (Entry.ofOpcode op).text = op.text := by
  cases op <;> rfl

/-- The two digits of an ordinary key are neither zeros nor ff. -/
theorem hexFixed_key {key : KeyCode} (h : Key.IsOrdinary key) :
    ∃ a b, Numeral.hexFixed 2 key = [a, b] ∧ Numeral.hexValue? [a, b] = some key.val ∧
      (a = '0' → b = '0' → False) ∧ (a = 'f' → b = 'f' → False) := by
  obtain ⟨a, b, hab⟩ : ∃ a b, Numeral.hexFixed 2 key = [a, b] := ⟨_, _, rfl⟩
  have hv : Numeral.hexValue? [a, b] = some key.val := hab ▸ Numeral.hexValue?_hexFixed key.isLt
  refine ⟨a, b, hab, hv, ?_, ?_⟩
  · rintro rfl rfl
    have : key.val = 0 := (Option.some.inj hv).symm
    exact absurd h.1 (by omega)
  · rintro rfl rfl
    have : key.val = 255 := (Option.some.inj hv).symm
    exact absurd h.2 (by omega)

/-- What stands behind an ordinary opcode makes no difference to its entry. -/
theorem entries_hex_append {op : Opcode} (h : op.IsOrdinary) (rest : List Char) :
    entries (op.hex ++ rest) = Entry.ofOpcode op :: entries rest := by
  cases op with
  | delay time =>
    obtain ⟨a, b, c, d, hd⟩ : ∃ a b c d, Numeral.hexFixed 4 time = [a, b, c, d] :=
      ⟨_, _, _, _, rfl⟩
    have hv : Numeral.hexValue? [a, b, c, d] = some time.val :=
      hd ▸ Numeral.hexValue?_hexFixed time.isLt
    -- The mark of a pause is looked for first.
    simp [Opcode.hex, hd, entries, Entry.ofUnit, hv, Entry.ofOpcode]
  | keyDown key =>
    obtain ⟨a, b, hab, hv, h0, hf⟩ := hexFixed_key (h key rfl)
    rw [Opcode.hex, hab]
    -- The two digits of the key keep the six from being a pause or padding.
    show entries (a :: b :: '0' :: '0' :: '0' :: '1' :: rest) = _
    rw [entries, Entry.ofUnit, hv]
    · rfl
    · exact hf
    · exact fun ha hb _ _ _ _ => h0 ha hb
  | keyUp key =>
    obtain ⟨a, b, hab, hv, h0, hf⟩ := hexFixed_key (h key rfl)
    rw [Opcode.hex, hab]
    show entries (a :: b :: '0' :: '0' :: '0' :: '0' :: rest) = _
    rw [entries, Entry.ofUnit, hv]
    · rfl
    · exact hf
    · exact fun ha hb _ _ _ _ => h0 ha hb

theorem entries_flatMap_hex_append {ops : List Opcode} (h : ∀ op ∈ ops, op.IsOrdinary)
    (rest : List Char) :
    entries (ops.flatMap Opcode.hex ++ rest) = ops.map Entry.ofOpcode ++ entries rest := by
  induction ops with
  | nil => rfl
  | cons op ops ih =>
    rw [List.forall_mem_cons] at h
    rw [List.flatMap_cons, List.append_assoc, entries_hex_append h.1, ih h.2]
    rfl

/-- The place of any number of opcodes is a single entry. -/
theorem entries_padding (count : Nat) :
    entries (List.replicate (Opcode.width * count) '0') =
      if count = 0 then [] else [.padding count] := by
  cases count with
  | zero => rfl
  | succ count =>
    have hz : List.replicate (Opcode.width * (count + 1)) '0' =
        '0' :: '0' :: '0' :: '0' :: '0' :: '0' :: List.replicate (Opcode.width * count) '0' := by
      rw [Nat.mul_succ, Nat.add_comm, ← List.replicate_append_replicate]
      rfl
    rw [hz, entries, List.length_replicate, Nat.mul_div_cancel_left _ (by decide), Nat.add_comm]
    rfl

/-! ## Payloads -/

/-- The lines of opcodes with the place of as many as are missing. -/
theorem number_ofOpcode (ops : List Opcode) :
    number (ops.map Entry.ofOpcode ++
      if Payload.maxUnits - ops.length = 0 then [] else [.padding (Payload.maxUnits - ops.length)]) =
      ofOpcodes ops := by
  rw [number, List.mapIdx_append, ofOpcodes, List.length_map]
  congr 1
  · rw [List.mapIdx_eq_iff]
    intro i
    rw [List.getElem?_mapIdx, List.getElem?_map]
    cases ops[i]? with
    | none => rfl
    | some op => exact congrArg (fun text => some (lineAt i text)) (Entry.text_ofOpcode op).symm
  · -- If the limit is reached or passed, nothing is filled up.
    by_cases h : ops.length < 1360
    · have hne : Payload.maxUnits - ops.length ≠ 0 := Nat.sub_ne_zero_of_lt h
      rw [if_neg hne, if_pos h, List.mapIdx_singleton, Nat.zero_add]
      rfl
    · have heq : Payload.maxUnits - ops.length = 0 := Nat.sub_eq_zero_of_le (Nat.le_of_not_lt h)
      rw [if_pos heq, if_neg h]
      rfl

/-- The listing of a payload shows what the payload was made of, if the keys of
    the events are ordinary. -/
theorem disassemble_encode {events : List Event} (h : ∀ e ∈ events, e.IsOrdinary) :
    disassemble (Payload.encode events) = .ok (ofOpcodes (Payload.opcodes events)) := by
  have hex : ∀ c ∈ Payload.encode events, Numeral.IsHex c := fun c => Payload.isHex_of_mem_encode
  have hops : ∀ op ∈ Payload.opcodes events, op.IsOrdinary := fun op =>
    Payload.isOrdinary_of_mem_opcodes h
  rw [disassemble, digits_eq_self hex, if_pos (List.all_eq_true.2 hex), Payload.encode_eq,
    entries_flatMap_hex_append hops, entries_padding, number_ofOpcode]

theorem isOrdinary_compile (lines : List (List Char)) :
    ∀ e ∈ (Script.compile lines).events, e.IsOrdinary :=
  fun e he code hc => ((Script.isSound_compile lines).keys e he code hc).2

/-- Every script is listed as it was compiled, and so are all events with
    ordinary keys. -/
theorem disassemble_payloads :
    (∀ source : Script.Source,
      disassemble (Payload.encode (Script.compile source.toLines).events) =
        .ok (ofOpcodes (Payload.opcodes (Script.compile source.toLines).events))) ∧
    ∀ events : List Event, (∀ e ∈ events, e.IsOrdinary) →
      disassemble (Payload.encode events) = .ok (ofOpcodes (Payload.opcodes events)) :=
  ⟨fun source => disassemble_encode (isOrdinary_compile source.toLines),
    fun _ h => disassemble_encode h⟩

/-- A tap and a pause are listed as four opcodes. -/
theorem disassemble_tap_delay : (∀ e ∈ [Event.keyTap 13 30, .delay 65535], e.IsOrdinary) ∧
    disassemble (Payload.encode [.keyTap 13 30, .delay 65535]) =
      .ok (["0x0000: KEYDOWN Enter", "0x0003: DELAY 30", "0x0006: KEYUP Enter",
        "0x0009: DELAY 65535", "0x000C: PADDING 1356"].map String.toList) := by
  have h : ∀ e ∈ [Event.keyTap 13 30, .delay 65535], e.IsOrdinary := by
    rw [List.forall_mem_cons, List.forall_mem_singleton]
    constructor
    · rintro code ⟨⟩
      decide
    · rintro code ⟨⟩
  refine ⟨h, (disassemble_payloads.2 _ h).trans ?_⟩
  decide

end Listing

end KeyMacro
