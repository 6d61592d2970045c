import KeyMacro.Proofs.Listing
import KeyMacro.Proofs.Text.LetterCase

/-!
# Listings of any payload

A payload need not come from events. Whatever it is, its digits can be cut into
*units* of six (`units`), with fewer than six digits left over behind the last one
(`leftover`). The listing has one line for each unit up to the first one of padding,
and then one more: for all the units from there on, whatever they are, or, if there is
no padding, for the digits left over, if there are any (`disassemble_eq_unitLines`).

A payload has a listing unless there is something else than digits in it. Blanks around
the digits do not count, nor does the case of those that are letters.
-/

namespace KeyMacro.Listing

variable {unit ds rest : List Char} {c : Char}

/-! ## Units -/

/-- The units of a row of digits. -/
def units (ds : List Char) : List (List Char) :=
  (List.range (ds.length / 6)).map fun i => (ds.drop (6 * i)).take 6

/-- The digits behind the last unit. -/
def leftover (ds : List Char) : List Char := ds.drop (6 * (ds.length / 6))

/-- A unit of padding. -/
def zeroUnit : List Char := "000000".toList

/-- The index of the first unit of padding, or the number of units if there is none. -/
def paddingIndex (ds : List Char) : Nat := (units ds).findIdx (· = zeroUnit)

theorem length_units (ds : List Char) : (units ds).length = ds.length / 6 := by
  rw [units, List.length_map, List.length_range]

theorem units_append (h : unit.length = 6) : units (unit ++ rest) = unit :: units rest := by
  have hlength : (unit ++ rest).length / 6 = rest.length / 6 + 1 := by
    rw [List.length_append, h]
    omega
  rw [units, hlength, List.range_succ_eq_map, List.map_cons, List.map_map, Nat.mul_zero,
    List.drop_zero, List.take_left' h, units]
  congr 1
  refine List.map_congr_left fun i _ => ?_
  have hdrop : 6 * (i + 1) = unit.length + 6 * i := by omega
  rw [Function.comp_apply, hdrop, List.drop_length_add_append]

theorem leftover_append (h : unit.length = 6) : leftover (unit ++ rest) = leftover rest := by
  have hlength : 6 * ((unit ++ rest).length / 6) = unit.length + 6 * (rest.length / 6) := by
    rw [List.length_append, h]
    omega
  rw [leftover, hlength, List.drop_length_add_append, leftover]

theorem units_eq_nil (h : ds.length < 6) : units ds = [] := by
  rw [units, Nat.div_eq_of_lt h]
  rfl

theorem leftover_eq_self (h : ds.length < 6) : leftover ds = ds := by
  rw [leftover, Nat.div_eq_of_lt h]
  rfl

theorem paddingIndex_append (h : unit.length = 6) : paddingIndex (unit ++ rest) =
    if unit = zeroUnit then 0 else paddingIndex rest + 1 := by
  rw [paddingIndex, units_append h, List.findIdx_cons, paddingIndex]
  by_cases hzero : unit = zeroUnit <;> simp [hzero]

theorem paddingIndex_le (ds : List Char) : paddingIndex ds ≤ (units ds).length :=
  List.findIdx_le_length

theorem length_of_mem_units (h : unit ∈ units ds) : unit.length = 6 := by
  obtain ⟨i, hi, rfl⟩ := List.mem_map.1 h
  have hi := List.mem_range.1 hi
  rw [List.length_take, List.length_drop]
  omega

theorem mem_of_mem_units (h : unit ∈ units ds) (hc : c ∈ unit) : c ∈ ds := by
  obtain ⟨i, -, rfl⟩ := List.mem_map.1 h
  exact List.mem_of_mem_drop (List.mem_of_mem_take hc)

/-! ## What units are shown as -/

/-- The text that a unit is shown as. -/
def unitText (unit : List Char) : List Char :=
  if "ff".toList <+: unit then "DELAY ".toList ++ Nat.toDigits 10 (Numeral.hexNumber (unit.drop 2))
  else if "0001".toList <:+ unit then
    "KEYDOWN ".toList ++ Key.nameOf (Numeral.hexNumber (unit.take 2))
  else if "0000".toList <:+ unit then
    "KEYUP ".toList ++ Key.nameOf (Numeral.hexNumber (unit.take 2))
  else "UNKNOWN_OPCODE ".toList ++ unit

theorem ofUnit_delay (h : ds.length = 4) :
    Entry.ofUnit ("ff".toList ++ ds) = .delay ((Numeral.hexValue? ds).getD 0) := by
  match ds, h with
  | [_, _, _, _], _ => rfl

theorem ofUnit_key (hmark : ¬ "ff".toList <+: unit) (hlength : unit.length = 6) :
    Entry.ofUnit unit =
      if "0001".toList <:+ unit then .keyDown ((Numeral.hexValue? (unit.take 2)).getD 0)
      else if "0000".toList <:+ unit then .keyUp ((Numeral.hexValue? (unit.take 2)).getD 0)
      else .unknown unit := by
  unfold Entry.ofUnit
  split
  · next a b c d => exact absurd ⟨[a, b, c, d], rfl⟩ hmark
  · next a b _ =>
    have hdown : "0001".toList <:+ [a, b, '0', '0', '0', '1'] := ⟨[a, b], rfl⟩
    rw [if_pos hdown]
    rfl
  · next a b _ =>
    have hdown : ¬ "0001".toList <:+ [a, b, '0', '0', '0', '0'] := by
      simp [List.suffix_cons_iff]
    have hup : "0000".toList <:+ [a, b, '0', '0', '0', '0'] := ⟨[a, b], rfl⟩
    rw [if_neg hdown, if_pos hup]
    rfl
  · next hdown hup =>
    -- A state of four digits leaves two for the key.
    have hnone (state : List Char) (hstate : state.length = 4)
        (hne : ∀ a b, unit ≠ [a, b] ++ state) : ¬ state <:+ unit := by
      rintro ⟨key, rfl⟩
      rw [List.length_append, hstate] at hlength
      obtain ⟨a, b, rfl⟩ := List.length_eq_two.1 (Nat.add_right_cancel (m := 4) hlength)
      exact hne a b rfl
    have hdown : ¬ "0001".toList <:+ unit := hnone _ rfl hdown
    have hup : ¬ "0000".toList <:+ unit := hnone _ rfl hup
    rw [if_neg hdown, if_neg hup]

/-- The entry of a unit shows the unit. -/
theorem text_ofUnit (hlength : unit.length = 6) (hhex : ∀ d ∈ unit, Numeral.IsHex d) :
    (Entry.ofUnit unit).text = unitText unit := by
  rw [unitText]
  by_cases hmark : "ff".toList <+: unit
  · obtain ⟨value, rfl⟩ := hmark
    have hvalue : value.length = 4 := by simpa using hlength
    have hnumber : Numeral.hexValue? value = some (Numeral.hexNumber value) :=
      Numeral.hexValue?_eq fun d hd => hhex d (List.mem_append_right _ hd)
    rw [ofUnit_delay hvalue, hnumber, if_pos (List.prefix_append _ _)]
    rfl
  · have hkey : Numeral.hexValue? (unit.take 2) = some (Numeral.hexNumber (unit.take 2)) :=
      Numeral.hexValue?_eq fun d hd => hhex d (List.mem_of_mem_take hd)
    rw [ofUnit_key hmark hlength, hkey, if_neg hmark]
    split
    · rfl
    · split <;> rfl

/-! ## Entries -/

/-- The entry behind those of the units, if there is one. -/
def closing? (ds : List Char) : Option Entry :=
  if paddingIndex ds < (units ds).length then
    some (.padding ((units ds).length - paddingIndex ds))
  else if leftover ds = [] then none
  else some (.incomplete (leftover ds))

theorem closing?_zeroUnit (rest : List Char) :
    closing? (zeroUnit ++ rest) = some (.padding (1 + rest.length / 6)) := by
  rw [closing?, paddingIndex_append rfl, if_pos rfl, units_append rfl, List.length_cons,
    length_units, if_pos (Nat.succ_pos _), Nat.sub_zero, Nat.add_comm]

theorem closing?_append (h : unit.length = 6) (hzero : unit ≠ zeroUnit) :
    closing? (unit ++ rest) = closing? rest := by
  rw [closing?, paddingIndex_append h, if_neg hzero, units_append h, leftover_append h,
    List.length_cons, closing?, Nat.add_sub_add_right]
  simp only [Nat.add_lt_add_iff_right]

theorem closing?_eq_some (h : ds.length < 6) (hne : ds ≠ []) :
    closing? ds = some (.incomplete ds) := by
  have hnone : ¬ paddingIndex ds < (units ds).length := by simp [units_eq_nil h]
  rw [closing?, if_neg hnone, leftover_eq_self h, if_neg hne]

/-- The entries are those of the units in front of the padding, and the last one. -/
theorem entries_eq (ds : List Char) :
    entries ds = ((units ds).take (paddingIndex ds)).map Entry.ofUnit ++
      (closing? ds).toList := by
  fun_induction entries ds with
  | case1 rest =>
    show _ = ((units (zeroUnit ++ rest)).take (paddingIndex (zeroUnit ++ rest))).map _ ++
      (closing? (zeroUnit ++ rest)).toList
    rw [paddingIndex_append rfl, if_pos rfl, closing?_zeroUnit]
    rfl
  | case2 a b c d e f rest hne ih =>
    have hlength : [a, b, c, d, e, f].length = 6 := rfl
    have hzero : [a, b, c, d, e, f] ≠ zeroUnit := by
      rintro ⟨⟩
      exact hne rfl rfl rfl rfl rfl rfl
    show _ = ((units ([a, b, c, d, e, f] ++ rest)).take
      (paddingIndex ([a, b, c, d, e, f] ++ rest))).map _ ++
        (closing? ([a, b, c, d, e, f] ++ rest)).toList
    rw [paddingIndex_append hlength, if_neg hzero, closing?_append hlength hzero,
      units_append hlength, ih]
    rfl
  | case3 => rfl
  | case4 tail _ hshort hne =>
    have hlength : tail.length < 6 := by
      match tail, hshort with
      | [], _ | [_], _ | [_, _], _ | [_, _, _], _ | [_, _, _, _], _ | [_, _, _, _, _], _ => simp
      | a :: b :: c :: d :: e :: f :: rest, hshort => exact absurd rfl (hshort a b c d e f rest)
    rw [units_eq_nil hlength, List.take_nil, closing?_eq_some hlength hne]
    rfl

/-! ## Lines -/

/-- The line behind those of the units, if there is one. -/
def closingLine? (ds : List Char) : Option (List Char) :=
  let k := paddingIndex ds
  if k < (units ds).length then
    some (lineAt k ("PADDING ".toList ++ Nat.toDigits 10 ((units ds).length - k)))
  else if leftover ds = [] then none
  else some (lineAt k (leftover ds ++ " (incomplete)".toList))

/-- The listing of a row of digits, told by its units. -/
def unitLines (ds : List Char) : List (List Char) :=
  (((units ds).take (paddingIndex ds)).mapIdx fun i unit => lineAt i (unitText unit)) ++
    (closingLine? ds).toList

theorem closingLine?_eq (ds : List Char) :
    closingLine? ds = (closing? ds).map fun entry => lineAt (paddingIndex ds) entry.text := by
  rw [closingLine?, closing?]
  split
  · rfl
  · split <;> rfl

/-- The lines of the entries of hexadecimal digits are told by the units. -/
theorem number_entries (h : ∀ d ∈ ds, Numeral.IsHex d) : number (entries ds) = unitLines ds := by
  have hlength : ((units ds).take (paddingIndex ds)).length = paddingIndex ds :=
    List.length_take_of_le (paddingIndex_le ds)
  rw [number, entries_eq, List.mapIdx_append, List.length_map, hlength, unitLines, closingLine?_eq]
  congr 1
  · rw [List.mapIdx_eq_iff]
    intro i
    rw [List.getElem?_mapIdx, List.getElem?_map]
    cases hunit : ((units ds).take (paddingIndex ds))[i]? with
    | none => rfl
    | some unit =>
      have hmem : unit ∈ units ds := List.mem_of_mem_take (List.mem_of_getElem? hunit)
      have htext : (Entry.ofUnit unit).text = unitText unit :=
        text_ofUnit (length_of_mem_units hmem) fun d hd => h d (mem_of_mem_units hmem hd)
      exact congrArg (fun text => some (lineAt i text)) htext.symm
  · cases closing? ds with
    | none => rfl
    | some entry =>
      rw [Option.toList_some, List.mapIdx_singleton, Nat.zero_add]
      rfl

/-! ## Letters of either case -/

/-- The hexadecimal digits, in either case. -/
def IsHexDigit (c : Char) : Prop :=
  ('0' ≤ c ∧ c ≤ '9') ∨ ('a' ≤ c ∧ c ≤ 'f') ∨ ('A' ≤ c ∧ c ≤ 'F')

instance (c : Char) : Decidable (IsHexDigit c) := inferInstanceAs (Decidable (_ ∨ _))

theorem isBlank_toLower (c : Char) : Text.isBlank c.toLower = Text.isBlank c := by
  have hascii : ∀ n < 128, Text.isBlank (Char.ofNat n).toLower = Text.isBlank (Char.ofNat n) := by
    decide +kernel
  rcases Text.ascii_or c with ⟨n, hn, rfl⟩ | h
  · exact hascii n hn
  · rw [Text.toLower_eq_self h]

theorem toNat_le_of_isHexDigit (h : IsHexDigit c) : c.toNat ≤ 102 := by
  have hv : c.val.toNat = c.toNat := rfl
  have h9 : '9'.val.toNat = 57 := rfl
  have hf : 'f'.val.toNat = 102 := rfl
  have hF : 'F'.val.toNat = 70 := rfl
  simp only [IsHexDigit, Char.le_def, UInt32.le_iff_toNat_le] at h
  omega

theorem isHex_toLower (c : Char) : Numeral.IsHex c.toLower ↔ IsHexDigit c := by
  have hascii : ∀ n < 128, Numeral.IsHex (Char.ofNat n).toLower ↔ IsHexDigit (Char.ofNat n) := by
    decide +kernel
  rcases Text.ascii_or c with ⟨n, hn, rfl⟩ | h
  · exact hascii n hn
  · rw [Text.toLower_eq_self h]
    refine iff_of_false (fun hhex => ?_) fun hdigit => ?_
    · have := (Numeral.toNat_of_isHex hhex).2
      omega
    · have := toNat_le_of_isHexDigit hdigit
      omega

/-! ## Payloads -/

theorem forall_isHex_digits {payload : List Char} :
    (∀ d ∈ digits payload, Numeral.IsHex d) ↔ ∀ c ∈ Text.strip payload, IsHexDigit c := by
  rw [digits, List.forall_mem_map]
  simp only [isHex_toLower]

theorem digits_eq_strip (payload : List Char) :
    digits payload = Text.strip (payload.map Char.toLower) := by
  rw [digits, Text.strip_map isBlank_toLower]

theorem disassemble_congr {first second : List Char} (h : digits first = digits second) :
    disassemble first = disassemble second := by
  rw [disassemble, disassemble, h]

theorem disassemble_eq_ok_iff {payload : List Char} {lines : List (List Char)} :
    disassemble payload = .ok lines ↔
      (∀ c ∈ Text.strip payload, IsHexDigit c) ∧ unitLines (digits payload) = lines := by
  rw [← forall_isHex_digits, disassemble]
  by_cases h : ∀ d ∈ digits payload, Numeral.IsHex d
  · rw [if_pos (List.all_eq_true.2 h), number_entries h, Except.ok.injEq, and_iff_right h]
  · rw [if_neg fun hall => h (List.all_eq_true.1 hall)]
    exact iff_of_false (fun herror => by cases herror) fun hboth => h hboth.1

theorem disassemble_eq_error_iff {payload : List Char} :
    disassemble payload = .error .notHex ↔ ∃ c ∈ Text.strip payload, ¬ IsHexDigit c := by
  have hnone : disassemble payload = .error .notHex ↔ ∀ lines, disassemble payload ≠ .ok lines := by
    cases disassemble payload with
    | ok lines => simp
    | error e =>
      cases e
      simp
  rw [hnone]
  simp only [ne_eq, disassemble_eq_ok_iff, not_and]
  constructor
  · intro h
    by_contra hdigits
    push Not at hdigits
    exact h _ hdigits rfl
  · rintro ⟨c, hc, hdigit⟩ lines hdigits
    exact absurd (hdigits c hc) hdigit

/-- A payload has a listing if it has nothing but digits in it, apart from blanks around
    them, and the listing goes through its units up to the padding. Neither the blanks
    nor the case of letters make a difference. -/
theorem disassemble_eq_unitLines (payload : List Char) :
    (disassemble payload = .error .notHex ↔ ∃ c ∈ Text.strip payload, ¬ IsHexDigit c) ∧
      ((∀ c ∈ Text.strip payload, IsHexDigit c) →
        disassemble payload = .ok (unitLines ((Text.strip payload).map Char.toLower))) ∧
      (∀ front back, (∀ c ∈ front ++ back, Text.isBlank c = true) →
        disassemble (front ++ payload ++ back) = disassemble payload) ∧
      ∀ other, other.map Char.toLower = payload.map Char.toLower →
        disassemble other = disassemble payload := by
  refine ⟨disassemble_eq_error_iff, fun h => disassemble_eq_ok_iff.2 ⟨h, rfl⟩, ?_, ?_⟩
  · intro front back hblank
    refine disassemble_congr ?_
    rw [digits, digits, Text.strip_append hblank]
  · intro other hother
    refine disassemble_congr ?_
    rw [digits_eq_strip, digits_eq_strip, hother]

/-- A payload in letters of both cases and between blanks, in which something follows
    the padding. -/
def mixedPayload : List Char := "\u2003Ff0064410002000000B1\t".toList

/-- What follows the padding is dropped. -/
theorem disassemble_mixedPayload :
    (∀ c ∈ Text.strip mixedPayload, IsHexDigit c) ∧
      disassemble mixedPayload = .ok (["0x0000: DELAY 100", "0x0003: UNKNOWN_OPCODE 410002",
        "0x0006: PADDING 1"].map String.toList) ∧
      disassemble ("\n".toList ++ mixedPayload ++ " ".toList) = disassemble mixedPayload ∧
      disassemble "\u2003fF0064410002000000b1\t".toList = disassemble mixedPayload ∧
      disassemble "41 0001".toList = .error .notHex := by
  have hall : (Text.strip mixedPayload).all (IsHexDigit ·) = true := by decide
  have hdigits : ∀ c ∈ Text.strip mixedPayload, IsHexDigit c := fun c hc =>
    of_decide_eq_true (List.all_eq_true.1 hall c hc)
  obtain ⟨-, hok, hblanks, hcase⟩ := disassemble_eq_unitLines mixedPayload
  refine ⟨hdigits, (hok hdigits).trans ?_, hblanks _ _ (List.all_eq_true.1 (by decide)),
    hcase _ (by decide), (disassemble_eq_unitLines _).1.2 ⟨' ', by decide, by decide⟩⟩
  decide

end KeyMacro.Listing
