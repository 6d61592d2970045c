import KeyMacro.Proofs.Key.Name
import KeyMacro.Proofs.Listing.Unit

/-!
# Payloads with the same listing

A listing tells of a payload what stands in front of the padding and how many units
there are in all; it is silent on what stands behind the first unit of padding. So two
payloads have the same listing if their digits are the same, or differ behind the first
unit of padding only, with as many units in one as in the other (`AreAlike`). There are no
other payloads with the same listing (`disassemble_eq_disassemble_iff`).

The reason is that a listing can be read. An entry of one kind is never worded like one
of another kind, and what it says besides, be it a number, a key or some digits, can be
told from the wording (`Entry.eq_of_text_eq`). From the entry of a unit, in turn, the
unit can be written down again (`Entry.unitDigits_ofUnit`).
-/

namespace KeyMacro.Listing

variable {ds es unit : List Char}

/-- Whether two rows of digits are the same but for what stands behind the first unit of
    padding, and have as many units. -/
inductive AreAlike (ds es : List Char) : Prop
  | unpadded : zeroUnit ∉ units ds → zeroUnit ∉ units es → ds = es → AreAlike ds es
  | padded : zeroUnit ∈ units ds → zeroUnit ∈ units es → paddingIndex ds = paddingIndex es →
      (units ds).take (paddingIndex ds) = (units es).take (paddingIndex es) →
      (units ds).length = (units es).length → AreAlike ds es

/-! ## The wording of entries -/

theorem not_isUpper_of_isHex {c : Char} (h : Numeral.IsHex c) : ¬ c.isUpper := by
  have digit : ∀ n < 16, ¬ (Numeral.hexDigit n).isUpper := by decide
  obtain ⟨n, hn, rfl⟩ := Numeral.exists_of_isHex h
  exact digit n hn

namespace Entry

variable {e f : Entry}

/-- The digits that an entry shows as they are. -/
def rawDigits : Entry → List Char
  | unknown digits => digits
  | incomplete tail => tail
  | delay _ | keyDown _ | keyUp _ | padding _ => []

/-- The first letters of an entry, unless it begins with digits. -/
def initials? : Entry → Option (List Char)
  | delay _ => some ['D', 'E', 'L', 'A']
  | keyDown _ => some ['K', 'E', 'Y', 'D']
  | keyUp _ => some ['K', 'E', 'Y', 'U']
  | unknown _ => some ['U', 'N', 'K', 'N']
  | padding _ => some ['P', 'A', 'D', 'D']
  | incomplete _ => none

theorem take_text {letters : List Char} (h : e.initials? = some letters) :
    e.text.take 4 = letters := by
  cases e <;> cases h <;> rfl

theorem isUpper_of_initials? {letters : List Char} (h : e.initials? = some letters) :
    letters.head?.any Char.isUpper := by
  cases e <;> cases h <;> rfl

/-- What begins with digits does not begin with the letters of a word. -/
theorem take_text_of_initials?_eq_none (he : ∀ c ∈ e.rawDigits, Numeral.IsHex c)
    (h : e.initials? = none) : ¬ (e.text.take 4).head?.any Char.isUpper := by
  cases e with
  | incomplete tail =>
    cases tail with
    | nil => decide
    | cons c tail => exact not_isUpper_of_isHex (he c List.mem_cons_self)
  | delay | keyDown | keyUp | unknown | padding => cases h

/-- The kind of an entry can be told from its wording. -/
theorem initials?_eq_of_text_eq (he : ∀ c ∈ e.rawDigits, Numeral.IsHex c)
    (hf : ∀ c ∈ f.rawDigits, Numeral.IsHex c) (h : e.text = f.text) :
    e.initials? = f.initials? := by
  cases hei : e.initials? with
  | none =>
    cases hfi : f.initials? with
    | none => rfl
    | some letters =>
      have hdigit := take_text_of_initials?_eq_none he hei
      rw [h, take_text hfi] at hdigit
      exact absurd (isUpper_of_initials? hfi) hdigit
  | some letters =>
    cases hfi : f.initials? with
    | none =>
      have hdigit := take_text_of_initials?_eq_none hf hfi
      rw [← h, take_text hei] at hdigit
      exact absurd (isUpper_of_initials? hei) hdigit
    | some letters' => rw [← take_text hei, h, take_text hfi]

/-- Entries with the same wording are the same, if they show none but hexadecimal
    digits. -/
theorem eq_of_text_eq (he : ∀ c ∈ e.rawDigits, Numeral.IsHex c)
    (hf : ∀ c ∈ f.rawDigits, Numeral.IsHex c) (h : e.text = f.text) : e = f := by
  have hkind := initials?_eq_of_text_eq he hf h
  cases e with
  | delay time =>
    cases f with
    | delay time' =>
      have htext : "DELAY ".toList ++ Nat.toDigits 10 time =
          "DELAY ".toList ++ Nat.toDigits 10 time' := h
      rw [Numeral.toDigits_injective (List.append_cancel_left htext)]
    | keyDown | keyUp | unknown | padding | incomplete => cases hkind
  | keyDown code =>
    cases f with
    | keyDown code' =>
      have htext : "KEYDOWN ".toList ++ Key.nameOf code = "KEYDOWN ".toList ++ Key.nameOf code' := h
      rw [Int.ofNat.inj (Key.nameOf_injective (List.append_cancel_left htext))]
    | delay | keyUp | unknown | padding | incomplete => cases hkind
  | keyUp code =>
    cases f with
    | keyUp code' =>
      have htext : "KEYUP ".toList ++ Key.nameOf code = "KEYUP ".toList ++ Key.nameOf code' := h
      rw [Int.ofNat.inj (Key.nameOf_injective (List.append_cancel_left htext))]
    | delay | keyDown | unknown | padding | incomplete => cases hkind
  | unknown digits =>
    cases f with
    | unknown digits' =>
      have htext : "UNKNOWN_OPCODE ".toList ++ digits = "UNKNOWN_OPCODE ".toList ++ digits' := h
      rw [List.append_cancel_left htext]
    | delay | keyDown | keyUp | padding | incomplete => cases hkind
  | padding count =>
    cases f with
    | padding count' =>
      have htext : "PADDING ".toList ++ Nat.toDigits 10 count =
          "PADDING ".toList ++ Nat.toDigits 10 count' := h
      rw [Numeral.toDigits_injective (List.append_cancel_left htext)]
    | delay | keyDown | keyUp | unknown | incomplete => cases hkind
  | incomplete tail =>
    cases f with
    | incomplete tail' =>
      have htext : tail ++ " (incomplete)".toList = tail' ++ " (incomplete)".toList := h
      rw [List.append_cancel_right htext]
    | delay | keyDown | keyUp | unknown | padding => cases hkind

end Entry

/-- Each line of a listing gives back its entry. -/
theorem number_inj {es fs : List Entry} (hes : ∀ e ∈ es, ∀ c ∈ e.rawDigits, Numeral.IsHex c)
    (hfs : ∀ f ∈ fs, ∀ c ∈ f.rawDigits, Numeral.IsHex c) (h : number es = number fs) :
    es = fs := by
  refine List.ext_getElem? fun i => ?_
  have hline := congrArg (·[i]?) h
  simp only [number, List.getElem?_mapIdx] at hline
  cases he : es[i]? with
  | none =>
    rw [he] at hline
    exact (Option.map_eq_none_iff.1 hline.symm).symm
  | some e =>
    obtain ⟨f, hf, htext⟩ := Option.map_eq_some_iff.1 (hline.symm.trans (by rw [he]; rfl))
    -- The lines have the same address.
    rw [hf, Entry.eq_of_text_eq (hes e (List.mem_of_getElem? he)) (hfs f (List.mem_of_getElem? hf))
      (List.append_cancel_left htext.symm)]

/-! ## Units written down from their entries -/

namespace Entry

/-- The digits of the unit that an entry is for. -/
def unitDigits : Entry → List Char
  | delay time => "ff".toList ++ Numeral.hexFixed 4 time
  | keyDown code => Numeral.hexFixed 2 code ++ "0001".toList
  | keyUp code => Numeral.hexFixed 2 code ++ "0000".toList
  | unknown digits => digits
  | padding _ | incomplete _ => []

/-- Whether an entry is for one unit. -/
def isUnit : Entry → Bool
  | delay _ | keyDown _ | keyUp _ | unknown _ => true
  | padding _ | incomplete _ => false

theorem isUnit_ofUnit (unit : List Char) : (ofUnit unit).isUnit = true := by
  unfold ofUnit
  split <;> rfl

theorem hexFixed_hexValue? {width : Nat} (hlength : ds.length = width)
    (hhex : ∀ d ∈ ds, Numeral.IsHex d) :
    Numeral.hexFixed width ((Numeral.hexValue? ds).getD 0) = ds := by
  rw [Numeral.hexValue?_eq hhex, Option.getD_some, ← hlength, Numeral.hexFixed_hexNumber hhex]

/-- The entry of a unit tells all of its digits. -/
theorem unitDigits_ofUnit (hlength : unit.length = 6) (hhex : ∀ d ∈ unit, Numeral.IsHex d) :
    (ofUnit unit).unitDigits = unit := by
  by_cases hmark : "ff".toList <+: unit
  · obtain ⟨value, rfl⟩ := hmark
    have hvalue : value.length = 4 := by simpa using hlength
    rw [ofUnit_delay hvalue, Entry.unitDigits,
      hexFixed_hexValue? hvalue fun d hd => hhex d (List.mem_append_right _ hd)]
  · have hkey : Numeral.hexFixed 2 ((Numeral.hexValue? (unit.take 2)).getD 0) = unit.take 2 :=
      hexFixed_hexValue? (by simp [hlength]) fun d hd => hhex d (List.mem_of_mem_take hd)
    -- What stands behind the key is the state.
    have hstate {state : List Char} (hfour : state.length = 4) (hsuffix : state <:+ unit) :
        unit.take 2 ++ state = unit := by
      obtain ⟨key, rfl⟩ := hsuffix
      have htwo : key.length = 2 := by
        rw [List.length_append, hfour] at hlength
        omega
      rw [List.take_left' htwo]
    rw [ofUnit_key hmark hlength]
    split
    · next hdown => rw [Entry.unitDigits, hkey, hstate rfl hdown]
    · split
      · next hup => rw [Entry.unitDigits, hkey, hstate rfl hup]
      · rfl

end Entry

/-! ## Digits told by their entries -/

/-- The units and the digits left over are all the digits. -/
theorem flatten_units_append (ds : List Char) : (units ds).flatten ++ leftover ds = ds := by
  induction hlength : ds.length using Nat.strong_induction_on generalizing ds with
  | h n ih =>
    by_cases hshort : ds.length < 6
    · rw [units_eq_nil hshort, leftover_eq_self hshort]
      rfl
    · obtain ⟨unit, rest, hunit, rfl⟩ : ∃ unit rest, unit.length = 6 ∧ unit ++ rest = ds :=
        ⟨ds.take 6, ds.drop 6, List.length_take_of_le (by omega), List.take_append_drop 6 ds⟩
      have hrest : rest.length < n := by
        rw [← hlength, List.length_append]
        omega
      rw [units_append hunit, leftover_append hunit, List.flatten_cons, List.append_assoc,
        ih _ hrest rest rfl]

theorem mem_units_iff : zeroUnit ∈ units ds ↔ paddingIndex ds < (units ds).length := by
  rw [paddingIndex, List.findIdx_lt_length]
  simp

theorem closing?_of_mem (h : zeroUnit ∈ units ds) :
    closing? ds = some (.padding ((units ds).length - paddingIndex ds)) :=
  if_pos (mem_units_iff.1 h)

theorem closing?_of_notMem (h : zeroUnit ∉ units ds) :
    closing? ds = if leftover ds = [] then none else some (.incomplete (leftover ds)) :=
  if_neg fun hlt => h (mem_units_iff.2 hlt)

theorem isUnit_of_closing? {e : Entry} (h : closing? ds = some e) : e.isUnit = false := by
  rw [closing?] at h
  split at h
  · cases h
    rfl
  · split at h <;> cases h
    rfl

theorem isHex_of_mem_entries (h : ∀ d ∈ ds, Numeral.IsHex d) :
    ∀ e ∈ entries ds, ∀ c ∈ e.rawDigits, Numeral.IsHex c := by
  intro e he c hc
  rw [entries_eq, List.mem_append] at he
  rcases he with he | he
  · obtain ⟨unit, hunit, rfl⟩ := List.mem_map.1 he
    have hmem : c ∈ unit := by
      unfold Entry.ofUnit at hc
      split at hc
      · cases hc
      · cases hc
      · cases hc
      · exact hc
    exact h c (mem_of_mem_units (List.mem_of_mem_take hunit) hmem)
  · rw [Option.mem_toList, closing?] at he
    split at he
    · cases he
      cases hc
    · split at he <;> cases he
      exact h c (List.mem_of_mem_drop hc)

/-- The entries of the units are those in front. -/
theorem filter_isUnit_entries (ds : List Char) : (entries ds).filter Entry.isUnit =
    ((units ds).take (paddingIndex ds)).map Entry.ofUnit := by
  have hunits : ∀ e ∈ ((units ds).take (paddingIndex ds)).map Entry.ofUnit, e.isUnit = true := by
    rw [List.forall_mem_map]
    exact fun unit _ => Entry.isUnit_ofUnit unit
  have hclosing : ∀ e ∈ (closing? ds).toList, ¬ e.isUnit = true := by
    intro e he
    rw [isUnit_of_closing? (Option.mem_toList.1 he)]
    exact Bool.false_ne_true
  rw [entries_eq, List.filter_append, List.filter_eq_self.2 hunits,
    List.filter_eq_nil_iff.2 hclosing, List.append_nil]

/-- The units in front of the padding, told by the entries. -/
theorem map_unitDigits_entries (h : ∀ d ∈ ds, Numeral.IsHex d) :
    ((entries ds).filter Entry.isUnit).map Entry.unitDigits =
      (units ds).take (paddingIndex ds) := by
  rw [filter_isUnit_entries, List.map_map]
  refine (List.map_congr_left fun unit hunit => ?_).trans (List.map_id _)
  have hmem : unit ∈ units ds := List.mem_of_mem_take hunit
  exact Entry.unitDigits_ofUnit (length_of_mem_units hmem) fun d hd =>
    h d (mem_of_mem_units hmem hd)

/-- The last entry, unless it is that of a unit, told by the entries. -/
theorem closing?_eq_of_entries_eq (h : entries ds = entries es) : closing? ds = closing? es := by
  have hfront := (filter_isUnit_entries ds).symm.trans (h ▸ filter_isUnit_entries es)
  rw [entries_eq, entries_eq, hfront, List.append_cancel_left_eq] at h
  simpa using congrArg List.head? h

/-- Digits with the same entries are alike. -/
theorem areAlike_of_entries_eq (hds : ∀ d ∈ ds, Numeral.IsHex d)
    (hes : ∀ d ∈ es, Numeral.IsHex d) (h : entries ds = entries es) : AreAlike ds es := by
  have hunits : (units ds).take (paddingIndex ds) = (units es).take (paddingIndex es) := by
    rw [← map_unitDigits_entries hds, h, map_unitDigits_entries hes]
  have hindex : paddingIndex ds = paddingIndex es := by
    have := congrArg List.length hunits
    rwa [List.length_take_of_le (paddingIndex_le ds),
      List.length_take_of_le (paddingIndex_le es)] at this
  have hclosing := closing?_eq_of_entries_eq h
  by_cases hd : zeroUnit ∈ units ds <;> by_cases he : zeroUnit ∈ units es
  · have hlength : (units ds).length = (units es).length := by
      rw [closing?_of_mem hd, closing?_of_mem he] at hclosing
      have hcount := Entry.padding.inj (Option.some.inj hclosing)
      have := mem_units_iff.1 hd
      have := mem_units_iff.1 he
      omega
    exact .padded hd he hindex hunits hlength
  · rw [closing?_of_mem hd, closing?_of_notMem he] at hclosing
    split at hclosing <;> cases hclosing
  · rw [closing?_of_notMem hd, closing?_of_mem he] at hclosing
    split at hclosing <;> cases hclosing
  · -- Nothing is behind the units but the digits left over.
    have hall : ∀ {ds}, zeroUnit ∉ units ds → (units ds).take (paddingIndex ds) = units ds :=
      fun hnot => List.take_of_length_le (Nat.le_of_not_lt fun hlt => hnot (mem_units_iff.2 hlt))
    have hleftover : leftover ds = leftover es := by
      rw [closing?_of_notMem hd, closing?_of_notMem he] at hclosing
      split at hclosing <;> split at hclosing <;> simp_all
    rw [hall hd, hall he] at hunits
    refine .unpadded hd he ?_
    rw [← flatten_units_append ds, hunits, hleftover, flatten_units_append es]

theorem entries_eq_of_areAlike (h : AreAlike ds es) : entries ds = entries es := by
  cases h with
  | unpadded _ _ heq => rw [heq]
  | padded hd he hindex hunits hlength =>
    rw [entries_eq, entries_eq, hunits, closing?_of_mem hd, closing?_of_mem he, hlength, hindex]

/-! ## Payloads -/

/-- Two payloads that have listings have the same one if and only if their digits are
    the same, or the same up to the first unit of padding and as many. -/
theorem disassemble_eq_disassemble_iff {first second : List Char} {lines lines' : List (List Char)}
    (hfirst : disassemble first = .ok lines) (hsecond : disassemble second = .ok lines') :
    disassemble first = disassemble second ↔ AreAlike (digits first) (digits second) := by
  obtain ⟨hhex, rfl⟩ := disassemble_eq_ok_iff.1 hfirst
  obtain ⟨hhex', rfl⟩ := disassemble_eq_ok_iff.1 hsecond
  rw [← forall_isHex_digits] at hhex hhex'
  rw [hfirst, hsecond, ← number_entries hhex, ← number_entries hhex', Except.ok.injEq]
  constructor
  · intro h
    exact areAlike_of_entries_eq hhex hhex'
      (number_inj (isHex_of_mem_entries hhex) (isHex_of_mem_entries hhex') h)
  · intro h
    rw [entries_eq_of_areAlike h]

/-- The units of `mixedPayload`, with nothing behind the padding. -/
def barePayload : List Char := "ff0064410002000000".toList

/-- What follows the padding does not show, unless it makes up a unit. -/
theorem disassemble_barePayload :
    AreAlike (digits mixedPayload) (digits barePayload) ∧
      disassemble mixedPayload = disassemble barePayload ∧
      disassemble mixedPayload ≠ disassemble (barePayload ++ "410001".toList) := by
  have hlisted (payload : List Char) (hall : (Text.strip payload).all (IsHexDigit ·) = true) :
      disassemble payload = .ok (unitLines (digits payload)) :=
    disassemble_eq_ok_iff.2 ⟨fun c hc => of_decide_eq_true (List.all_eq_true.1 hall c hc), rfl⟩
  have hmixed := hlisted mixedPayload (by decide)
  have hbare := hlisted barePayload (by decide)
  have hlonger := hlisted (barePayload ++ "410001".toList) (by decide)
  have halike : AreAlike (digits mixedPayload) (digits barePayload) :=
    .padded (by decide) (by decide) (by decide) (by decide) (by decide)
  refine ⟨halike, (disassemble_eq_disassemble_iff hmixed hbare).2 halike, fun heq => ?_⟩
  cases (disassemble_eq_disassemble_iff hmixed hlonger).1 heq with
  | unpadded hnot => exact hnot (by decide)
  | padded _ _ _ _ hlength => exact absurd hlength (by decide)

end KeyMacro.Listing
