import Mathlib
import KeyMacro.Text.Numeral

/-!
# Numerals read back

The decimal numeral of a number is read as that number, provided that it is not too
long (`integer?_toDigits`). What texts denote numbers at all, and which ones, is told by
their digits and the places of these (`Denotes`); the other texts are not read as numbers
(`integer?_eq_some_iff`).

A hexadecimal numeral of a fixed width has that many digits, all of them
hexadecimal (`IsHex`), and is read as the number it was written for, provided
that the width is enough (`hexValue?_hexFixed`). In the other direction, any row of
hexadecimal digits is the numeral of the number that it is read as
(`hexFixed_hexNumber`). Numerals that are filled up with zeros are told apart by their
numbers as well (`hexPadded_injective`).
-/

namespace KeyMacro.Numeral

/-! ## Decimal -/

theorem isDigit_of_mem_toDigits {n : Nat} {c : Char} (h : c ∈ Nat.toDigits 10 n) :
    c.isDigit = true :=
  Nat.isDigit_of_mem_toDigits (by decide) (by decide) h

/-- Different numbers have different decimal numerals. -/
theorem toDigits_injective : Function.Injective (Nat.toDigits 10) := by
  intro first second h
  rw [← @Nat.ofDigitChars_ten_toDigits first, h, Nat.ofDigitChars_ten_toDigits]

theorem natural?_toDigits {n : Nat} (h : (Nat.toDigits 10 n).length ≤ maxDigits) :
    natural? (Nat.toDigits 10 n) = some n := by
  have hdigits : (Nat.toDigits 10 n).all Char.isDigit = true :=
    List.all_eq_true.2 fun c hc => isDigit_of_mem_toDigits hc
  have hvalue : decimalValue (Nat.toDigits 10 n) = n := Nat.ofDigitChars_ten_toDigits
  rw [natural?, if_pos ⟨Nat.toDigits_ne_nil, h, hdigits⟩, hvalue]

/-- The numeral of a number is read back, if it is not too long. -/
theorem integer?_toDigits {n : Nat} (h : (Nat.toDigits 10 n).length ≤ maxDigits) :
    integer? (Nat.toDigits 10 n) = some (n : Int) := by
  -- A sign is no digit.
  have hsign : ∀ c ds, c.isDigit = false → Nat.toDigits 10 n ≠ c :: ds := by
    intro c ds hc hds
    have hdigit : c.isDigit = true := isDigit_of_mem_toDigits (hds ▸ List.mem_cons_self)
    rw [hc] at hdigit
    cases hdigit
  rw [integer?, natural?_toDigits h]
  · rfl
  · exact fun ds => hsign '-' ds (by decide)
  · exact fun ds => hsign '+' ds (by decide)

/-- The number that decimal digits stand for by their places. -/
def decimalNumber (ds : List Char) : Nat :=
  Nat.ofDigits 10 (ds.reverse.map fun d => d.toNat - '0'.toNat)

/-- Whether a text is a row of decimal digits that is not too long. Leading zeros count. -/
structure IsDigitRow (ds : List Char) : Prop where
  ne_nil : ds ≠ []
  length_le : ds.length ≤ 4300
  digits : ∀ d ∈ ds, '0' ≤ d ∧ d ≤ '9'

/-- Whether a text denotes a number: it is a row of digits, with a sign or without one. -/
inductive Denotes : List Char → Int → Prop
  | unsigned {ds : List Char} : IsDigitRow ds → Denotes ds (decimalNumber ds)
  | plus {ds : List Char} : IsDigitRow ds → Denotes ('+' :: ds) (decimalNumber ds)
  | minus {ds : List Char} : IsDigitRow ds → Denotes ('-' :: ds) (-(decimalNumber ds : Int))

theorem decimalValue_eq (ds : List Char) : decimalValue ds = decimalNumber ds := by
  induction ds using List.reverseRecOn with
  | nil => rfl
  | append_singleton ds d ih =>
    have hvalue : decimalValue (ds ++ [d]) = 10 * decimalValue ds + (d.toNat - '0'.toNat) := by
      rw [decimalValue, List.foldl_append]
      rfl
    rw [hvalue, ih, decimalNumber, decimalNumber, List.reverse_append, List.reverse_singleton,
      List.singleton_append, List.map_cons, Nat.ofDigits_cons, Nat.add_comm]

theorem isDigitRow_iff {ds : List Char} :
    IsDigitRow ds ↔ ds ≠ [] ∧ ds.length ≤ maxDigits ∧ ds.all Char.isDigit = true := by
  have hdigit (d : Char) : d.isDigit = true ↔ '0' ≤ d ∧ d ≤ '9' := by
    simp [Char.isDigit, Char.le_def, UInt32.le_iff_toNat_le]
  simp only [List.all_eq_true, hdigit]
  exact ⟨fun h => ⟨h.1, h.2, h.3⟩, fun h => ⟨h.1, h.2.1, h.2.2⟩⟩

theorem natural?_eq_some_iff {ds : List Char} {n : Nat} :
    natural? ds = some n ↔ IsDigitRow ds ∧ decimalNumber ds = n := by
  rw [natural?, Option.ite_none_right_eq_some, isDigitRow_iff, Option.some.injEq, decimalValue_eq]

/-- The texts that are read as a number are those that denote it. -/
theorem integer?_eq_some_iff {cs : List Char} {n : Int} :
    integer? cs = some n ↔ Denotes cs n := by
  have hread (f : Int → Int) (ds : List Char) :
      (do let m ← natural? ds; pure (m : Int)).map f = some n ↔
        IsDigitRow ds ∧ f (decimalNumber ds) = n := by
    cases hvalue : natural? ds with
    | none =>
      refine iff_of_false (by simp) fun h => ?_
      rw [natural?_eq_some_iff.2 ⟨h.1, rfl⟩] at hvalue
      cases hvalue
    | some m =>
      obtain ⟨hrow, rfl⟩ := natural?_eq_some_iff.1 hvalue
      simp [hrow]
  constructor
  · intro h
    unfold integer? at h
    split at h <;> obtain ⟨hrow, rfl⟩ := (hread _ _).1 h
    · exact .minus hrow
    · exact .plus hrow
    · exact .unsigned hrow
  · intro h
    cases h with
    | unsigned hrow =>
      -- A sign is no digit.
      have hsign {c : Char} (ds : List Char) (hc : ¬ ('0' ≤ c ∧ c ≤ '9')) : cs ≠ c :: ds := by
        rintro rfl
        exact hc (hrow.digits c List.mem_cons_self)
      rw [integer?]
      · exact (hread _ cs).2 ⟨hrow, rfl⟩
      · exact fun ds => hsign ds (by decide)
      · exact fun ds => hsign ds (by decide)
    | plus hrow => exact (hread (fun m => m) _).2 ⟨hrow, rfl⟩
    | minus hrow => exact (hread (fun m => -m) _).2 ⟨hrow, rfl⟩

/-! ## Hexadecimal -/

/-- The lower-case hexadecimal digits. -/
def IsHex (c : Char) : Prop := (hexDigitValue? c).isSome

instance (c : Char) : Decidable (IsHex c) := inferInstanceAs (Decidable (_ = true))

theorem toNat_of_isHex {c : Char} (h : IsHex c) : 48 ≤ c.toNat ∧ c.toNat ≤ 102 := by
  simp only [IsHex, hexDigitValue?, Char.le_def, UInt32.le_iff_toNat_le] at h
  have hv : c.val.toNat = c.toNat := rfl
  have h0 : '0'.val.toNat = 48 := rfl
  have h9 : '9'.val.toNat = 57 := rfl
  have ha : 'a'.val.toNat = 97 := rfl
  have hf : 'f'.val.toNat = 102 := rfl
  split at h
  · omega
  split at h
  · omega
  · cases h

/-- There are sixteen of them, each the digit of a number. -/
theorem exists_of_isHex {c : Char} (h : IsHex c) : ∃ n < 16, hexDigit n = c := by
  have ascii : ∀ n < 128, IsHex (Char.ofNat n) → ∃ k < 16, hexDigit k = Char.ofNat n := by
    decide +kernel
  have hc := ascii c.toNat (Nat.lt_of_le_of_lt (toNat_of_isHex h).2 (by decide))
  rw [Char.ofNat_toNat] at hc
  exact hc h

theorem mem_of_isHex {c : Char} (h : IsHex c) : c ∈ "0123456789abcdef".toList := by
  have all : ∀ n < 16, hexDigit n ∈ "0123456789abcdef".toList := by decide
  obtain ⟨n, hn, rfl⟩ := exists_of_isHex h
  exact all n hn

/-- The digits of a number in some base stand for numbers below the base. -/
theorem exists_digitChar_of_mem_toDigits {base n : Nat} (hbase : 1 < base) {c : Char}
    (h : c ∈ Nat.toDigits base n) : ∃ d < base, c = Nat.digitChar d := by
  induction n using Nat.strong_induction_on with
  | h n ih =>
    rw [Nat.toDigits_eq_if hbase] at h
    split at h
    · next hn => exact ⟨n, hn, List.mem_singleton.1 h⟩
    · next hn =>
      rcases List.mem_append.1 h with h | h
      · exact ih (n / base) (Nat.div_lt_self (by omega) hbase) h
      · exact ⟨n % base, Nat.mod_lt _ (by omega), List.mem_singleton.1 h⟩

/-- Sixteen numbers, each of which has a digit of its own. -/
theorem hexDigitValue?_hexDigit {n : Nat} (h : n < 16) : hexDigitValue? (hexDigit n) = some n := by
  have all : ∀ i : Fin 16, hexDigitValue? (hexDigit i) = some i.val := by decide
  exact all ⟨n, h⟩

theorem isHex_hexDigit {n : Nat} (h : n < 16) : IsHex (hexDigit n) := by
  rw [IsHex, hexDigitValue?_hexDigit h]
  rfl

/-- A digit is the one of the number that it stands for. -/
theorem of_hexDigitValue? {c : Char} {v : Nat} (h : hexDigitValue? c = some v) :
    v < 16 ∧ hexDigit v = c := by
  obtain ⟨n, hn, rfl⟩ := exists_of_isHex (show IsHex c by rw [IsHex, h]; rfl)
  obtain rfl : n = v := Option.some.inj ((hexDigitValue?_hexDigit hn).symm.trans h)
  exact ⟨hn, rfl⟩

@[simp] theorem length_hexFixed (width n : Nat) : (hexFixed width n).length = width := by
  induction width generalizing n with
  | zero => rfl
  | succ width ih => simp [hexFixed, ih]

theorem isHex_of_mem_hexFixed {width n : Nat} {c : Char} (h : c ∈ hexFixed width n) : IsHex c := by
  induction width generalizing n with
  | zero => simp [hexFixed] at h
  | succ width ih =>
    rw [hexFixed, List.mem_append, List.mem_singleton] at h
    rcases h with h | rfl
    · exact ih h
    · exact isHex_hexDigit (Nat.mod_lt _ (by decide))

theorem hexValue?_append_singleton (ds : List Char) (d : Char) :
    hexValue? (ds ++ [d]) =
      (hexValue? ds).bind fun n => (hexDigitValue? d).map (16 * n + ·) := by
  simp [hexValue?, List.foldlM_append]

/-- A numeral of a fixed width is read back, if the number fits. -/
theorem hexValue?_hexFixed {width n : Nat} (h : n < 16 ^ width) :
    hexValue? (hexFixed width n) = some n := by
  induction width generalizing n with
  | zero =>
    obtain rfl : n = 0 := by simpa using h
    rfl
  | succ width ih =>
    -- In front of the last digit is a numeral of a smaller width.
    have hd : n / 16 < 16 ^ width := by
      rw [Nat.pow_succ] at h
      omega
    rw [hexFixed, hexValue?_append_singleton, ih hd,
      hexDigitValue?_hexDigit (Nat.mod_lt _ (by decide))]
    simp only [Option.bind_some, Option.map_some, Option.some.injEq]
    omega

/-- The number that hexadecimal digits stand for by their places. -/
def hexNumber (ds : List Char) : Nat :=
  Nat.ofDigits 16 (ds.reverse.map fun d => (hexDigitValue? d).getD 0)

theorem hexNumber_append_singleton (ds : List Char) (d : Char) :
    hexNumber (ds ++ [d]) = (hexDigitValue? d).getD 0 + 16 * hexNumber ds := by
  rw [hexNumber, List.reverse_append, List.reverse_singleton, List.singleton_append, List.map_cons,
    Nat.ofDigits_cons, hexNumber]

/-- A numeral of a fixed width is the one of the number that it is read as. -/
theorem hexFixed_hexNumber {ds : List Char} (h : ∀ d ∈ ds, IsHex d) :
    hexFixed ds.length (hexNumber ds) = ds := by
  induction ds using List.reverseRecOn with
  | nil => rfl
  | append_singleton ds d ih =>
    obtain ⟨v, hv⟩ := Option.isSome_iff_exists.1 (h d (by simp))
    obtain ⟨hlt, hdigit⟩ := of_hexDigitValue? hv
    have hdiv : (v + 16 * hexNumber ds) / 16 = hexNumber ds := by omega
    have hmod : (v + 16 * hexNumber ds) % 16 = v := by omega
    rw [List.length_append, List.length_singleton, hexNumber_append_singleton, hv,
      Option.getD_some, hexFixed, hdiv, hmod, ih fun d hd => h d (List.mem_append_left _ hd),
      hdigit]

theorem hexNumber_toDigits (n : Nat) : hexNumber (Nat.toDigits 16 n) = n := by
  have digit : ∀ d < 16, hexDigitValue? (Nat.digitChar d) = some d := by decide
  induction n using Nat.strong_induction_on with
  | h n ih =>
    rw [Nat.toDigits_eq_if (by decide)]
    split
    · next hn => simp [hexNumber, digit n hn]
    · next hn =>
      rw [hexNumber_append_singleton, digit _ (Nat.mod_lt _ (by decide)), Option.getD_some,
        ih (n / 16) (Nat.div_lt_self (by omega) (by decide)), Nat.mod_add_div]

/-- Leading zeros do not count. -/
theorem hexNumber_replicate_append (count : Nat) (ds : List Char) :
    hexNumber (List.replicate count '0' ++ ds) = hexNumber ds := by
  have hzero : (hexDigitValue? '0').getD 0 = 0 := rfl
  rw [hexNumber, List.reverse_append, List.reverse_replicate, List.map_append, List.map_replicate,
    hzero, Nat.ofDigits_append_replicate_zero, hexNumber]

/-- What is in a numeral that is filled up with zeros: the upper-case digits of numbers
    below sixteen. -/
theorem exists_of_mem_hexPadded {width n : Nat} {c : Char} (h : c ∈ hexPadded width n) :
    ∃ d < 16, c = (Nat.digitChar d).toUpper := by
  rcases List.mem_append.1 h with h | h
  · exact ⟨0, by decide, List.eq_of_mem_replicate h⟩
  · obtain ⟨c, hc, rfl⟩ := List.mem_map.1 h
    obtain ⟨d, hd, rfl⟩ := exists_digitChar_of_mem_toDigits (by decide) hc
    exact ⟨d, hd, rfl⟩

/-- A numeral that is filled up with zeros is read back in lower case. -/
theorem hexNumber_map_toLower_hexPadded (width n : Nat) :
    hexNumber ((hexPadded width n).map Char.toLower) = n := by
  have lower : ∀ d < 16, (Nat.digitChar d).toUpper.toLower = Nat.digitChar d := by decide
  have hlower : ((Nat.toDigits 16 n).map Char.toUpper).map Char.toLower = Nat.toDigits 16 n := by
    rw [List.map_map]
    refine (List.map_congr_left fun c hc => ?_).trans (List.map_id _)
    obtain ⟨d, hd, rfl⟩ := exists_digitChar_of_mem_toDigits (by decide) hc
    exact lower d hd
  have hzero : Char.toLower '0' = '0' := rfl
  rw [hexPadded, List.map_append, List.map_replicate, hlower, hzero, hexNumber_replicate_append,
    hexNumber_toDigits]

theorem hexPadded_injective (width : Nat) : Function.Injective (hexPadded width) := by
  intro first second h
  rw [← hexNumber_map_toLower_hexPadded width first, h, hexNumber_map_toLower_hexPadded]

theorem hexValue?_eq {ds : List Char} (h : ∀ d ∈ ds, IsHex d) :
    hexValue? ds = some (hexNumber ds) := by
  induction ds using List.reverseRecOn with
  | nil => rfl
  | append_singleton ds d ih =>
    obtain ⟨v, hv⟩ := Option.isSome_iff_exists.1 (h d (by simp))
    rw [hexValue?_append_singleton, ih fun d hd => h d (List.mem_append_left _ hd),
      hexNumber_append_singleton, hv, Option.bind_some, Option.map_some, Option.getD_some,
      Nat.add_comm]

end KeyMacro.Numeral
