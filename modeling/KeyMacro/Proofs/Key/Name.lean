import KeyMacro.Proofs.Key
import KeyMacro.Proofs.Text.Numeral

/-!
# Codes told by their names

A code is shown by a name of the table or by its number. No two codes are shown in the
same way (`nameOf_injective`): a name of the table belongs to one code, numbers are
numerals of their codes, and as names begin with a capital, none of them is a number.

Scripts know the names, but not the numbers: nothing that they may call a key begins as a
number does. So the name of a code is a token of a key if and only if the code is that of
the key (`resolve?_nameOf_eq_some_iff`), and there is no code that could be taken for
another one (`nameOf_isUnambiguous`).
-/

namespace KeyMacro.Key

variable {code : Int}

/-! ## Numbers -/

/-- The sign of a negative number is in no numeral. -/
theorem minus_notMem_hexPadded (width n : Nat) : '-' ∉ Numeral.hexPadded width n := by
  have digit : ∀ d < 16, (Nat.digitChar d).toUpper ≠ '-' := by decide
  intro h
  obtain ⟨d, hd, hminus⟩ := Numeral.exists_of_mem_hexPadded h
  exact digit d hd hminus.symm

theorem number_of_neg (h : code < 0) :
    number code = "0x-".toList ++ Numeral.hexPadded 1 code.natAbs := by
  rw [number, if_pos h]
  rfl

theorem number_of_nonneg (h : ¬ code < 0) :
    number code = "0x".toList ++ Numeral.hexPadded 2 code.natAbs := by
  rw [number, if_neg h]

theorem number_ne_of_neg {other : Int} (h : code < 0) (hother : ¬ other < 0) :
    number code ≠ number other := by
  rw [number_of_neg h, number_of_nonneg hother]
  intro heq
  have hrest : '-' :: Numeral.hexPadded 1 code.natAbs = Numeral.hexPadded 2 other.natAbs :=
    List.append_cancel_left (show "0x".toList ++ _ = "0x".toList ++ _ from heq)
  exact minus_notMem_hexPadded 2 other.natAbs (hrest ▸ List.mem_cons_self)

theorem number_injective : Function.Injective number := by
  intro code other h
  by_cases hcode : code < 0 <;> by_cases hother : other < 0
  · rw [number_of_neg hcode, number_of_neg hother] at h
    have := Numeral.hexPadded_injective 1 (List.append_cancel_left h)
    omega
  · exact absurd h (number_ne_of_neg hcode hother)
  · exact absurd h.symm (number_ne_of_neg hother hcode)
  · rw [number_of_nonneg hcode, number_of_nonneg hother] at h
    have := Numeral.hexPadded_injective 2 (List.append_cancel_left h)
    omega

/-! ## Names -/

/-- No name of the table is a number. -/
theorem toList_ne_number {entry : String × KeyCode} (h : entry ∈ names) (code : Int) :
    entry.1.toList ≠ number code := by
  intro heq
  have hzero : (number code).head? = some '0' := rfl
  have hcapital := (names_table entry h).2.2.1
  rw [heq, hzero] at hcapital
  exact absurd hcapital (by decide)

/-- Different codes are shown by different names. -/
theorem nameOf_injective : Function.Injective nameOf := by
  intro code other h
  rcases nameOf_cases code with ⟨entry, hentry, rfl, hname⟩ | ⟨-, hname⟩ <;>
    rcases nameOf_cases other with ⟨entry', hentry', rfl, hname'⟩ | ⟨-, hname'⟩ <;>
    rw [hname, hname'] at h
  · -- The name belongs to one of the codes.
    have hlookup := (names_table entry hentry).1
    rw [String.toList_inj.1 h, (names_table entry' hentry').1] at hlookup
    rw [Option.some.inj hlookup]
  · exact absurd h (toList_ne_number hentry other)
  · exact absurd h.symm (toList_ne_number hentry' code)
  · exact number_injective h

/-! ## Names as tokens -/

/-- No further spelling begins with the digit that numbers begin with. -/
theorem spellings_zero : ∀ entry ∈ spellings, entry.1.toList.head? ≠ some '0' := by
  decide +kernel

theorem lookup_number_eq_none {entries : List (String × KeyCode)} {code : Int}
    (h : ∀ entry ∈ entries, entry.1.toList ≠ number code) :
    entries.lookup (String.ofList (number code)) = none := by
  refine List.lookup_eq_none_iff.2 fun entry hentry => bne_iff_ne.2 fun heq => ?_
  exact h entry hentry (by rw [← heq, String.toList_ofList])

/-- Scripts cannot call a key by a number. -/
theorem resolve?_number (code : Int) : resolve? (number code) = none := by
  have hspelling : ∀ entry ∈ spellings, entry.1.toList ≠ number code := by
    intro entry hentry heq
    exact spellings_zero entry hentry (by rw [heq]; rfl)
  have hname : ofName? (String.ofList (number code)) = none := by
    rw [ofName?, lookup_number_eq_none hspelling,
      lookup_number_eq_none fun entry hentry => toList_ne_number hentry code]
    rfl
  -- A number is longer than the tokens that are looked for on the keys.
  exact hname

/-- The name of a code is a token of a key only if the code is that of the key. -/
theorem resolve?_nameOf_eq_some_iff {key : KeyCode} :
    resolve? (nameOf code) = some key ↔ IsNamed key ∧ (key.val : Int) = code := by
  constructor
  · intro h
    have hkey := isNamed_of_resolve? h
    refine ⟨hkey, ?_⟩
    rcases nameOf_cases code with ⟨entry, hentry, rfl, -⟩ | ⟨-, hname⟩
    · by_cases hno : entry.2 = noKey
      · -- The name of code 0 is no token.
        have hnone : resolve? (nameOf (noKey.val : Int)) = none := by decide +kernel
        rw [hno, hnone] at h
        cases h
      · rw [resolve?_nameOf ⟨hno, entry, hentry, rfl⟩] at h
        rw [Option.some.inj h]
    · rw [hname, resolve?_number] at h
      cases h
  · rintro ⟨hkey, rfl⟩
    exact resolve?_nameOf hkey

/-- Names are unambiguous. Different codes have different ones, a code that is in no entry
    of the table has a number, which is no token, and the name of a code that is in one is
    a token of that code, unless the code stands for no key. -/
theorem nameOf_isUnambiguous :
    Function.Injective nameOf ∧
      (∀ code, (∀ entry ∈ names, (entry.2.val : Int) ≠ code) →
        nameOf code = number code ∧ resolve? (nameOf code) = none) ∧
      ∀ entry ∈ names, entry.2 ≠ noKey → resolve? (nameOf entry.2.val) = some entry.2 := by
  refine ⟨nameOf_injective, fun code hcode => ?_, fun entry hentry hkey => ?_⟩
  · rcases nameOf_cases code with ⟨entry, hentry, hval, -⟩ | ⟨-, hname⟩
    · exact absurd hval (hcode entry hentry)
    · exact ⟨hname, hname ▸ resolve?_number code⟩
  · exact resolve?_nameOf_eq_some_iff.2 ⟨⟨hkey, entry, hentry, rfl⟩, rfl⟩

/-- A key with two names is shown by the first of them, and codes that are no bytes by
    numbers, the sign of which tells them apart. -/
theorem nameOf_capsLock :
    resolve? "CapsLock".toList = some 20 ∧ nameOf 20 = "Capital".toList ∧
      resolve? (nameOf 20) = some 20 ∧ nameOf 300 = "0x12C".toList ∧
      nameOf (-300) = "0x-12C".toList ∧ resolve? (nameOf 300) = none ∧
      resolve? (nameOf (-300)) = none ∧ nameOf 300 ≠ nameOf (-300) := by
  obtain ⟨hinjective, hnumber, hkey⟩ := nameOf_isUnambiguous
  have hpositive := hnumber 300 (by decide +kernel)
  have hnegative := hnumber (-300) (by decide +kernel)
  have hcapsLock : ("CapsLock", 20) ∈ names := by decide
  refine ⟨by decide +kernel, by decide +kernel, hkey _ hcapsLock (by decide), ?_, ?_, hpositive.2,
    hnegative.2, hinjective.ne (by decide)⟩
  · rw [hpositive.1]
    decide
  · rw [hnegative.1]
    decide

end KeyMacro.Key
