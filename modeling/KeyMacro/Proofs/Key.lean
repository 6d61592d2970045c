import Mathlib
import KeyMacro.Key
import KeyMacro.Proofs.Text.Field

/-!
# Keys that scripts can name

The keys of the table have *ordinary* codes: none of them is 0, which a payload
takes for padding, nor 255, which it takes for a pause. Whatever a token is
resolved to is such a key (`isNamed_of_resolve?`). In the other direction, the
name by which such a key is shown is a token of it (`resolve?_nameOf`).
-/

namespace KeyMacro.Key

/-- Whether a code is that of a key of the table. -/
def IsNamed (code : KeyCode) : Prop := code ≠ noKey ∧ ∃ entry ∈ names, entry.2 = code

instance (code : KeyCode) : Decidable (IsNamed code) := inferInstanceAs (Decidable (_ ∧ _))

/-- Whether no payload takes a code for padding or for the mark of a pause. -/
def IsOrdinary (code : KeyCode) : Prop := 1 ≤ code.val ∧ code.val ≤ 254

instance (code : KeyCode) : Decidable (IsOrdinary code) := inferInstanceAs (Decidable (_ ∧ _))

theorem isOrdinary_of_isNamed {code : KeyCode} (h : IsNamed code) : IsOrdinary code := by
  have table : ∀ entry ∈ names, entry.2.val ≤ 254 := by decide +kernel
  obtain ⟨hne, entry, hm, rfl⟩ := h
  refine ⟨?_, table entry hm⟩
  exact Nat.pos_of_ne_zero fun h0 => hne (Fin.ext h0)

/-! ## Tokens -/

theorem toNat_lt_of_isAlpha_or_isDigit {c : Char} (h : c.isAlpha ∨ c.isDigit) :
    c.toNat < 128 := by
  simp only [Char.isAlpha, Char.isUpper, Char.isLower, Char.isDigit, Bool.or_eq_true,
    Bool.and_eq_true, decide_eq_true_eq, ge_iff_le, UInt32.le_iff_toNat_le] at h
  have hv : c.val.toNat = c.toNat := rfl
  have hz : 'z'.val.toNat = 122 := rfl
  have hZ : 'Z'.val.toNat = 90 := rfl
  have h9 : '9'.val.toNat = 57 := rfl
  omega

/-- The codes of the keys that bear digits and letters. -/
def charCodes : List Nat := List.range' 48 10 ++ List.range' 65 26

/-- A letter or digit stands on a key of the table. -/
theorem isNamed_of_ofChar? {c : Char} {code : KeyCode} (h : ofChar? c = some code) :
    IsNamed code := by
  have upper : ∀ n < 128, (Char.ofNat n).isAlpha ∨ (Char.ofNat n).isDigit →
      (Char.ofNat n).toUpper.toNat ∈ charCodes := by decide +kernel
  have named : ∀ n ∈ charCodes, IsNamed (Fin.ofNat 256 n) := by decide +kernel
  simp only [ofChar?, Option.ite_none_right_eq_some, Option.some.injEq] at h
  obtain ⟨hc, rfl⟩ := h
  have := upper c.toNat (toNat_lt_of_isAlpha_or_isDigit hc)
  rw [Char.ofNat_toNat] at this
  exact named _ (this hc)

theorem mem_of_lookup_eq_some {entries : List (String × KeyCode)} {name : String}
    {code : KeyCode} (h : entries.lookup name = some code) : (name, code) ∈ entries := by
  obtain ⟨front, back, rfl, -⟩ := List.lookup_eq_some_iff.1 h
  simp

theorem isNamed_of_ofName? {name : String} {code : KeyCode} (h : ofName? name = some code) :
    IsNamed code := by
  have spelled : ∀ entry ∈ spellings, IsNamed entry.2 := by decide +kernel
  rw [ofName?] at h
  split at h
  · next hs =>
    obtain rfl := Option.some.inj h
    exact spelled _ (mem_of_lookup_eq_some hs)
  · obtain ⟨hn, hne⟩ := Option.filter_eq_some_iff.1 h
    exact ⟨of_decide_eq_true hne, _, mem_of_lookup_eq_some hn, rfl⟩

/-- Whatever a token is resolved to is a key of the table. -/
theorem isNamed_of_resolve? {token : List Char} {code : KeyCode} (h : resolve? token = some code) :
    IsNamed code := by
  unfold resolve? at h
  split at h
  · rcases Option.or_eq_some_iff.1 h with hc | ⟨-, hn⟩
    · exact isNamed_of_ofChar? hc
    · exact isNamed_of_ofName? hn
  · exact isNamed_of_ofName? h

/-! ## Names -/

/-- What the names of the table are like: they are single fields, each of them
    belongs to one entry, they begin with a capital, and one that is a single
    letter stands on its key. -/
theorem names_table : ∀ entry ∈ names, names.lookup entry.1 = some entry.2 ∧
    Text.IsField entry.1.toList ∧ entry.1.toList.head?.any Char.isUpper ∧
    (entry.1.toList.length = 1 → entry.1.toList.head?.bind ofChar? = some entry.2) := by
  decide +kernel

/-- No further spelling begins with a capital. -/
theorem spellings_table : ∀ entry ∈ spellings, ¬ entry.1.toList.head?.any Char.isUpper := by
  decide +kernel

/-- A code is shown by a name of the table that belongs to it, if there is one, and else
    by its number. -/
theorem nameOf_cases (code : Int) :
    (∃ entry ∈ names, (entry.2.val : Int) = code ∧ nameOf code = entry.1.toList) ∨
      (∀ entry ∈ names, (entry.2.val : Int) ≠ code) ∧ nameOf code = number code := by
  cases hfind : names.find? fun entry => (entry.2.val : Int) = code with
  | none =>
    have hnone : ∀ entry ∈ names, (entry.2.val : Int) ≠ code := by
      simpa using List.find?_eq_none.1 hfind
    exact .inr ⟨hnone, by rw [nameOf, hfind]⟩
  | some entry =>
    have hcode : (entry.2.val : Int) = code := by simpa using List.find?_some hfind
    exact .inl ⟨entry, List.mem_of_find?_eq_some hfind, hcode, by rw [nameOf, hfind]⟩

/-- A key of the table is shown by one of its names. -/
theorem nameOf_eq {code : KeyCode} (h : IsNamed code) :
    ∃ name, (name, code) ∈ names ∧ nameOf code.val = name.toList := by
  obtain ⟨-, entry, hm, hcode⟩ := h
  rcases nameOf_cases code.val with ⟨other, hother, hval, hname⟩ | ⟨hnone, -⟩
  · obtain rfl : other.2 = code := Fin.ext (Int.ofNat.inj hval)
    exact ⟨other.1, hother, hname⟩
  · exact absurd (by rw [hcode]) (hnone entry hm)

theorem ofName?_of_mem {name : String} {code : KeyCode} (h : (name, code) ∈ names)
    (hne : code ≠ noKey) : ofName? name = some code := by
  obtain ⟨hlookup, -, hcapital, -⟩ := names_table _ h
  have hspelling : spellings.lookup name = none := by
    refine List.lookup_eq_none_iff.2 fun entry hm => bne_iff_ne.2 ?_
    rintro rfl
    exact spellings_table entry hm hcapital
  rw [ofName?, hspelling]
  simp only [hlookup]
  simp [hne]

/-- The name by which a key is shown is a token of it. -/
theorem resolve?_nameOf {code : KeyCode} (h : IsNamed code) :
    resolve? (nameOf code.val) = some code := by
  obtain ⟨name, hm, hname⟩ := nameOf_eq h
  have hof : ofName? (String.ofList name.toList) = some code := by
    rw [String.ofList_toList, ofName?_of_mem hm h.1]
  rw [hname]
  unfold resolve?
  split
  · next c hc =>
    -- A single character is looked for on the keys first.
    have hchar : ofChar? c = some code := by
      have hsingle := (names_table _ hm).2.2.2
      simp only [hc, List.length_singleton, List.head?_cons, Option.bind_some,
        forall_const] at hsingle
      exact hsingle
    rw [hchar]
    rfl
  · exact hof

theorem isField_nameOf {code : KeyCode} (h : IsNamed code) : Text.IsField (nameOf code.val) := by
  obtain ⟨name, hm, hname⟩ := nameOf_eq h
  rw [hname]
  exact (names_table _ hm).2.1

end KeyMacro.Key
