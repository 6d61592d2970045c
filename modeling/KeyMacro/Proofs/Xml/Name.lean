import Mathlib.Data.List.TakeWhile
import KeyMacro.Xml.Tag

/-!
# Names and tags read back

The characters of names are ones that a document may hold, and none of them is
markup. So a name ends where the next character is markup, and a tag that is made
of a name without a colon is read as this name (`openingTag?_name`,
`closingTag?_name`).
-/

namespace KeyMacro.Xml

/-! ## Characters of names -/

/-- The characters of names lie between the hyphen and the surrogates. -/
theorem toNat_of_isNameChar {c : Char} (h : isNameChar c = true) :
    0x2D ≤ c.toNat ∧ c.toNat ≤ 0xD7A3 := by
  have ranges : ∀ range ∈ letters ++ nameMarks, 0x2D ≤ range.1 ∧ range.2 ≤ 0xD7A3 := by
    decide +kernel
  -- Each class of characters is a part of these tables.
  have within {table : List (Nat × Nat)} (ht : table ⊆ letters ++ nameMarks)
      (hc : Text.inRanges table c.toNat = true) : 0x2D ≤ c.toNat ∧ c.toNat ≤ 0xD7A3 := by
    obtain ⟨range, hm, hr⟩ := List.any_eq_true.1 hc
    have := ranges range (ht hm)
    simp only [Bool.and_eq_true, decide_eq_true_eq] at hr
    omega
  simp only [isNameChar, isNameStart, Bool.or_eq_true, beq_iff_eq] at h
  rcases h with ((((rfl | h) | rfl) | rfl) | h)
  · decide
  · exact within (List.subset_append_left _ _) h
  · decide
  · decide
  · exact within (List.subset_append_right _ _) h

/-- Between the space and the surrogates there are only characters that a document
    may hold. -/
theorem isChar_of_toNat {c : Char} (h : 0x20 ≤ c.toNat ∧ c.toNat ≤ 0xD7FF) :
    isChar c = true := by
  simp only [isChar, Bool.or_eq_true, Bool.and_eq_true, decide_eq_true_eq, beq_iff_eq]
  omega

theorem isChar_of_isNameChar {c : Char} (h : isNameChar c = true) : isChar c = true := by
  have := toNat_of_isNameChar h
  exact isChar_of_toNat (by omega)

theorem isNameChar_of_isNameStart {c : Char} (h : isNameStart c = true) :
    isNameChar c = true := by
  simp [isNameChar, h]

/-! ## Names -/

theorem isNameChar_of_mem {name : List Char} (h : isName name = true) {c : Char}
    (hc : c ∈ name) : isNameChar c = true := by
  cases name with
  | nil => cases hc
  | cons d ds =>
    rw [isName, Bool.and_eq_true, List.all_eq_true] at h
    rcases List.mem_cons.1 hc with rfl | hc
    · exact isNameChar_of_isNameStart h.1
    · exact h.2 c hc

/-- A name ends in front of a character that does not continue it. -/
theorem name?_append {name : List Char} (h : isName name = true) {c : Char}
    (hc : isNameChar c = false) (rest : List Char) :
    name? (name ++ c :: rest) = some (name, c :: rest) := by
  cases name with
  | nil => cases h
  | cons d ds =>
    rw [isName, Bool.and_eq_true, List.all_eq_true] at h
    rw [List.cons_append, name?, if_pos h.1, List.takeWhile_append_of_pos h.2,
      List.dropWhile_append_of_pos h.2, List.takeWhile_cons_of_neg (by simp [hc]),
      List.dropWhile_cons_of_neg (by simp [hc]), List.append_nil]

theorem qname?_append {name : List Char} (h : isName name = true) {c : Char}
    (hc : isNameChar c = false) (hcolon : c ≠ ':') (rest : List Char) :
    QName.read? (name ++ c :: rest) = some ({ base := name }, c :: rest) := by
  rw [QName.read?, name?_append h hc]
  simp [hcolon]

/-! ## Tags -/

theorem isNameChar_angle : isNameChar '>' = false := by decide

theorem openingTag?_name {name : List Char} (h : isName name = true) (rest : List Char) :
    openingTag? (name ++ '>' :: rest) =
      some ({ name := { base := name }, attributes := [], empty := false }, rest) := by
  have hattributes : attributes? ('>' :: rest) = some ([], false, rest) := by
    rw [attributes?_eq]
    rfl
  simp only [openingTag?, qname?_append h isNameChar_angle (by decide), hattributes,
    Option.map_some]

theorem closingTag?_name {name : List Char} (h : isName name = true) (rest : List Char) :
    closingTag? (name ++ '>' :: rest) = some ({ base := name }, rest) := by
  rw [closingTag?, qname?_append h isNameChar_angle (by decide)]
  rfl

end KeyMacro.Xml
