import Mathlib
import KeyMacro.Text.LetterCase

/-!
# Texts in small letters

Letters of ASCII that differ in their case only have the same small letters, and make no
difference to the small letters of what stands around them (`lower_map_toLower`). Behind
a text, the small letters of another one are put behind those of the first, however
these may change (`exists_lower_append`).

Two characters outside ASCII have a small letter in ASCII: the Kelvin sign and the
capital I with a dot. So a word of ASCII without `k` and `i` is made of the small letters
of those texts only that are the word in some letter case (`lowerAfter_eq_iff`).
-/

namespace KeyMacro.Text

variable {c : Char}

/-! ## Characters -/

theorem ascii_or (c : Char) : (∃ n < 128, c = Char.ofNat n) ∨ 128 ≤ c.toNat := by
  rcases Nat.lt_or_ge c.toNat 128 with h | h
  · exact .inl ⟨c.toNat, h, (Char.ofNat_toNat c).symm⟩
  · exact .inr h

theorem toLower_eq_self (h : 128 ≤ c.toNat) : c.toLower = c := by
  refine Char.toLower_eq_of_not_isUpper fun hupper => ?_
  simp only [Char.isUpper, decide_eq_true_eq, ge_iff_le, UInt32.le_iff_toNat_le] at hupper
  have hv : c.val.toNat = c.toNat := rfl
  have hz : 'Z'.val.toNat = 90 := rfl
  omega

/-- The letters of ASCII have a case, and are not passed over. -/
theorem inRanges_of_letter {n : Nat} (h : (0x41 ≤ n ∧ n ≤ 0x5A) ∨ (0x61 ≤ n ∧ n ≤ 0x7A)) :
    inRanges passedOver n = false ∧ inRanges casedLetters n = true := by
  have ranges : ∀ range ∈ passedOver, range.2 < 0x41 ∨
      (0x5A < range.1 ∧ range.2 < 0x61) ∨ 0x7A < range.1 := by
    decide +kernel
  refine ⟨inRanges_eq_false fun range hrange => ?_, ?_⟩
  · have := ranges range hrange
    omega
  · rcases h with hupper | hlower
    · exact inRanges_of_mem (show (0x41, 0x5A) ∈ casedLetters from List.mem_cons_self) hupper
    · exact inRanges_of_mem
        (show (0x61, 0x7A) ∈ casedLetters from List.mem_cons_of_mem _ List.mem_cons_self) hlower

/-- A character stays in ASCII, or outside of it, when its letter case is changed there,
    and is then passed over, or taken for a letter, as it was before. -/
theorem alike_toLower (c : Char) : (c.toLower.toNat < 0x80 ↔ c.toNat < 0x80) ∧
    inRanges passedOver c.toLower.toNat = inRanges passedOver c.toNat ∧
    inRanges casedLetters c.toLower.toNat = inRanges casedLetters c.toNat := by
  by_cases hupper : c.isUpper = true
  · have hn : 0x41 ≤ c.toNat ∧ c.toNat ≤ 0x5A := by
      simpa [Char.isUpper, UInt32.le_iff_toNat_le] using hupper
    have hlower : c.toLower.toNat = c.toNat + 0x20 := by
      have hvalid : (c.toNat + 0x20).isValidChar := by
        simp only [Nat.isValidChar]
        omega
      rw [Char.toLower_eq_of_isUpper hupper, Char.toNat_ofNat, if_pos hvalid]
    obtain ⟨hpassed, hcased⟩ := inRanges_of_letter (.inl hn)
    obtain ⟨hpassed', hcased'⟩ := @inRanges_of_letter (c.toNat + 0x20) (.inr (by omega))
    rw [hlower, hpassed, hcased, hpassed', hcased']
    exact ⟨by omega, rfl, rfl⟩
  · rw [Char.toLower_eq_of_not_isUpper hupper]
    exact ⟨.rfl, rfl, rfl⟩

/-- The Kelvin sign is the only capital in the table with a small letter in ASCII. -/
theorem small_of_mem_capitals : ∀ row ∈ capitals, row.small = 'k'.toNat ∧ row.first = row.last ∨
    0x80 ≤ row.small ∧ (row.small + (row.last - row.first) < 0xD800 ∨
      0xDFFF < row.small ∧ row.small + (row.last - row.first) < 0x110000) := by
  decide +kernel

theorem smallLetter_eq_or (h : 0x80 ≤ c.toNat) :
    smallLetter c = 'k' ∨ 0x80 ≤ (smallLetter c).toNat := by
  rw [smallLetter]
  cases hfind : capitals.find? (·.contains c.toNat) with
  | none => exact .inr h
  | some row =>
    have hin := List.find?_some hfind
    simp only [CapitalRun.contains, Bool.and_eq_true, decide_eq_true_eq] at hin
    dsimp only
    rcases small_of_mem_capitals row (List.mem_of_find?_eq_some hfind) with
      ⟨hsmall, hone⟩ | ⟨hsmall, hvalid⟩
    · have hzero : c.toNat - row.first = 0 := by omega
      rw [hsmall, hzero]
      exact .inl rfl
    · have hvalid : (row.small + (c.toNat - row.first)).isValidChar := by
        simp only [Nat.isValidChar]
        omega
      rw [Char.toNat_ofNat, if_pos hvalid]
      exact .inr (by omega)

/-! ## Letters of ASCII in either case -/

theorem startsWithLetter_map_toLower (cs : List Char) :
    startsWithLetter (cs.map Char.toLower) = startsWithLetter cs := by
  have hpassed : (fun c : Char => inRanges passedOver c.toNat) ∘ Char.toLower =
      fun c => inRanges passedOver c.toNat := funext fun c => (alike_toLower c).2.1
  rw [startsWithLetter, startsWithLetter, List.dropWhile_map, hpassed]
  cases cs.dropWhile fun c => inRanges passedOver c.toNat with
  | nil => rfl
  | cons c rest => exact (alike_toLower c).2.2

theorem lowerChar_map_toLower (before : List Char) (c : Char) (after : List Char) :
    lowerChar (before.map Char.toLower) c.toLower (after.map Char.toLower) =
      lowerChar before c after := by
  by_cases h : c.toNat < 0x80
  · rw [lowerChar, lowerChar, if_pos h, if_pos ((alike_toLower c).1.2 h),
      Char.toLower_toLower_eq_toLower]
  · rw [toLower_eq_self (Nat.le_of_not_lt h)]
    rw [lowerChar, lowerChar, endsWord, endsWord, startsWithLetter_map_toLower,
      startsWithLetter_map_toLower]

theorem lowerAfter_map_toLower (before cs : List Char) :
    lowerAfter (before.map Char.toLower) (cs.map Char.toLower) = lowerAfter before cs := by
  induction cs generalizing before with
  | nil => rfl
  | cons c cs ih =>
    rw [List.map_cons, lowerAfter, lowerAfter, lowerChar_map_toLower, ← ih, List.map_cons]

/-- The letter case of the letters of ASCII makes no difference to the small letters of
    a text. -/
theorem lower_map_toLower (cs : List Char) : lower (cs.map Char.toLower) = lower cs :=
  lowerAfter_map_toLower [] cs

theorem lower_congr {cs ds : List Char} (h : cs.map Char.toLower = ds.map Char.toLower) :
    lower cs = lower ds := by
  rw [← lower_map_toLower cs, h, lower_map_toLower]

/-! ## A text behind another one -/

/-- How many characters the small letters of a text take. -/
def lowerLength (cs : List Char) : Nat := (cs.map fun c => if c = 'İ' then 2 else 1).sum

theorem length_lowerChar (before : List Char) (c : Char) (after : List Char) :
    (lowerChar before c after).length = if c = 'İ' then 2 else 1 := by
  by_cases hdot : c = 'İ'
  · subst hdot
    rfl
  · rw [if_neg hdot, lowerChar, if_neg hdot]
    split_ifs <;> rfl

theorem exists_lowerAfter_append (before cs ds : List Char) :
    ∃ front, lowerAfter before (cs ++ ds) = front ++ lowerAfter (cs.reverse ++ before) ds ∧
      front.length = lowerLength cs := by
  induction cs generalizing before with
  | nil => exact ⟨[], rfl, rfl⟩
  | cons c cs ih =>
    obtain ⟨front, hfront, hlength⟩ := ih (c :: before)
    refine ⟨lowerChar before c (cs ++ ds) ++ front, ?_, ?_⟩
    · rw [List.cons_append, lowerAfter, hfront, List.append_assoc, List.reverse_cons,
        List.append_assoc, List.singleton_append]
    · rw [List.length_append, length_lowerChar, hlength, lowerLength, lowerLength, List.map_cons,
        List.sum_cons]

/-- The small letters of a text behind another one stand behind a number of characters
    that the other one tells. -/
theorem exists_lower_append (cs ds : List Char) :
    ∃ front, lower (cs ++ ds) = front ++ lowerAfter cs.reverse ds ∧
      front.length = lowerLength cs := by
  obtain ⟨front, h⟩ := exists_lowerAfter_append [] cs ds
  rw [List.append_nil] at h
  exact ⟨front, h⟩

/-- What two texts have in common at the beginning may be left out when their small
    letters are compared. -/
theorem lowerAfter_eq_of_lower_append {cs ds es : List Char}
    (h : lower (cs ++ ds) = lower (cs ++ es)) :
    lowerAfter cs.reverse ds = lowerAfter cs.reverse es := by
  obtain ⟨front, hd, hlength⟩ := exists_lower_append cs ds
  obtain ⟨front', he, hlength'⟩ := exists_lower_append cs es
  rw [hd, he] at h
  exact (List.append_inj h (hlength.trans hlength'.symm)).2

/-! ## Words of ASCII -/

/-- Whether a character of ASCII is the small letter of no character outside. -/
def IsOwnLetter (c : Char) : Prop := c.toNat < 0x80 ∧ c ≠ 'i' ∧ c ≠ 'k'

instance (c : Char) : Decidable (IsOwnLetter c) := inferInstanceAs (Decidable (_ ∧ _))

theorem lowerChar_append_eq_cons_iff {before after cs word : List Char} {d : Char}
    (h : IsOwnLetter d) :
    lowerChar before c after ++ cs = d :: word ↔ c.toLower = d ∧ cs = word := by
  obtain ⟨hascii, hi, hk⟩ := h
  unfold lowerChar
  split
  · rw [List.singleton_append, List.cons.injEq]
  · next hc =>
    have hc := Nat.le_of_not_lt hc
    -- Neither side holds: the small letters are not in ASCII, or are `k` or `i`.
    refine iff_of_false (fun he => ?_) fun he => ?_
    · split at he
      · obtain ⟨rfl, -⟩ := List.cons.inj he
        revert hascii
        split <;> decide
      · split at he
        · exact hi (List.cons.inj he).1.symm
        · obtain ⟨rfl, -⟩ := List.cons.inj he
          rcases smallLetter_eq_or hc with hs | hs
          · exact hk hs
          · omega
    · rw [toLower_eq_self hc] at he
      obtain ⟨rfl, -⟩ := he
      omega

/-- A word of ASCII without `k` and `i` is the small letters of a text that is the word
    in some letter case, and of no other one. -/
theorem lowerAfter_eq_iff {word : List Char} (h : ∀ d ∈ word, IsOwnLetter d)
    (before cs : List Char) : lowerAfter before cs = word ↔ cs.map Char.toLower = word := by
  induction cs generalizing before word with
  | nil => rfl
  | cons c cs ih =>
    cases word with
    | nil =>
      refine iff_of_false (fun he => ?_) (by simp)
      have hlength := length_lowerChar before c cs
      rw [lowerAfter, List.append_eq_nil_iff] at he
      rw [he.1] at hlength
      revert hlength
      split <;> simp
    | cons d word =>
      rw [lowerAfter, lowerChar_append_eq_cons_iff (h d List.mem_cons_self),
        ih fun e he => h e (List.mem_cons_of_mem _ he), List.map_cons, List.cons.injEq]

end KeyMacro.Text
