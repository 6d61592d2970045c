import Mathlib.Data.List.TakeWhile
import KeyMacro.Proofs.Text.Blank
import KeyMacro.Text.Line

/-!
# Fields written and read

A *field* has at least one character, and no blank (`IsField`). What a text is cut
into are fields (`isField_of_mem_fields`). In the other direction, fields that are
written with spaces between them are read again (`fields_joined`).

The newlines at the end of a line are blanks. So it makes no difference to the
fields of a line whether they have been taken off (`fields_chomp`).
-/

namespace KeyMacro.Text

/-- Whether a text is a single field, with nothing around it. -/
def IsField (cs : List Char) : Prop := cs ≠ [] ∧ ∀ c ∈ cs, isBlank c = false

theorem isField_iff {cs : List Char} : IsField cs ↔ cs ≠ [] ∧ cs.all (!isBlank ·) := by
  simp [IsField]

-- All characters of the text are tried, and not all characters that there are.
instance (cs : List Char) : Decidable (IsField cs) := decidable_of_iff _ isField_iff.symm

/-- Fields in a row, with a space between each two of them. -/
def joined (fs : List (List Char)) : List Char := [' '].intercalate fs

/-! ## Cutting off the first field -/

theorem fields_nil : fields [] = [] := by
  rw [fields_eq]
  rfl

/-- A blank in front makes no difference. -/
theorem fields_cons_blank {c : Char} (h : isBlank c = true) (cs : List Char) :
    fields (c :: cs) = fields cs := by
  rw [fields_eq (c :: cs), fields_eq cs, skipBlanks, List.dropWhile_cons_of_pos h, ← skipBlanks]

theorem isInk_of_mem {f : List Char} (h : IsField f) : ∀ c ∈ f, isInk c = true := by
  intro c hc
  rw [isInk, h.2 c hc]
  rfl

/-- A field ends where a blank or nothing follows. -/
theorem fields_append {f rest : List Char} (h : IsField f)
    (hrest : ∀ c ∈ rest.head?, isBlank c = true) : fields (f ++ rest) = f :: fields rest := by
  have hink := isInk_of_mem h
  obtain ⟨hne, hblank⟩ := h
  obtain ⟨c, cs, rfl⟩ := List.exists_cons_of_ne_nil hne
  rw [List.forall_mem_cons] at hink hblank
  have hskip : skipBlanks (c :: cs ++ rest) = c :: (cs ++ rest) := by
    rw [skipBlanks, List.cons_append, List.dropWhile_cons_of_neg (by simp [hblank.1])]
  -- What follows begins with no ink.
  have hstop : rest.takeWhile isInk = [] ∧ rest.dropWhile isInk = rest := by
    cases rest with
    | nil => exact ⟨rfl, rfl⟩
    | cons d rest =>
      have hd : ¬ isInk d = true := by simp [isInk, hrest d rfl]
      exact ⟨List.takeWhile_cons_of_neg hd, List.dropWhile_cons_of_neg hd⟩
  rw [fields_eq, hskip]
  simp only [List.takeWhile_append_of_pos hink.2, List.dropWhile_append_of_pos hink.2, hstop.1,
    hstop.2, List.append_nil]

/-! ## Cutting a text -/

theorem isField_of_mem_fields {cs f : List Char} (h : f ∈ fields cs) : IsField f := by
  fun_induction fields cs with
  | case1 cs hskip => cases h
  | case2 cs c rest hskip ih =>
    rcases List.mem_cons.1 h with rfl | h
    · refine ⟨List.cons_ne_nil _ _, ?_⟩
      rw [List.forall_mem_cons]
      refine ⟨not_isBlank_of_skipBlanks hskip, fun d hd => ?_⟩
      have hink := List.all_eq_true.1 (List.all_takeWhile (p := isInk)) d hd
      simpa [isInk] using hink
    · exact ih h

/-- Fields with spaces between them are cut at the spaces. -/
theorem fields_joined {fs : List (List Char)} (h : ∀ f ∈ fs, IsField f) :
    fields (joined fs) = fs := by
  induction fs with
  | nil => exact fields_nil
  | cons f fs ih =>
    rw [List.forall_mem_cons] at h
    cases fs with
    | nil =>
      have hf : fields (f ++ []) = f :: fields [] := fields_append h.1 (by simp)
      rw [List.append_nil, fields_nil] at hf
      rw [joined, List.intercalate_singleton, hf]
    | cons g gs =>
      have hcs : joined (f :: g :: gs) = f ++ ' ' :: joined (g :: gs) := by
        rw [joined, List.intercalate_cons_cons, List.append_assoc]
        rfl
      rw [hcs, fields_append h.1 (by rintro c ⟨⟩; decide), fields_cons_blank (by decide), ih h.2]

/-! ## Ends of lines -/

theorem fields_eq_nil {cs : List Char} (h : ∀ c ∈ cs, isBlank c = true) : fields cs = [] := by
  have hskip : skipBlanks cs = [] := List.dropWhile_eq_nil_iff.2 h
  rw [fields_eq, hskip]

/-- Blanks behind a text make no difference. -/
theorem fields_append_blanks (cs : List Char) {blanks : List Char}
    (h : ∀ c ∈ blanks, isBlank c = true) : fields (cs ++ blanks) = fields cs := by
  fun_induction fields cs with
  | case1 cs hskip =>
    have hcs : ∀ c ∈ cs, isBlank c = true := List.dropWhile_eq_nil_iff.1 hskip
    refine fields_eq_nil fun c hc => ?_
    rcases List.mem_append.1 hc with hc | hc
    · exact hcs c hc
    · exact h c hc
  | case2 cs c rest hskip ih =>
    have hskip' : skipBlanks (cs ++ blanks) = c :: (rest ++ blanks) := by
      rw [skipBlanks] at hskip ⊢
      simp [List.dropWhile_append, hskip]
    -- The first field ends where it ended, at the latest where the blanks begin.
    have hstop : blanks.takeWhile isInk = [] ∧ blanks.dropWhile isInk = blanks := by
      cases blanks with
      | nil => exact ⟨rfl, rfl⟩
      | cons d blanks => simp [isInk, h d List.mem_cons_self]
    have htake : (rest ++ blanks).takeWhile isInk = rest.takeWhile isInk := by
      rw [List.takeWhile_append, hstop.1, List.append_nil]
      split
      · next hlength => exact ((List.takeWhile_prefix _).eq_of_length hlength).symm
      · rfl
    have hdrop : (rest ++ blanks).dropWhile isInk = rest.dropWhile isInk ++ blanks := by
      rw [List.dropWhile_append, hstop.2]
      split
      · next hempty => rw [List.isEmpty_iff.1 hempty, List.nil_append]
      · rfl
    rw [fields_eq, hskip']
    simp only [htake, hdrop, ih]

theorem isBlank_of_isLineEnd {c : Char} (h : isLineEnd c = true) : isBlank c = true := by
  rw [isLineEnd, Bool.or_eq_true, beq_iff_eq, beq_iff_eq] at h
  rcases h with rfl | rfl <;> decide

/-- The newlines at the end of a line belong to no field. -/
theorem fields_chomp (line : List Char) : fields (chomp line) = fields line := by
  have hends : ∀ c ∈ (line.reverse.takeWhile isLineEnd).reverse, isBlank c = true := by
    intro c hc
    have hall := List.all_takeWhile (p := isLineEnd) (l := line.reverse)
    exact isBlank_of_isLineEnd (List.all_eq_true.1 hall c (List.mem_reverse.1 hc))
  have hline : chomp line ++ (line.reverse.takeWhile isLineEnd).reverse = line := by
    rw [chomp, ← List.reverse_append, List.takeWhile_append_dropWhile, List.reverse_reverse]
  have hfields := fields_append_blanks (chomp line) hends
  rw [hline] at hfields
  exact hfields.symm

end KeyMacro.Text
