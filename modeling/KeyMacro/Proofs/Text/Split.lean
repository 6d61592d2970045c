import KeyMacro.Proofs.Text.Field

/-!
# Texts split at their first field

A text with more than one field can be written as four parts: blanks, its first field,
blanks again, and a remainder that begins with something else than a blank
(`Split.IsOf`). There is one way to do so (`Split.IsOf.eq_split`), and none for a text
with fewer fields (`exists_isOf_iff`). The first field and the remainder are what the
text has when it is split once, and the fields of the remainder are the other fields of
the text (`Split.IsOf.splitOnce_eq`, `Split.IsOf.fields_eq`). So it makes no difference
where a text ends that is split once or all over.
-/

namespace KeyMacro.Text

/-- The parts of a text around its first field. -/
structure Split where
  /-- The blanks in front. -/
  front : List Char
  /-- The first field. -/
  word : List Char
  /-- The blanks behind it. -/
  gap : List Char
  /-- What follows. -/
  rest : List Char

/-- Whether these are the parts of a text, and something follows the first field. -/
structure Split.IsOf (parts : Split) (cs : List Char) : Prop where
  text : cs = parts.front ++ parts.word ++ parts.gap ++ parts.rest
  front : ∀ c ∈ parts.front, isBlank c = true
  word : IsField parts.word
  gap_ne_nil : parts.gap ≠ []
  gap : ∀ c ∈ parts.gap, isBlank c = true
  rest : ∃ c more, parts.rest = c :: more ∧ isBlank c = false

/-- The parts that a text is cut into. -/
def split (cs : List Char) : Split where
  front := cs.takeWhile isBlank
  word := (skipBlanks cs).takeWhile isInk
  gap := ((skipBlanks cs).dropWhile isInk).takeWhile isBlank
  rest := afterFirst cs

variable {cs : List Char} {parts : Split}

/-- A text is cut where its characters are of another kind for the first time. -/
theorem cut_append {p : Char → Bool} {front rest : List Char} (hfront : ∀ c ∈ front, p c = true)
    (hrest : ∀ c ∈ rest.head?, p c = false) :
    (front ++ rest).takeWhile p = front ∧ (front ++ rest).dropWhile p = rest := by
  rw [List.takeWhile_append_of_pos hfront, List.dropWhile_append_of_pos hfront]
  cases rest with
  | nil => simp
  | cons c rest =>
    have hc : ¬ p c = true := by simp [hrest c rfl]
    rw [List.takeWhile_cons_of_neg hc, List.dropWhile_cons_of_neg hc, List.append_nil]
    exact ⟨rfl, rfl⟩

/-- Blanks in front of a text make no difference. -/
theorem fields_blanks_append {blanks : List Char} (h : ∀ c ∈ blanks, isBlank c = true)
    (cs : List Char) : fields (blanks ++ cs) = fields cs := by
  induction blanks with
  | nil => rfl
  | cons c blanks ih =>
    rw [List.forall_mem_cons] at h
    rw [List.cons_append, fields_cons_blank h.1, ih h.2]

namespace Split.IsOf

variable (h : parts.IsOf cs)
include h

theorem text_eq : cs = parts.front ++ (parts.word ++ (parts.gap ++ parts.rest)) := by
  simpa only [List.append_assoc] using h.text

theorem head?_rest : ∀ c ∈ parts.rest.head?, isBlank c = false := by
  obtain ⟨d, more, hrest, hd⟩ := h.rest
  rw [hrest]
  rintro c ⟨⟩
  exact hd

theorem head?_gap : ∀ c ∈ (parts.gap ++ parts.rest).head?, isBlank c = true := by
  obtain ⟨d, more, hgap⟩ := List.exists_cons_of_ne_nil h.gap_ne_nil
  have hblank := h.gap
  rw [hgap] at hblank ⊢
  rintro c ⟨⟩
  exact hblank d List.mem_cons_self

theorem head?_word : ∀ c ∈ (parts.word ++ (parts.gap ++ parts.rest)).head?, isBlank c = false := by
  obtain ⟨hne, hink⟩ := h.word
  obtain ⟨d, more, hword⟩ := List.exists_cons_of_ne_nil hne
  rw [hword] at hink ⊢
  rintro c ⟨⟩
  exact hink d List.mem_cons_self

/-- The text behind the blanks in front. -/
theorem cut_front : cs.takeWhile isBlank = parts.front ∧
    skipBlanks cs = parts.word ++ (parts.gap ++ parts.rest) := by
  rw [h.text_eq]
  exact cut_append h.front h.head?_word

/-- The text behind the first field. -/
theorem cut_word : (skipBlanks cs).takeWhile isInk = parts.word ∧
    (skipBlanks cs).dropWhile isInk = parts.gap ++ parts.rest := by
  rw [h.cut_front.2]
  refine cut_append (isInk_of_mem h.word) fun c hc => ?_
  rw [isInk, h.head?_gap c hc]
  rfl

/-- The text behind the blanks after the first field. -/
theorem cut_gap : ((skipBlanks cs).dropWhile isInk).takeWhile isBlank = parts.gap ∧
    afterFirst cs = parts.rest := by
  rw [afterFirst, h.cut_word.2]
  exact cut_append h.gap h.head?_rest

/-- The parts are told by the text. -/
theorem eq_split : parts = split cs := by
  rw [split, h.cut_front.1, h.cut_word.1, h.cut_gap.1, h.cut_gap.2]

/-- The fields of the remainder are the other fields of the text. -/
theorem fields_eq : fields cs = parts.word :: fields parts.rest := by
  rw [h.text_eq, fields_blanks_append h.front, fields_append h.word h.head?_gap,
    fields_blanks_append h.gap]

theorem fields_rest_ne_nil : fields parts.rest ≠ [] := by
  obtain ⟨c, more, hrest, hc⟩ := h.rest
  rw [hrest, Text.fields_eq, skipBlanks, List.dropWhile_cons_of_neg (by simp [hc])]
  simp

/-- Splitting the text once gives its first field and the remainder. -/
theorem splitOnce_eq : splitOnce cs = [parts.word, parts.rest] := by
  rw [Text.splitOnce_eq h.fields_eq, if_neg h.fields_rest_ne_nil, h.cut_gap.2]

end Split.IsOf

/-- A text with more than one field has the parts that it is cut into. -/
theorem isOf_split {first second : List Char} {more : List (List Char)}
    (h : fields cs = first :: second :: more) : (split cs).IsOf cs := by
  obtain ⟨d, rest, hafter, hd⟩ := afterFirst_eq_cons h
  have hword : (skipBlanks cs).takeWhile isInk = first := by
    have hc := h
    rw [fields_eq] at hc
    split at hc
    · cases hc
    next c tail hs =>
      have hink : isInk c = true := by rw [isInk, not_isBlank_of_skipBlanks hs]; rfl
      rw [hs, List.takeWhile_cons_of_pos hink]
      exact (List.cons.inj hc).1
  have hgap : ((skipBlanks cs).dropWhile isInk).takeWhile isBlank ++ afterFirst cs =
      (skipBlanks cs).dropWhile isInk := List.takeWhile_append_dropWhile
  refine ⟨?_, ?_, ?_, ?_, ?_, d, rest, hafter, hd⟩
  · rw [split, List.append_assoc, List.append_assoc, hgap, List.takeWhile_append_dropWhile]
    exact List.takeWhile_append_dropWhile.symm
  · exact fun c hc => List.all_eq_true.1 List.all_takeWhile c hc
  · rw [split, hword]
    exact isField_of_mem_fields (h ▸ List.mem_cons_self)
  · -- Without a gap, what follows would begin with the ink that the first field ends at.
    intro hnone
    have hnone : ((skipBlanks cs).dropWhile isInk).takeWhile isBlank = [] := hnone
    rw [hnone, List.nil_append, hafter] at hgap
    have hstop := List.head?_dropWhile_not isInk (skipBlanks cs)
    rw [← hgap] at hstop
    simp [isInk, hd] at hstop
  · exact fun c hc => List.all_eq_true.1 List.all_takeWhile c hc

/-- The texts that have such parts are those with more than one field. -/
theorem exists_isOf_iff : (∃ parts : Split, parts.IsOf cs) ↔ 1 < (fields cs).length := by
  constructor
  · rintro ⟨parts, h⟩
    have := List.length_pos_iff.2 h.fields_rest_ne_nil
    rw [h.fields_eq, List.length_cons]
    omega
  · intro h
    match hfields : fields cs with
    | [] | [_] => simp [hfields] at h
    | first :: second :: more => exact ⟨_, isOf_split hfields⟩

end KeyMacro.Text
