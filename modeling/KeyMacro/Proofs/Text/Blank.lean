import KeyMacro.Text.Blank

/-!
# Blanks around texts

Where blanks are skipped, what is left begins with no blank (`not_isBlank_of_skipBlanks`).
So a text that has no blanks is left as it is (`strip_eq_self`), and what follows
the first field of a text begins with a field if there is a second one
(`afterFirst_eq_cons`). A text that is split once has the same first field, and
something behind it under the same condition (`splitOnce_eq`). Further blanks around a
text make no difference once it is stripped (`strip_append`).
-/

namespace KeyMacro.Text

theorem not_isBlank_of_skipBlanks {cs rest : List Char} {c : Char}
    (h : skipBlanks cs = c :: rest) : isBlank c = false := by
  have := List.head?_dropWhile_not isBlank cs
  rw [skipBlanks] at h
  simp_all

theorem skipBlanks_eq_self {cs : List Char} (h : ∀ c ∈ cs, isBlank c = false) :
    skipBlanks cs = cs := by
  cases cs with
  | nil => rfl
  | cons c cs => simp [skipBlanks, h c List.mem_cons_self]

theorem strip_eq_self {cs : List Char} (h : ∀ c ∈ cs, isBlank c = false) : strip cs = cs := by
  rw [strip, skipBlanks_eq_self h, skipBlanks_eq_self fun c hc => h c (List.mem_reverse.1 hc),
    List.reverse_reverse]

theorem skipBlanks_append {front : List Char} (h : ∀ c ∈ front, isBlank c = true)
    (cs : List Char) : skipBlanks (front ++ cs) = skipBlanks cs :=
  List.dropWhile_append_of_pos h

/-- Blanks around a text make no difference once it is stripped. -/
theorem strip_append {front cs back : List Char} (h : ∀ c ∈ front ++ back, isBlank c = true) :
    strip (front ++ cs ++ back) = strip cs := by
  have hfront : ∀ c ∈ front, isBlank c = true := fun c hc => h c (List.mem_append_left _ hc)
  have hback : ∀ c ∈ back.reverse, isBlank c = true := fun c hc =>
    h c (List.mem_append_right _ (List.mem_reverse.1 hc))
  have hcut : skipBlanks (cs ++ back) =
      if (skipBlanks cs).isEmpty then skipBlanks back else skipBlanks cs ++ back :=
    List.dropWhile_append
  rw [strip, strip, List.append_assoc, skipBlanks_append hfront, hcut]
  cases skipBlanks cs with
  | nil =>
    have hnone := skipBlanks_append (fun c hc => h c (List.mem_append_right _ hc)) []
    rw [List.append_nil] at hnone
    rw [hnone]
    rfl
  | cons c rest =>
    rw [List.isEmpty_cons, if_neg Bool.false_ne_true, List.reverse_append,
      skipBlanks_append hback]

theorem strip_map {f : Char → Char} (h : ∀ c, isBlank (f c) = isBlank c) (cs : List Char) :
    strip (cs.map f) = (strip cs).map f := by
  have hskip (cs : List Char) : skipBlanks (cs.map f) = (skipBlanks cs).map f := by
    have hblank : isBlank ∘ f = isBlank := funext h
    rw [skipBlanks, List.dropWhile_map, hblank, skipBlanks]
  rw [strip, hskip, ← List.map_reverse, hskip, ← List.map_reverse, strip]

/-- Behind the first field and the blanks after it is no blank, if there is a
    second field. -/
theorem afterFirst_eq_cons {cs field : List Char} {more : List (List Char)} {first : List Char}
    (h : fields cs = first :: field :: more) :
    ∃ c rest, afterFirst cs = c :: rest ∧ isBlank c = false := by
  rw [fields_eq] at h
  split at h
  · cases h
  next c rest hs =>
    -- The second field is the first one of what is left behind the first.
    have hf := (List.cons.inj h).2
    have hc : isInk c = true := by rw [isInk, not_isBlank_of_skipBlanks hs]; rfl
    have hafter : afterFirst cs = skipBlanks (rest.dropWhile isInk) := by
      rw [afterFirst, hs, List.dropWhile_cons_of_pos hc]
    rw [fields_eq] at hf
    split at hf
    · cases hf
    next d tail hd => exact ⟨d, tail, hafter.trans hd, not_isBlank_of_skipBlanks hd⟩

/-- If the first field of a text is the only one, nothing follows it but blanks. -/
theorem afterFirst_eq_nil {cs first : List Char} (h : fields cs = [first]) :
    afterFirst cs = [] := by
  rw [fields_eq] at h
  split at h
  · cases h
  next c rest hs =>
    have hf := (List.cons.inj h).2
    have hc : isInk c = true := by rw [isInk, not_isBlank_of_skipBlanks hs]; rfl
    rw [afterFirst, hs, List.dropWhile_cons_of_pos hc]
    rw [fields_eq] at hf
    split at hf
    · assumption
    · cases hf

/-- A text that is split once is split behind its first field, if there is a second one. -/
theorem splitOnce_eq {cs first : List Char} {more : List (List Char)}
    (h : fields cs = first :: more) :
    splitOnce cs = first :: if more = [] then [] else [afterFirst cs] := by
  have hrest : [afterFirst cs].filter (· ≠ []) = if more = [] then [] else [afterFirst cs] := by
    cases more with
    | nil => rw [afterFirst_eq_nil h]; rfl
    | cons field more =>
      obtain ⟨c, rest, hafter, -⟩ := afterFirst_eq_cons h
      rw [hafter]
      rfl
  rw [fields_eq] at h
  rw [splitOnce, hrest]
  split at h
  · cases h
  next c rest hs =>
    obtain ⟨rfl, -⟩ := List.cons.inj h
    rfl

end KeyMacro.Text
