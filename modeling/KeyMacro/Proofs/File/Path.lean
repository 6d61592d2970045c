import KeyMacro.File.Path

/-!
# Paths as texts

A path that is read from a text keeps no name that leads nowhere, and is *plain*
(`Path.IsPlain`); it stays so when it is given another suffix. The text of a plain
path with a name is read as this path again (`Path.ofText_text`).
-/

namespace KeyMacro.Path

/-! ## Plain paths -/

/-- Whether a name leads somewhere and is a single one. -/
def IsPlainName (name : List Char) : Prop := name ≠ [] ∧ name ≠ ['.'] ∧ '/' ∉ name

/-- Whether a path is one that may be read from a text. -/
structure IsPlain (path : Path) : Prop where
  slashes : keptSlashes path.slashes = path.slashes
  names : ∀ name ∈ path.names, IsPlainName name

theorem slash_notMem_splitOnP {cs name : List Char} (h : name ∈ cs.splitOnP (· == '/')) :
    '/' ∉ name := by
  induction cs generalizing name with
  | nil =>
    rw [List.splitOnP_nil, List.mem_singleton] at h
    rw [h]
    exact List.not_mem_nil
  | cons c cs ih =>
    rw [List.splitOnP_cons_eq_if_modifyHead] at h
    by_cases hc : c = '/'
    · rw [if_pos (beq_iff_eq.2 hc), List.mem_cons] at h
      rcases h with rfl | h
      · exact List.not_mem_nil
      · exact ih h
    · rw [if_neg (by simpa using hc)] at h
      -- The character is put in front of the first name.
      obtain ⟨first, more, hs⟩ := List.exists_cons_of_ne_nil (List.splitOnP_ne_nil (· == '/') cs)
      rw [hs, List.modifyHead_cons, List.mem_cons] at h
      rcases h with rfl | h
      · rw [List.mem_cons, not_or]
        exact ⟨Ne.symm hc, ih (hs ▸ List.mem_cons_self)⟩
      · exact ih (hs ▸ List.mem_cons_of_mem _ h)

theorem keptSlashes_keptSlashes (n : Nat) : keptSlashes (keptSlashes n) = keptSlashes n := by
  unfold keptSlashes
  by_cases h0 : n = 0
  · simp [h0]
  by_cases h2 : n = 2
  · simp [h2]
  · simp [h0, h2]

theorem isPlain_ofText (cs : List Char) : (ofText cs).IsPlain where
  slashes := keptSlashes_keptSlashes _
  names := by
    intro name h
    obtain ⟨hm, hne⟩ := List.mem_filter.1 h
    rw [decide_eq_true_eq] at hne
    exact ⟨hne.1, hne.2, slash_notMem_splitOnP hm⟩

/-! ## Texts -/

theorem splitOnP_replicate_append (n : Nat) (cs : List Char) :
    (List.replicate n '/' ++ cs).splitOnP (· == '/') =
      List.replicate n [] ++ cs.splitOnP (· == '/') := by
  induction n with
  | zero => rfl
  | succ n ih =>
    rw [List.replicate_succ, List.cons_append, List.splitOnP_cons_eq_if_modifyHead,
      if_pos (beq_self_eq_true _), ih]
    rfl

/-- Names in a row begin with a character that is no slash. -/
theorem intercalate_eq_cons {names : List (List Char)} (h : ∀ name ∈ names, IsPlainName name)
    (hne : names ≠ []) : ∃ c cs, ['/'].intercalate names = c :: cs ∧ c ≠ '/' := by
  obtain ⟨name, more, rfl⟩ := List.exists_cons_of_ne_nil hne
  obtain ⟨hname, -, hslash⟩ := h name List.mem_cons_self
  obtain ⟨c, cs, rfl⟩ := List.exists_cons_of_ne_nil hname
  have hc : c ≠ '/' := fun he => hslash (he ▸ List.mem_cons_self)
  cases more with
  | nil => exact ⟨c, cs, by simp [List.intercalate_singleton], hc⟩
  | cons second more =>
    exact ⟨c, cs ++ (['/'] ++ ['/'].intercalate (second :: more)),
      by rw [List.intercalate_cons_cons]; simp, hc⟩

/-- The text of a plain path with a name is that path. -/
theorem ofText_text {path : Path} (h : path.IsPlain) (hne : path.names ≠ []) :
    ofText path.text = path := by
  obtain ⟨slashes, names⟩ := path
  obtain ⟨c, cs, hcs, hc⟩ := intercalate_eq_cons h.names hne
  have htext : text ⟨slashes, names⟩ = List.replicate slashes '/' ++ c :: cs := by
    rw [text, hcs]
    cases slashes <;> rfl
  have hslashes : ((List.replicate slashes '/' ++ c :: cs).takeWhile (· == '/')).length =
      slashes := by
    rw [List.takeWhile_append_of_pos (by simp), List.takeWhile_cons_of_neg (by simpa using hc)]
    simp
  -- The slashes in front leave empty names, which are dropped again.
  have hnames : (List.replicate slashes '/' ++ c :: cs).splitOnP (· == '/') =
      List.replicate slashes [] ++ names := by
    rw [splitOnP_replicate_append, ← hcs, ← List.splitOn_eq_splitOnP,
      List.splitOn_intercalate _ (fun name hn => (h.names name hn).2.2) hne]
  have hkept : names.filter (fun name => name ≠ [] ∧ name ≠ ['.']) = names := by
    rw [List.filter_eq_self]
    intro name hn
    exact decide_eq_true ⟨(h.names name hn).1, (h.names name hn).2.1⟩
  rw [ofText, htext, hslashes, hnames, List.filter_append, hkept, h.slashes]
  simp

/-- The last name of a path stands at the end of its text, which is a dot where there is
    nothing else. -/
theorem exists_text_eq (slashes : Nat) (dirs : List (List Char)) : ∃ front, ∀ name,
    text ⟨slashes, dirs ++ [name]⟩ = if front ++ name = [] then ['.'] else front ++ name := by
  have hrow : ∃ row, ∀ name, ['/'].intercalate (dirs ++ [name]) = row ++ name := by
    induction dirs with
    | nil => exact ⟨[], fun name => by rw [List.nil_append, List.intercalate_singleton]; rfl⟩
    | cons dir dirs ih =>
      obtain ⟨row, hrow⟩ := ih
      refine ⟨dir ++ (['/'] ++ row), fun name => ?_⟩
      obtain ⟨next, more, hs⟩ := List.exists_cons_of_ne_nil (l := dirs ++ [name]) (by simp)
      rw [List.cons_append, hs, List.intercalate_cons_cons, ← hs, hrow, List.append_assoc,
        List.append_assoc, List.append_assoc]
  obtain ⟨row, hrow⟩ := hrow
  refine ⟨List.replicate slashes '/' ++ row, fun name => ?_⟩
  rw [text, hrow, List.append_assoc]
  split
  · next he => rw [if_pos he]
  · next he => rw [if_neg he]

/-! ## Suffixes -/

/-- A name is made of what it is before its suffix and of its suffix. -/
theorem splitName_fst_append_snd (name : List Char) :
    (splitName name).1 ++ (splitName name).2 = name := by
  have hname : (name.reverse.dropWhile (· ≠ '.')).reverse ++
      (name.reverse.takeWhile (· ≠ '.')).reverse = name := by
    rw [← List.reverse_append, List.takeWhile_append_dropWhile, List.reverse_reverse]
  unfold splitName
  split
  · next dot s tem hd =>
    dsimp only
    split
    · exact List.append_nil name
    · rw [hd] at hname
      simpa using hname
  · exact List.append_nil name

/-- What a name is before its suffix is the beginning of the name, and is not
    empty. -/
theorem splitName_fst {name : List Char} (h : name ≠ []) :
    (splitName name).1 ≠ [] ∧ (splitName name).1 <+: name := by
  unfold splitName
  split
  · next dot s tem hd =>
    dsimp only
    split
    · exact ⟨h, List.prefix_refl name⟩
    · have hsuffix : s :: tem <:+ name.reverse :=
        (List.suffix_cons dot _).trans (hd ▸ List.dropWhile_suffix _)
      refine ⟨by simp, ?_⟩
      simpa using List.reverse_prefix.2 hsuffix
  · exact ⟨h, List.prefix_refl name⟩

/-- A suffix that is put behind a text is the suffix of the name that they make. -/
theorem splitName_append {stem ending : List Char} (hstem : stem ≠ []) (hending : ending ≠ [])
    (hdot : '.' ∉ ending) : splitName (stem ++ '.' :: ending) = (stem, '.' :: ending) := by
  -- The last dot is looked for from the end of the name.
  have hreverse : (stem ++ '.' :: ending).reverse = ending.reverse ++ '.' :: stem.reverse := by
    simp
  have hpos : ∀ c ∈ ending.reverse, decide (c ≠ '.') = true := by
    intro c hc
    exact decide_eq_true fun he => hdot (he ▸ List.mem_reverse.1 hc)
  obtain ⟨s, tem, hs⟩ : ∃ s tem, stem.reverse = s :: tem :=
    List.exists_cons_of_ne_nil (by simpa using hstem)
  have hback : (s :: tem).reverse = stem := by rw [← hs, List.reverse_reverse]
  rw [splitName, hreverse, List.takeWhile_append_of_pos hpos, List.takeWhile_cons_of_neg (by simp),
    List.dropWhile_append_of_pos hpos, List.dropWhile_cons_of_neg (by simp), hs]
  simp [hback, hending]

variable {path output : Path} {ending : List Char}

theorem withSuffix?_eq_some_iff : path.withSuffix? ending = some output ↔
    ∃ name, path.names.getLast? = some name ∧
      output = ⟨path.slashes, path.names.dropLast ++ [(splitName name).1 ++ ending]⟩ := by
  rw [withSuffix?]
  cases path.names.getLast? with
  | none => simp
  | some name => simp [eq_comm]

theorem isPlain_withSuffix? (h : path.IsPlain) (hslash : '/' ∉ ending) (hlong : 1 < ending.length)
    (ho : path.withSuffix? ending = some output) : output.IsPlain := by
  obtain ⟨name, hname, rfl⟩ := withSuffix?_eq_some_iff.1 ho
  refine ⟨h.slashes, ?_⟩
  intro other hm
  rcases List.mem_append.1 hm with hm | hm
  · exact h.names other (List.dropLast_subset _ hm)
  · obtain ⟨hne, -, hs⟩ := h.names name (List.mem_of_getLast? hname)
    obtain ⟨hfst, hstem⟩ := splitName_fst hne
    rw [List.mem_singleton.1 hm]
    refine ⟨by simp [hfst], ?_, ?_⟩
    · intro he
      have := congrArg List.length he
      simp only [List.length_append, List.length_cons, List.length_nil] at this
      omega
    · rw [List.mem_append, not_or]
      exact ⟨fun hc => hs (hstem.subset hc), hslash⟩

/-- A path that is given another suffix is the path of its text. -/
theorem ofText_withSuffix? (h : path.IsPlain) (hslash : '/' ∉ ending) (hlong : 1 < ending.length)
    (ho : path.withSuffix? ending = some output) : ofText output.text = output := by
  refine ofText_text (isPlain_withSuffix? h hslash hlong ho) ?_
  obtain ⟨name, -, rfl⟩ := withSuffix?_eq_some_iff.1 ho
  simp

theorem suffix_withSuffix? (h : path.IsPlain) (hending : ending ≠ []) (hdot : '.' ∉ ending)
    (ho : path.withSuffix? ('.' :: ending) = some output) : output.suffix = '.' :: ending := by
  obtain ⟨name, hname, rfl⟩ := withSuffix?_eq_some_iff.1 ho
  have hfst := (splitName_fst (h.names name (List.mem_of_getLast? hname)).1).1
  rw [suffix, List.getLast?_concat]
  exact congrArg Prod.snd (splitName_append hfst hending hdot)

end KeyMacro.Path
