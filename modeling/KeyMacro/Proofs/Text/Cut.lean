import Mathlib.Data.List.Forall2
import KeyMacro.Proofs.Text.Line

/-!
# Texts cut into lines

A text in memory and the text of a file are cut in different ways, but only the line
boundaries that are special to Unicode make a difference. In a *plain* text (`IsPlain`)
there are none of these, and its lines are the same either way (`lines_eq_fileLines`).

The lines of a text may also be taken together with their ends (`keptLines`). If the
text is plain, these ends are newlines and carriage returns (`isEnded_keptLines`), and
all of them are taken off again when the line is handed over (`map_chomp_of_isEnded`).

However a text is cut, there are neither newlines nor carriage returns in its lines
(`isOneLine_of_mem_lines`, `isOneLine_of_mem_fileLines`).
-/

namespace KeyMacro.Text

/-! ## Plain texts -/

/-- The line boundaries at which no file is cut. -/
def specialBoundaries : List Char :=
  ['\x0B', '\x0C', '\x1C', '\x1D', '\x1E', '\u0085', '\u2028', '\u2029']

/-- Whether newlines and carriage returns, alone or together, are the only ends of
    lines in a text. -/
def IsPlain (cs : List Char) : Prop := ∀ c ∈ cs, c ∉ specialBoundaries

instance (cs : List Char) : Decidable (IsPlain cs) :=
  List.decidableBAll (· ∉ specialBoundaries) cs

theorem isBoundary_iff {c : Char} : isBoundary c = true ↔ c = '\n' ∨ c ∈ specialBoundaries := by
  simp only [isBoundary, specialBoundaries, Bool.or_eq_true, Bool.and_eq_true, decide_eq_true_eq,
    beq_iff_eq, List.mem_cons, List.not_mem_nil, or_false, ← Char.toNat_inj]
  simp only [Char.reduceToNat]
  omega

/-- In a plain text, nothing but a newline is a boundary. -/
theorem isBoundary_eq {c : Char} (h : c ∉ specialBoundaries) : isBoundary c = (c == '\n') := by
  rw [Bool.eq_iff_iff, isBoundary_iff, beq_iff_eq, or_iff_left h]

theorem mem_of_mem_unifyNewlines {c : Char} {cs : List Char} (h : c ∈ unifyNewlines cs) :
    c = '\n' ∨ c ∈ cs := by
  fun_induction unifyNewlines cs with
  | case1 cs ih =>
    rcases List.mem_cons.1 h with rfl | h
    · exact .inl rfl
    · exact (ih h).imp_right fun hc => List.mem_cons_of_mem _ (List.mem_cons_of_mem _ hc)
  | case2 d cs _ ih =>
    rcases List.mem_cons.1 h with rfl | h
    · split
      · exact .inl rfl
      · exact .inr List.mem_cons_self
    · exact (ih h).imp_right (List.mem_cons_of_mem _)
  | case3 => cases h

theorem IsPlain.unifyNewlines {cs : List Char} (h : IsPlain cs) : IsPlain (unifyNewlines cs) := by
  intro c hc
  rcases mem_of_mem_unifyNewlines hc with rfl | hc
  · decide
  · exact h c hc

theorem cutAt_congr {p q : Char → Bool} {cs : List Char} (h : ∀ c ∈ cs, p c = q c) :
    cutAt p cs = cutAt q cs := by
  induction cs with
  | nil => rfl
  | cons c cs ih =>
    rw [List.forall_mem_cons] at h
    rw [cutAt, cutAt, h.1, ih h.2]

/-- A plain text has the same lines in memory and in a file. -/
theorem lines_eq_fileLines {cs : List Char} (h : IsPlain cs) : lines cs = fileLines cs :=
  cutAt_congr fun c hc => isBoundary_eq (h.unifyNewlines c hc)

/-! ## Lines with their ends -/

/-- The lines of a text held in memory, each with its end. -/
def keptLines : List Char → List (List Char)
  | '\r' :: '\n' :: cs => ['\r', '\n'] :: keptLines cs
  | c :: cs =>
    if c = '\r' ∨ isBoundary c = true then [c] :: keptLines cs else extendFirst c (keptLines cs)
  | [] => []

/-- Whether a line is another one with newlines and carriage returns behind it. -/
def IsEnded (line ended : List Char) : Prop :=
  ∃ run, (∀ c ∈ run, isLineEnd c = true) ∧ ended = line ++ run

theorem isEnded_refl (line : List Char) : IsEnded line line :=
  ⟨[], fun _ hc => absurd hc List.not_mem_nil, (List.append_nil line).symm⟩

theorem forall₂_extendFirst (c : Char) {ls es : List (List Char)} (h : ls.Forall₂ IsEnded es) :
    (extendFirst c ls).Forall₂ IsEnded (extendFirst c es) := by
  cases h with
  | nil => exact .cons (isEnded_refl [c]) .nil
  | cons hline hrest =>
    obtain ⟨run, hrun, rfl⟩ := hline
    exact .cons ⟨run, hrun, rfl⟩ hrest

/-- The lines of a text, one character further on. The character ends a line unless it
    is a carriage return in front of a newline. -/
theorem lines_cons {c : Char} {cs : List Char} (h : ∀ tail, c = '\r' → cs ≠ '\n' :: tail) :
    lines (c :: cs) =
      if c = '\r' ∨ isBoundary c = true then [] :: lines cs else extendFirst c (lines cs) := by
  rw [lines, unifyNewlines, cutAt]
  · by_cases hc : c = '\r'
    · simp [hc, lines, show isBoundary '\n' = true by decide]
    · simp [hc, lines]
  · intro tail hc hcs
    exact h tail hc hcs

/-- In a plain text, what stands behind a line are newlines and carriage returns. -/
theorem isEnded_keptLines {cs : List Char} (h : IsPlain cs) :
    (lines cs).Forall₂ IsEnded (keptLines cs) := by
  fun_induction keptLines cs with
  | case1 cs ih =>
    have hcs : IsPlain cs := fun c hc => h c (List.mem_cons_of_mem _ (List.mem_cons_of_mem _ hc))
    exact .cons ⟨['\r', '\n'], List.all_eq_true.1 rfl, rfl⟩ (ih hcs)
  | case2 c cs hnext hc ih =>
    obtain ⟨hplain, hcs⟩ := List.forall_mem_cons.1 h
    rw [lines_cons hnext, if_pos hc]
    refine .cons ⟨[c], ?_, rfl⟩ (ih hcs)
    -- The character ends a line, and in a plain text it is one of the two.
    rw [isBoundary_iff, or_iff_left hplain] at hc
    rcases hc with rfl | rfl <;> exact List.all_eq_true.1 rfl
  | case3 c cs hnext hc ih =>
    rw [lines_cons hnext, if_neg hc]
    exact forall₂_extendFirst c (ih (List.forall_mem_cons.1 h).2)
  | case4 => exact .nil

theorem mem_of_mem_chomp {c : Char} {line : List Char} (h : c ∈ chomp line) : c ∈ line :=
  List.mem_reverse.1 ((List.dropWhile_suffix isLineEnd).mem (List.mem_reverse.1 h))

/-- What stands behind a line when it is handed over is taken off again. -/
theorem chomp_append {run : List Char} (h : ∀ c ∈ run, isLineEnd c = true) (line : List Char) :
    chomp (line ++ run) = chomp line := by
  rw [chomp, List.reverse_append, List.dropWhile_append_of_pos, ← chomp]
  intro c hc
  exact h c (List.mem_reverse.1 hc)

theorem map_chomp_of_isEnded {ls es : List (List Char)} (h : ls.Forall₂ IsEnded es) :
    es.map chomp = ls.map chomp := by
  induction h with
  | nil => rfl
  | cons hline _ ih =>
    obtain ⟨run, hrun, rfl⟩ := hline
    rw [List.map_cons, List.map_cons, chomp_append hrun, ih]

/-! ## Characters of lines -/

/-- Whether there is neither a newline nor a carriage return in a text. -/
def IsOneLine (cs : List Char) : Prop := ∀ c ∈ cs, isLineEnd c = false

instance (cs : List Char) : Decidable (IsOneLine cs) :=
  List.decidableBAll (isLineEnd · = false) cs

theorem isOneLine_iff {cs : List Char} : IsOneLine cs ↔ '\r' ∉ cs ∧ '\n' ∉ cs := by
  simp only [IsOneLine, isLineEnd, Bool.or_eq_false_iff, beq_eq_false_iff_ne]
  constructor
  · intro h
    exact ⟨fun hmem => (h _ hmem).1 rfl, fun hmem => (h _ hmem).2 rfl⟩
  · rintro ⟨hreturn, hnewline⟩ c hc
    exact ⟨fun heq => hreturn (heq ▸ hc), fun heq => hnewline (heq ▸ hc)⟩

theorem forall_mem_extendFirst {q : Char → Prop} {c : Char} {ls : List (List Char)} (hc : q c)
    (h : ∀ line ∈ ls, ∀ d ∈ line, q d) : ∀ line ∈ extendFirst c ls, ∀ d ∈ line, q d := by
  cases ls with
  | nil => simpa [extendFirst] using hc
  | cons first more =>
    rw [List.forall_mem_cons] at h
    exact List.forall_mem_cons.2 ⟨List.forall_mem_cons.2 ⟨hc, h.1⟩, h.2⟩

/-- The lines of a text have no other characters than the text, and none that ends a line. -/
theorem of_mem_cutAt {p : Char → Bool} {cs : List Char} :
    ∀ line ∈ cutAt p cs, ∀ c ∈ line, c ∈ cs ∧ p c = false := by
  induction cs with
  | nil => exact List.forall_mem_nil _
  | cons c cs ih =>
    have hrest : ∀ line ∈ cutAt p cs, ∀ d ∈ line, d ∈ c :: cs ∧ p d = false :=
      fun line hline d hd => (ih line hline d hd).imp_left (List.mem_cons_of_mem c)
    rw [cutAt]
    split
    · exact List.forall_mem_cons.2 ⟨List.forall_mem_nil _, hrest⟩
    · next hc => exact forall_mem_extendFirst ⟨List.mem_cons_self, Bool.eq_false_iff.2 hc⟩ hrest

theorem return_notMem_unifyNewlines (cs : List Char) : '\r' ∉ unifyNewlines cs := by
  fun_induction unifyNewlines cs with
  | case1 cs ih => exact List.not_mem_cons_of_ne_of_not_mem (by decide) ih
  | case2 c cs _ ih =>
    refine List.not_mem_cons_of_ne_of_not_mem ?_ ih
    split
    · decide
    · next hc => exact Ne.symm hc
  | case3 => exact List.not_mem_nil

theorem isOneLine_of_mem_cutAt {p : Char → Bool} (hp : p '\n' = true) {cs line : List Char}
    (h : line ∈ cutAt p (unifyNewlines cs)) : IsOneLine line := by
  rw [isOneLine_iff]
  constructor
  · intro hreturn
    exact return_notMem_unifyNewlines cs (of_mem_cutAt _ h _ hreturn).1
  · intro hnewline
    exact absurd hp (Bool.eq_false_iff.1 (of_mem_cutAt _ h _ hnewline).2)

theorem isOneLine_of_mem_lines {cs line : List Char} (h : line ∈ lines cs) : IsOneLine line :=
  isOneLine_of_mem_cutAt (by decide) h

theorem isOneLine_of_mem_fileLines {cs line : List Char} (h : line ∈ fileLines cs) :
    IsOneLine line :=
  isOneLine_of_mem_cutAt (by decide) h

end KeyMacro.Text
