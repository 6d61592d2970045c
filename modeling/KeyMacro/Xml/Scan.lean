import KeyMacro.Xml.Character

/-!
# Scanning

What the readers of declarations, names and markup have in common: each takes a
text and returns what it has read together with the rest. The rest is always a
suffix of the text, which is why reading ends.
-/

namespace KeyMacro.Xml

/-- The text without its leading white space. -/
def skipSpace (cs : List Char) : List Char := cs.dropWhile isSpace

/-- Skips white space, of which there must be some. -/
def space? : List Char → Option (List Char)
  | [] => none
  | c :: cs => if isSpace c then some (skipSpace cs) else none

/-- What follows a text that must come first. -/
def expect? : (expected : List Char) → List Char → Option (List Char)
  | [], cs => some cs
  | e :: es, c :: cs => if e = c then expect? es cs else none
  | _ :: _, [] => none

/-- What comes before a text that must occur, and what comes after it. -/
def splitAt? (stop : List Char) : List Char → Option (List Char × List Char)
  | [] => if stop = [] then some ([], []) else none
  | c :: cs =>
    match expect? stop (c :: cs) with
    | some rest => some ([], rest)
    | none => (splitAt? stop cs).map fun split => (c :: split.1, split.2)

/-- The text between two equal quotes, either single or double, and the rest. -/
def quoted? : List Char → Option (List Char × List Char)
  | quote :: cs =>
    if quote = '\'' ∨ quote = '"' then
      (expect? [quote] (cs.dropWhile (· ≠ quote))).map fun rest => (cs.takeWhile (· ≠ quote), rest)
    else none
  | [] => none

theorem skipSpace_suffix (cs : List Char) : skipSpace cs <:+ cs := List.dropWhile_suffix _

theorem length_space?_lt {cs rest : List Char} (h : space? cs = some rest) :
    rest.length < cs.length := by
  cases cs with
  | nil => simp [space?] at h
  | cons c cs =>
    simp only [space?, Option.ite_none_right_eq_some, Option.some.injEq] at h
    rw [← h.2, List.length_cons]
    exact Nat.lt_succ_of_le (skipSpace_suffix cs).length_le

theorem space?_suffix {cs rest : List Char} (h : space? cs = some rest) : rest <:+ cs := by
  cases cs with
  | nil => simp [space?] at h
  | cons c cs =>
    simp only [space?, Option.ite_none_right_eq_some, Option.some.injEq] at h
    exact h.2 ▸ (skipSpace_suffix cs).trans (List.suffix_cons c cs)

theorem expect?_suffix {es cs rest : List Char} (h : expect? es cs = some rest) : rest <:+ cs := by
  induction es generalizing cs with
  | nil =>
    simp only [expect?, Option.some.injEq] at h
    exact h ▸ List.suffix_refl _
  | cons e es ih =>
    cases cs with
    | nil => simp [expect?] at h
    | cons c cs =>
      simp only [expect?, Option.ite_none_right_eq_some] at h
      exact (ih h.2).trans (List.suffix_cons c cs)

theorem splitAt?_suffix {stop cs before rest : List Char}
    (h : splitAt? stop cs = some (before, rest)) : rest <:+ cs := by
  induction cs generalizing before with
  | nil =>
    simp only [splitAt?, Option.ite_none_right_eq_some, Option.some.injEq, Prod.mk.injEq] at h
    exact h.2.2 ▸ List.suffix_refl _
  | cons c cs ih =>
    rw [splitAt?] at h
    split at h
    · next hr =>
      simp only [Option.some.injEq, Prod.mk.injEq] at h
      exact h.2 ▸ expect?_suffix hr
    · obtain ⟨split, hs, he⟩ := Option.map_eq_some_iff.1 h
      simp only [Prod.mk.injEq] at he
      exact (ih (hs.trans (by rw [← he.2]))).trans (List.suffix_cons c cs)

theorem quoted?_suffix_tail {c : Char} {cs text rest : List Char}
    (h : quoted? (c :: cs) = some (text, rest)) : rest <:+ cs := by
  simp only [quoted?, Option.ite_none_right_eq_some, Option.map_eq_some_iff, Prod.mk.injEq] at h
  obtain ⟨_, _, hr, _, rfl⟩ := h
  exact (expect?_suffix hr).trans (List.dropWhile_suffix _)

theorem quoted?_suffix {cs text rest : List Char} (h : quoted? cs = some (text, rest)) :
    rest <:+ cs := by
  cases cs with
  | nil => simp [quoted?] at h
  | cons c cs => exact (quoted?_suffix_tail h).trans (List.suffix_cons c cs)

end KeyMacro.Xml
