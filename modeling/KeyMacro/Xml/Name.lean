import KeyMacro.Xml.Scan

/-!
# Names

Elements and attributes have names, which a colon may divide into a qualifier
and a base name. The names of processing instructions have no colon.
-/

namespace KeyMacro.Xml

/-- The name of an element or attribute as it is written. -/
structure QName where
  /-- What stands before the colon, if there is one. -/
  qualifier : Option (List Char) := none
  /-- What stands after the colon, or the whole name. -/
  base : List Char
  deriving DecidableEq, Repr

/-- Whether a text is a name without a colon. -/
def isName : List Char → Bool
  | [] => false
  | c :: cs => isNameStart c && cs.all isNameChar

/-- Reads a name without a colon. -/
def name? : List Char → Option (List Char × List Char)
  | [] => none
  | c :: cs =>
    if isNameStart c then some (c :: cs.takeWhile isNameChar, cs.dropWhile isNameChar) else none

/-- Reads a name with at most one colon. -/
def QName.read? (cs : List Char) : Option (QName × List Char) :=
  match name? cs with
  | none => none
  | some (first, ':' :: rest) =>
    (name? rest).map fun second => ({ qualifier := some first, base := second.1 }, second.2)
  | some (first, rest) => some ({ base := first }, rest)

theorem name?_suffix {cs name rest : List Char} (h : name? cs = some (name, rest)) :
    rest <:+ cs := by
  cases cs with
  | nil => simp [name?] at h
  | cons c cs =>
    simp only [name?, Option.ite_none_right_eq_some, Option.some.injEq, Prod.mk.injEq] at h
    exact h.2.2 ▸ (List.dropWhile_suffix _).trans (List.suffix_cons c cs)

theorem QName.read?_suffix {cs rest : List Char} {name : QName}
    (h : QName.read? cs = some (name, rest)) : rest <:+ cs := by
  rw [QName.read?] at h
  split at h
  · simp at h
  · next hf =>
    obtain ⟨second, hs, he⟩ := Option.map_eq_some_iff.1 h
    simp only [Prod.mk.injEq] at he
    exact ((name?_suffix (hs.trans (by rw [← he.2]))).trans (List.suffix_cons _ _)).trans
      (name?_suffix hf)
  · next hf =>
    simp only [Option.some.injEq, Prod.mk.injEq] at h
    exact h.2 ▸ name?_suffix hf

end KeyMacro.Xml
