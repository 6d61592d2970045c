import KeyMacro.Xml.Name

/-!
# Comments and processing instructions

Between tags there may be comments and instructions to other programs. Neither
is part of the content.
-/

namespace KeyMacro.Xml

/-- Reads a comment, behind its first two hyphens. Two hyphens end it. -/
def comment? (cs : List Char) : Option (List Char) :=
  match splitAt? ['-', '-'] cs with
  | none => none
  | some (_, rest) => expect? ['>'] rest

/-- Whether a name is reserved: XML in any letter case. -/
def isReserved (name : List Char) : Bool := name.map Char.toLower == ['x', 'm', 'l']

/-- Reads a processing instruction, behind its question mark. -/
def instruction? (cs : List Char) : Option (List Char) :=
  match name? cs with
  | none => none
  | some (target, rest) =>
    if isReserved target then none
    else
      match rest with
      | '?' :: '>' :: after => some after
      | c :: after => if isSpace c then (splitAt? ['?', '>'] after).map (·.2) else none
      | [] => none

theorem comment?_suffix {cs rest : List Char} (h : comment? cs = some rest) : rest <:+ cs := by
  rw [comment?] at h
  split at h
  · simp at h
  · next hs => exact (expect?_suffix h).trans (splitAt?_suffix hs)

theorem instruction?_suffix {cs rest : List Char} (h : instruction? cs = some rest) :
    rest <:+ cs := by
  rw [instruction?] at h
  split at h
  · simp at h
  · next hn =>
    refine List.IsSuffix.trans ?_ (name?_suffix hn)
    split at h
    · simp at h
    · split at h
      · simp only [Option.some.injEq] at h
        exact h ▸ (List.suffix_cons _ _).trans (List.suffix_cons _ _)
      · simp only [Option.ite_none_right_eq_some] at h
        obtain ⟨_, hs, he⟩ := Option.map_eq_some_iff.1 h.2
        exact (splitAt?_suffix (hs.trans (by rw [← he]))).trans (List.suffix_cons _ _)
      · simp at h

end KeyMacro.Xml
