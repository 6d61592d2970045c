import KeyMacro.Xml.Name
import KeyMacro.Xml.Reference

/-!
# Tags

An element begins with a tag that gives its name and its attributes, and ends
with a tag that gives its name once more. An empty element may be all in one
tag.

The value of an attribute may refer to entities, so that what it is depends on
what the document declares. A tag is read with its values as they are written
(`WrittenValue`).
-/

namespace KeyMacro.Xml

/-! ### Attributes -/

/-- The value of an attribute as it is written: characters, each given by itself
    or by a reference, and references to entities. -/
abbrev WrittenValue := List Reference

/-- The value that is written by what stands between the quotes. White space
    becomes spaces, unless it is given by references. -/
def writtenValue? (raw : List Char) : Option WrittenValue :=
  match raw with
  | [] => some []
  | '<' :: _ => none
  | '&' :: rest =>
    match _h : reference? rest with
    | none => none
    | some (r, after) => (writtenValue? after).map (r :: ·)
  | c :: rest => (writtenValue? rest).map (.char (if isSpace c then ' ' else c) :: ·)
termination_by raw.length
decreasing_by
  · exact Nat.lt_succ_of_le (reference?_suffix _h).length_le
  · exact Nat.lt_succ_self _

/-- Reads the name, the equals sign and the value of an attribute. -/
def attribute? (cs : List Char) : Option ((QName × WrittenValue) × List Char) :=
  match QName.read? cs with
  | none => none
  | some (name, afterName) =>
    match expect? ['='] (skipSpace afterName) with
    | none => none
    | some afterSign =>
      match quoted? (skipSpace afterSign) with
      | none => none
      | some (raw, rest) => (writtenValue? raw).map fun value => ((name, value), rest)

theorem attribute?_suffix {cs rest : List Char} {a : QName × WrittenValue}
    (h : attribute? cs = some (a, rest)) : rest <:+ cs := by
  rw [attribute?] at h
  split at h
  · simp at h
  · next hn =>
    split at h
    · simp at h
    · next he =>
      split at h
      · simp at h
      · next hq =>
        obtain ⟨_, _, hv⟩ := Option.map_eq_some_iff.1 h
        simp only [Prod.mk.injEq] at hv
        exact hv.2 ▸ ((quoted?_suffix hq).trans (skipSpace_suffix _)).trans
          (((expect?_suffix he).trans (skipSpace_suffix _)).trans (QName.read?_suffix hn))

/-- Reads the end of a tag, and tells whether the tag is that of an empty
    element. -/
def tagEnd? : List Char → Option (Bool × List Char)
  | '>' :: rest => some (false, rest)
  | '/' :: '>' :: rest => some (true, rest)
  | _ => none

theorem tagEnd?_suffix {cs rest : List Char} {empty : Bool} (h : tagEnd? cs = some (empty, rest)) :
    rest <:+ cs := by
  unfold tagEnd? at h
  split at h <;> simp only [Option.some.injEq, Prod.mk.injEq, reduceCtorEq] at h
  · exact h.2 ▸ List.suffix_cons _ _
  · exact h.2 ▸ (List.suffix_cons _ _).trans (List.suffix_cons _ _)

/-- Reads the attributes of a tag and its end. White space stands before every
    attribute, and may stand before the end. -/
def attributes? (cs : List Char) : Option (List (QName × WrittenValue) × Bool × List Char) :=
  match tagEnd? (skipSpace cs) with
  | some ending => some ([], ending)
  | none =>
    match _hs : space? cs with
    | none => none
    | some start =>
      match _ha : attribute? start with
      | none => none
      | some (a, rest) => (attributes? rest).map fun read => (a :: read.1, read.2)
termination_by cs.length
decreasing_by exact Nat.lt_of_le_of_lt (attribute?_suffix _ha).length_le (length_space?_lt _hs)

theorem attributes?_eq (cs : List Char) : attributes? cs =
    match tagEnd? (skipSpace cs) with
    | some ending => some ([], ending)
    | none =>
      (space? cs).bind fun start => (attribute? start).bind fun read =>
        (attributes? read.2).map fun more => (read.1 :: more.1, more.2) := by
  rw [attributes?]
  cases tagEnd? (skipSpace cs) with
  | some ending => rfl
  | none =>
    dsimp only
    split
    · simp_all
    · split <;> simp_all

theorem attributes?_suffix {cs rest : List Char} {attributes : List (QName × WrittenValue)}
    {empty : Bool} (h : attributes? cs = some (attributes, empty, rest)) : rest <:+ cs := by
  fun_induction attributes? cs generalizing attributes with
  | case1 cs ending he =>
    simp only [Option.some.injEq, Prod.mk.injEq] at h
    exact (tagEnd?_suffix (he.trans (by rw [h.2]))).trans (skipSpace_suffix cs)
  | case2 | case3 => simp at h
  | case4 cs he start hs a rest' ha ih =>
    obtain ⟨read, hr, hp⟩ := Option.map_eq_some_iff.1 h
    simp only [Prod.mk.injEq] at hp
    exact ((ih (hr.trans (by rw [← hp.2]))).trans (attribute?_suffix ha)).trans (space?_suffix hs)

/-! ### Tags -/

/-- The tag that opens an element, with values of some kind. -/
structure OpeningTag (Value : Type) where
  name : QName
  attributes : List (QName × Value)
  /-- Whether the tag is all of an empty element. -/
  empty : Bool
  deriving DecidableEq, Repr

/-- Reads a tag that opens an element, behind its angle bracket. -/
def openingTag? (cs : List Char) : Option (OpeningTag WrittenValue × List Char) :=
  match QName.read? cs with
  | none => none
  | some (name, afterName) =>
    (attributes? afterName).map fun (attributes, empty, rest) =>
      ({ name, attributes, empty }, rest)

/-- Reads a tag that closes an element, behind its slash. -/
def closingTag? (cs : List Char) : Option (QName × List Char) :=
  match QName.read? cs with
  | none => none
  | some (name, afterName) =>
    (expect? ['>'] (skipSpace afterName)).map fun rest => (name, rest)

theorem openingTag?_suffix {cs rest : List Char} {tag : OpeningTag WrittenValue}
    (h : openingTag? cs = some (tag, rest)) : rest <:+ cs := by
  rw [openingTag?] at h
  split at h
  · simp at h
  · next hn =>
    obtain ⟨⟨attributes, empty, rest'⟩, ha, he⟩ := Option.map_eq_some_iff.1 h
    simp only [Prod.mk.injEq] at he
    exact he.2 ▸ (attributes?_suffix ha).trans (QName.read?_suffix hn)

theorem closingTag?_suffix {cs rest : List Char} {name : QName}
    (h : closingTag? cs = some (name, rest)) : rest <:+ cs := by
  rw [closingTag?] at h
  split at h
  · simp at h
  · next hn =>
    obtain ⟨_, hr, he⟩ := Option.map_eq_some_iff.1 h
    simp only [Prod.mk.injEq] at he
    exact he.2 ▸ ((expect?_suffix hr).trans (skipSpace_suffix _)).trans (QName.read?_suffix hn)

end KeyMacro.Xml
