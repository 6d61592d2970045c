import KeyMacro.Xml.Aside
import KeyMacro.Xml.DoctypePart

/-!
# Document types

Before its first element a document may declare its type, by name, by something
external that is not read, and by an inner part, between brackets. Here they are
only read; what the parts of a type mean for the document is a matter of
`KeyMacro.Xml.Dtd`.

* `doctype?_suffix`: reading a document type leaves less text.
-/

namespace KeyMacro.Xml

/-- The type of a document. -/
structure Doctype where
  /-- Whether some of it is outside the document. -/
  external : Bool
  /-- The parts of it that are in the document. -/
  parts : List DoctypePart
  deriving DecidableEq, Repr

/-! ### The inner part -/

/-- Reads a declaration, behind its exclamation mark: a keyword, white space and
    lexemes. -/
def markupDeclaration? (cs : List Char) : Option (DoctypePart × List Char) :=
  match space? (cs.dropWhile Char.isAlpha) with
  | none => none
  | some start =>
    match lexemes? start with
    | none => none
    | some (ls, rest) =>
      (DoctypePart.declaration? (cs.takeWhile Char.isAlpha) ls).map fun part => (part, rest)

/-- Reads a part of the inner part. -/
def part? : List Char → Option (DoctypePart × List Char)
  | '<' :: '?' :: cs => (instruction? cs).map fun rest => (.idle, rest)
  | '<' :: '!' :: '-' :: '-' :: cs => (comment? cs).map fun rest => (.idle, rest)
  | '<' :: '!' :: cs => markupDeclaration? cs
  | '%' :: cs =>
    match name? cs with
    | some (_, ';' :: rest) => some (.reference, rest)
    | _ => none
  | _ => none

theorem markupDeclaration?_suffix {cs rest : List Char} {part : DoctypePart}
    (h : markupDeclaration? cs = some (part, rest)) : rest <:+ cs := by
  rw [markupDeclaration?] at h
  split at h
  · simp at h
  · next hs =>
    split at h
    · simp at h
    · next hl =>
      obtain ⟨_, _, he⟩ := Option.map_eq_some_iff.1 h
      simp only [Prod.mk.injEq] at he
      exact he.2 ▸ ((lexemes?_suffix hl).trans (space?_suffix hs)).trans (List.dropWhile_suffix _)

theorem part?_suffix_tail {c : Char} {cs rest : List Char} {part : DoctypePart}
    (h : part? (c :: cs) = some (part, rest)) : rest <:+ cs := by
  unfold part? at h
  split at h
  · next hc =>
    obtain ⟨_, hr, he⟩ := Option.map_eq_some_iff.1 h
    simp only [Prod.mk.injEq, List.cons.injEq] at he hc
    exact hc.2 ▸ he.2 ▸ (instruction?_suffix hr).trans (List.suffix_cons _ _)
  · next hc =>
    obtain ⟨_, hr, he⟩ := Option.map_eq_some_iff.1 h
    simp only [Prod.mk.injEq, List.cons.injEq] at he hc
    exact hc.2 ▸ he.2 ▸ (comment?_suffix hr).trans (((List.suffix_cons _ _).trans
      (List.suffix_cons _ _)).trans (List.suffix_cons _ _))
  · next hc =>
    simp only [List.cons.injEq] at hc
    exact hc.2 ▸ (markupDeclaration?_suffix h).trans (List.suffix_cons _ _)
  · next hc =>
    simp only [List.cons.injEq] at hc
    split at h
    · next hn =>
      simp only [Option.some.injEq, Prod.mk.injEq] at h
      exact hc.2 ▸ h.2 ▸ (List.suffix_cons _ _).trans (name?_suffix hn)
    · simp at h
  · simp at h

theorem part?_suffix {cs rest : List Char} {part : DoctypePart}
    (h : part? cs = some (part, rest)) : rest <:+ cs := by
  cases cs with
  | nil => simp [part?] at h
  | cons c cs => exact (part?_suffix_tail h).trans (List.suffix_cons c cs)

theorem length_part?_lt {cs rest : List Char} {part : DoctypePart}
    (h : part? cs = some (part, rest)) : rest.length < cs.length := by
  cases cs with
  | nil => simp [part?] at h
  | cons c cs => exact Nat.lt_succ_of_le (part?_suffix_tail h).length_le

/-- Reads the parts of the inner part, behind its bracket, and the bracket that
    ends it. -/
def parts? (cs : List Char) : Option (List DoctypePart × List Char) :=
  match _hs : skipSpace cs with
  | ']' :: rest => some ([], rest)
  | start =>
    match _hp : part? start with
    | none => none
    | some (part, rest) => (parts? rest).map fun read => (part :: read.1, read.2)
termination_by cs.length
decreasing_by exact Nat.lt_of_lt_of_le (length_part?_lt _hp) (_hs ▸ (skipSpace_suffix cs).length_le)

theorem parts?_suffix {cs rest : List Char} {parts : List DoctypePart}
    (h : parts? cs = some (parts, rest)) : rest <:+ cs := by
  fun_induction parts? cs generalizing parts with
  | case1 cs rest' hs =>
    simp only [Option.some.injEq, Prod.mk.injEq] at h
    exact h.2 ▸ (List.suffix_cons _ _).trans (hs ▸ skipSpace_suffix cs)
  | case2 => simp at h
  | case3 cs _ part rest' hp ih =>
    obtain ⟨read, hr, he⟩ := Option.map_eq_some_iff.1 h
    simp only [Prod.mk.injEq] at he
    exact ((ih (hr.trans (by rw [← he.2]))).trans (part?_suffix hp)).trans (skipSpace_suffix cs)

/-! ### The whole -/

/-- Reads the literal that names an external part of the document, after white
    space. -/
def external? (cs : List Char) : Option (List Char × List Char) := (space? cs).bind quoted?

/-- Reads what identifies an external part of the document. -/
def externalID? (cs : List Char) : Option (List Char) :=
  match expect? "SYSTEM".toList cs with
  | some rest => (external? rest).map (·.2)
  | none =>
    match (expect? "PUBLIC".toList cs).bind external? with
    | none => none
    | some (identifier, rest) =>
      if identifier.all isPublicChar then (external? rest).map (·.2) else none

/-- Reads the name of a document type. -/
def doctypeName? (cs : List Char) : Option (List Char) :=
  match name? cs with
  | none => none
  | some (_, ':' :: rest) =>
    match rest with
    | [] => none
    | c :: _ => if isNameChar c then some (rest.dropWhile isNameChar) else none
  | some (_, rest) => some rest

/-- Reads the part of a document type that identifies something external, and
    tells whether there is one. -/
def externalPart? (cs : List Char) : Option (Bool × List Char) :=
  match space? cs with
  | none => some (false, cs)
  | some start =>
    if (start.head?.map isNameStart).getD false then (externalID? start).map (true, ·)
    else some (false, start)

/-- Reads the inner part of a document type, if there is one. -/
def innerPart? (cs : List Char) : Option (List DoctypePart × List Char) :=
  match skipSpace cs with
  | '[' :: rest => (parts? rest).map fun read => (read.1, skipSpace read.2)
  | rest => some ([], rest)

/-- Reads a document type, behind its keyword. -/
def doctype? (cs : List Char) : Option (Doctype × List Char) :=
  match ((space? cs).bind doctypeName?).bind externalPart? with
  | none => none
  | some (external, afterExternal) =>
    match innerPart? afterExternal with
    | none => none
    | some (parts, rest) => (expect? ['>'] rest).map fun rest => ({ external, parts }, rest)

theorem external?_suffix {cs text rest : List Char} (h : external? cs = some (text, rest)) :
    rest <:+ cs := by
  obtain ⟨_, hs, hq⟩ := Option.bind_eq_some_iff.1 h
  exact (quoted?_suffix hq).trans (space?_suffix hs)

theorem externalID?_suffix {cs rest : List Char} (h : externalID? cs = some rest) :
    rest <:+ cs := by
  rw [externalID?] at h
  split at h
  · next he =>
    obtain ⟨_, hr, hp⟩ := Option.map_eq_some_iff.1 h
    exact (external?_suffix (hr.trans (by rw [← hp]))).trans (expect?_suffix he)
  · split at h
    · simp at h
    · next hb =>
      obtain ⟨_, hp, hx⟩ := Option.bind_eq_some_iff.1 hb
      simp only [Option.ite_none_right_eq_some] at h
      obtain ⟨_, hr, he⟩ := Option.map_eq_some_iff.1 h.2
      exact ((external?_suffix (hr.trans (by rw [← he]))).trans (external?_suffix hx)).trans
        (expect?_suffix hp)

theorem doctypeName?_suffix {cs rest : List Char} (h : doctypeName? cs = some rest) :
    rest <:+ cs := by
  rw [doctypeName?] at h
  split at h
  · simp at h
  · next hn =>
    split at h
    · simp at h
    · simp only [Option.ite_none_right_eq_some, Option.some.injEq] at h
      exact h.2 ▸ ((List.dropWhile_suffix _).trans (List.suffix_cons _ _)).trans (name?_suffix hn)
  · next hn =>
    simp only [Option.some.injEq] at h
    exact h ▸ name?_suffix hn

theorem externalPart?_suffix {cs rest : List Char} {external : Bool}
    (h : externalPart? cs = some (external, rest)) : rest <:+ cs := by
  rw [externalPart?] at h
  split at h
  · simp only [Option.some.injEq, Prod.mk.injEq] at h
    exact h.2 ▸ List.suffix_refl _
  · next hs =>
    refine List.IsSuffix.trans ?_ (space?_suffix hs)
    split at h
    · obtain ⟨_, hx, he⟩ := Option.map_eq_some_iff.1 h
      simp only [Prod.mk.injEq] at he
      exact he.2 ▸ externalID?_suffix hx
    · simp only [Option.some.injEq, Prod.mk.injEq] at h
      exact h.2 ▸ List.suffix_refl _

theorem innerPart?_suffix {cs rest : List Char} {parts : List DoctypePart}
    (h : innerPart? cs = some (parts, rest)) : rest <:+ cs := by
  rw [innerPart?] at h
  refine List.IsSuffix.trans ?_ (skipSpace_suffix cs)
  split at h
  · next hk =>
    obtain ⟨_, hr, he⟩ := Option.map_eq_some_iff.1 h
    simp only [Prod.mk.injEq] at he
    exact hk ▸ he.2 ▸ ((skipSpace_suffix _).trans (parts?_suffix hr)).trans (List.suffix_cons _ _)
  · simp only [Option.some.injEq, Prod.mk.injEq] at h
    exact h.2 ▸ List.suffix_refl _

theorem doctype?_suffix {cs rest : List Char} {type : Doctype}
    (h : doctype? cs = some (type, rest)) : rest <:+ cs := by
  rw [doctype?] at h
  split at h
  · simp at h
  · next hx =>
    split at h
    · simp at h
    · next hi =>
      obtain ⟨_, hr, he⟩ := Option.map_eq_some_iff.1 h
      simp only [Prod.mk.injEq] at he
      simp only [Option.bind_eq_some_iff] at hx
      obtain ⟨_, ⟨_, hs, hn⟩, hx⟩ := hx
      exact he.2 ▸ (((expect?_suffix hr).trans (innerPart?_suffix hi)).trans
        (externalPart?_suffix hx)).trans ((doctypeName?_suffix hn).trans (space?_suffix hs))

end KeyMacro.Xml
