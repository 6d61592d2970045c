import KeyMacro.Xml.Doctype
import KeyMacro.Xml.Tag

/-!
# Tokens

Behind its declaration a document is a row of *tokens*: tags, references,
comments and the like, and single characters. Each token is read on its own
(`markup?`, `reference?`); how tokens go together is a matter of
`KeyMacro.Xml.Element`.

* `markup?_suffix`, `reference?_suffix`: reading a token leaves less text, so
  that the tokens of a text (`tokens?`) come to an end.
-/

namespace KeyMacro.Xml

/-- A token of a document. -/
inductive Token where
  /-- The tag that opens an element. -/
  | opening (tag : OpeningTag WrittenValue)
  /-- The tag that closes an element. -/
  | closing (name : QName)
  /-- A character that stands for itself. -/
  | char (c : Char)
  /-- A reference. -/
  | reference (r : Reference)
  /-- Characters among which there is no markup. -/
  | verbatim (cs : List Char)
  /-- A comment or a processing instruction. -/
  | aside
  /-- The type of the document. -/
  | doctype (type : Doctype)
  deriving DecidableEq, Repr

/-- Reads a comment, a row of verbatim characters or a document type, behind its
    exclamation mark. -/
def exclamation? (cs : List Char) : Option (Token × List Char) :=
  match expect? "--".toList cs with
  | some body => (comment? body).map fun rest => (.aside, rest)
  | none =>
    match expect? "[CDATA[".toList cs with
    | some body => (splitAt? "]]>".toList body).map fun split => (.verbatim split.1, split.2)
    | none =>
      match expect? "DOCTYPE".toList cs with
      | some body => (doctype? body).map fun read => (.doctype read.1, read.2)
      | none => none

/-- Reads markup, behind its angle bracket. -/
def markup? : List Char → Option (Token × List Char)
  | '/' :: cs => (closingTag? cs).map fun read => (.closing read.1, read.2)
  | '?' :: cs => (instruction? cs).map fun rest => (.aside, rest)
  | '!' :: cs => exclamation? cs
  | cs => (openingTag? cs).map fun read => (.opening read.1, read.2)

theorem exclamation?_suffix {cs rest : List Char} {t : Token}
    (h : exclamation? cs = some (t, rest)) : rest <:+ cs := by
  rw [exclamation?] at h
  split at h
  · next hp =>
    obtain ⟨_, hr, he⟩ := Option.map_eq_some_iff.1 h
    simp only [Prod.mk.injEq] at he
    exact he.2 ▸ (comment?_suffix hr).trans (expect?_suffix hp)
  · split at h
    · next hp =>
      obtain ⟨_, hr, he⟩ := Option.map_eq_some_iff.1 h
      simp only [Prod.mk.injEq] at he
      exact (splitAt?_suffix (hr.trans (by rw [← he.2]))).trans (expect?_suffix hp)
    · split at h
      · next hp =>
        obtain ⟨_, hr, he⟩ := Option.map_eq_some_iff.1 h
        simp only [Prod.mk.injEq] at he
        exact (doctype?_suffix (hr.trans (by rw [← he.2]))).trans (expect?_suffix hp)
      · simp at h

theorem markup?_suffix {cs rest : List Char} {t : Token} (h : markup? cs = some (t, rest)) :
    rest <:+ cs := by
  unfold markup? at h
  split at h
  · obtain ⟨_, hr, he⟩ := Option.map_eq_some_iff.1 h
    simp only [Prod.mk.injEq] at he
    exact (closingTag?_suffix (hr.trans (by rw [← he.2]))).trans (List.suffix_cons _ _)
  · obtain ⟨_, hr, he⟩ := Option.map_eq_some_iff.1 h
    simp only [Prod.mk.injEq] at he
    exact he.2 ▸ (instruction?_suffix hr).trans (List.suffix_cons _ _)
  · exact (exclamation?_suffix h).trans (List.suffix_cons _ _)
  · obtain ⟨_, hr, he⟩ := Option.map_eq_some_iff.1 h
    simp only [Prod.mk.injEq] at he
    exact openingTag?_suffix (hr.trans (by rw [← he.2]))

/-- The tokens of a text. Two closing brackets and an angle bracket belong to
    verbatim characters and are not read elsewhere. -/
def tokens? (cs : List Char) : Option (List Token) :=
  match cs with
  | [] => some []
  | '<' :: rest =>
    match _h : markup? rest with
    | none => none
    | some (t, after) => (tokens? after).map (t :: ·)
  | '&' :: rest =>
    match _h : reference? rest with
    | none => none
    | some (r, after) => (tokens? after).map (.reference r :: ·)
  | ']' :: ']' :: '>' :: _ => none
  | c :: rest => (tokens? rest).map (.char c :: ·)
termination_by cs.length
decreasing_by
  · exact Nat.lt_succ_of_le (markup?_suffix _h).length_le
  · exact Nat.lt_succ_of_le (reference?_suffix _h).length_le
  · exact Nat.lt_succ_self _

theorem tokens?_nil : tokens? [] = some [] := by rw [tokens?]

theorem tokens?_angle (rest : List Char) : tokens? ('<' :: rest) =
    (markup? rest).bind fun read => (tokens? read.2).map (read.1 :: ·) := by
  rw [tokens?]
  split <;> simp_all

theorem tokens?_ampersand (rest : List Char) : tokens? ('&' :: rest) =
    (reference? rest).bind fun read => (tokens? read.2).map (.reference read.1 :: ·) := by
  rw [tokens?]
  split <;> simp_all

theorem tokens?_char {c : Char} {rest : List Char} (hl : c ≠ '<') (ha : c ≠ '&')
    (hr : ∀ tail, c :: rest ≠ ']' :: ']' :: '>' :: tail) :
    tokens? (c :: rest) = (tokens? rest).map (.char c :: ·) := by
  rw [tokens?]
  · exact hl
  · exact ha
  · exact fun tail hc ht => hr tail (by rw [hc, ht])

end KeyMacro.Xml
