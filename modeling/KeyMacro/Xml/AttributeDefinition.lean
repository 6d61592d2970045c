import KeyMacro.Xml.Lexeme

/-!
# Attribute definitions

A document type may define the attributes of an element: for each its type and
what holds where it is missing, which may be a default value. Of the types it
matters only whether the value is a row of tokens, in which white space merely
divides, or any text.

* `definitions?`: the definitions that some lexemes are.
-/

namespace KeyMacro.Xml

/-- A definition of an attribute. -/
structure AttributeDefinition where
  name : QName
  /-- Whether the value is a row of tokens. -/
  tokenized : Bool
  /-- The default value as it is written, if there is one. -/
  default : Option (List Char)
  deriving DecidableEq, Repr

/-- The names of the types that are rows of tokens. -/
def tokenTypes : List (List Char) :=
  ["ID", "IDREF", "IDREFS", "ENTITY", "ENTITIES", "NMTOKEN", "NMTOKENS"].map String.toList

/-- Whether a lexeme is a name without a colon. -/
def Lexeme.isPlainName : Lexeme → Bool
  | name ⟨none, _⟩ none => true
  | _ => false

/-- Whether a lexeme is a row of characters of names. -/
def Lexeme.isToken : Lexeme → Bool
  | name _ none => true
  | token => true
  | _ => false

/-- Reads the values that an attribute may have, behind the sign that opens the
    group of them. -/
def enumeration? (isValue : Lexeme → Bool) : List Lexeme → Option (List Lexeme)
  | value :: .closing none :: rest => if isValue value then some rest else none
  | value :: .connector '|' :: rest => if isValue value then enumeration? isValue rest else none
  | _ => none

/-- Reads the type of an attribute, and tells whether the value is a row of
    tokens. -/
def attributeType? : List Lexeme → Option (Bool × List Lexeme)
  | .opening :: rest => (enumeration? Lexeme.isToken rest).map (true, ·)
  | .name ⟨none, word⟩ none :: rest =>
    if word = "CDATA".toList then some (false, rest)
    else if tokenTypes.contains word then some (true, rest)
    else if word = "NOTATION".toList then
      match rest with
      | .opening :: rest => (enumeration? Lexeme.isPlainName rest).map (true, ·)
      | _ => none
    else none
  | _ => none

/-- Reads what holds where an attribute is missing: the default value, if there
    is one. -/
def default? : List Lexeme → Option (Option (List Char) × List Lexeme)
  | .literal text :: rest => some (some text, rest)
  | .keyword word :: rest =>
    if word = "IMPLIED".toList ∨ word = "REQUIRED".toList then some (none, rest)
    else if word = "FIXED".toList then
      match rest with
      | .literal text :: rest => some (some text, rest)
      | _ => none
    else none
  | _ => none

theorem enumeration?_suffix {isValue : Lexeme → Bool} {ls rest : List Lexeme}
    (h : enumeration? isValue ls = some rest) : rest <:+ ls := by
  fun_induction enumeration? isValue ls with
  | case1 => exact Option.some.inj h ▸ (List.suffix_cons _ _).trans (List.suffix_cons _ _)
  | case3 _ _ _ ih => exact (ih h).trans ((List.suffix_cons _ _).trans (List.suffix_cons _ _))
  | case2 | case4 | case5 => simp at h

theorem attributeType?_suffix {ls rest : List Lexeme} {tokenized : Bool}
    (h : attributeType? ls = some (tokenized, rest)) : rest <:+ ls := by
  unfold attributeType? at h
  split at h
  · obtain ⟨_, he, hp⟩ := Option.map_eq_some_iff.1 h
    simp only [Prod.mk.injEq] at hp
    exact hp.2 ▸ (enumeration?_suffix he).trans (List.suffix_cons _ _)
  · refine List.IsSuffix.trans ?_ (List.suffix_cons _ _)
    split at h
    · simp only [Option.some.injEq, Prod.mk.injEq] at h
      exact h.2 ▸ List.suffix_refl _
    split at h
    · simp only [Option.some.injEq, Prod.mk.injEq] at h
      exact h.2 ▸ List.suffix_refl _
    split at h
    · split at h
      · obtain ⟨_, he, hp⟩ := Option.map_eq_some_iff.1 h
        simp only [Prod.mk.injEq] at hp
        exact hp.2 ▸ (enumeration?_suffix he).trans (List.suffix_cons _ _)
      · simp at h
    · simp at h
  · simp at h

theorem default?_suffix {ls rest : List Lexeme} {value : Option (List Char)}
    (h : default? ls = some (value, rest)) : rest <:+ ls := by
  unfold default? at h
  split at h
  · simp only [Option.some.injEq, Prod.mk.injEq] at h
    exact h.2 ▸ List.suffix_cons _ _
  · refine List.IsSuffix.trans ?_ (List.suffix_cons _ _)
    split at h
    · simp only [Option.some.injEq, Prod.mk.injEq] at h
      exact h.2 ▸ List.suffix_refl _
    split at h
    · split at h
      · simp only [Option.some.injEq, Prod.mk.injEq] at h
        exact h.2 ▸ List.suffix_cons _ _
      · simp at h
    · simp at h
  · simp at h

/-- The definitions of attributes that some lexemes are. -/
def definitions? (ls : List Lexeme) : Option (List AttributeDefinition) :=
  match ls with
  | [] => some []
  | .name name none :: ls =>
    match _ht : attributeType? ls with
    | none => none
    | some (tokenized, afterType) =>
      match _hd : default? afterType with
      | none => none
      | some (default, rest) => (definitions? rest).map ({ name, tokenized, default } :: ·)
  | _ => none
termination_by ls.length
decreasing_by
  exact Nat.lt_succ_of_le ((default?_suffix _hd).trans (attributeType?_suffix _ht)).length_le

end KeyMacro.Xml
