import KeyMacro.Xml.Token

/-!
# Texts of entities

An entity is declared with its text in quotes. References to characters in it
are replaced at once, references to entities only where the entity is used
(`entityText?`).

A text is used either as content, and is then a row of tokens by itself, in
which every element that begins also ends, or in the value of an attribute. It
need not be fit for both (`Entity.ofText`).
-/

namespace KeyMacro.Xml

/-! ### Texts -/

/-- How a reference in the text of an entity is kept. -/
def Reference.keep : Reference → List Char
  | char c => [c]
  | entity name => '&' :: name ++ [';']

/-- The text of an entity that is declared with a text between quotes. -/
def entityText? (raw : List Char) : Option (List Char) :=
  match raw with
  | [] => some []
  | '%' :: _ => none
  | '&' :: rest =>
    match _h : reference? rest with
    | none => none
    | some (r, after) => (entityText? after).map (r.keep ++ ·)
  | c :: rest => (entityText? rest).map (c :: ·)
termination_by raw.length
decreasing_by
  · exact Nat.lt_succ_of_le (reference?_suffix _h).length_le
  · exact Nat.lt_succ_self _

/-! ### Uses -/

/-- How many elements are open after a token. -/
def Token.depth? : Nat → Token → Option Nat
  | depth, opening tag => some (if tag.empty then depth else depth + 1)
  | 0, closing _ => none
  | depth + 1, closing _ => some depth
  | depth, _ => some depth

/-- Whether the elements in a row of tokens all begin and end in it. -/
def isBalanced (tokens : List Token) : Bool := tokens.foldlM Token.depth? 0 = some 0

/-- Some tokens with another in front. Characters become verbatim ones, and are
    joined to those that follow. -/
def consToken : Token → List Token → List Token
  | .char c, .verbatim cs :: tokens => .verbatim (c :: cs) :: tokens
  | .char c, tokens => .verbatim [c] :: tokens
  | token, tokens => token :: tokens

/-- The tokens of a text as content. -/
def content? (text : List Char) : Option (List Token) := do
  let tokens ← tokens? text
  if isBalanced tokens then some (tokens.foldr consToken []) else none

/-- An entity, given by the uses of its text. -/
structure Entity where
  /-- The number of bytes of the text. -/
  size : Nat
  /-- The text as content, if it is fit for that. -/
  content : Option (List Token)
  /-- The text in the value of an attribute, if it is fit for that. -/
  value : Option WrittenValue

/-- The entity with a text. -/
def Entity.ofText (text : List Char) : Entity where
  size := text.foldl (fun size c => size + c.utf8Size) 0
  content := content? text
  value := writtenValue? text

end KeyMacro.Xml
