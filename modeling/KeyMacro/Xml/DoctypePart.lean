import KeyMacro.Xml.AttributeDefinition
import KeyMacro.Xml.ContentModel

/-!
# Parts of a document type

A document type is made of declarations, of entities, attributes, elements and
notations. Entities are texts with a name, for use in the document, or
*parameter entities*, for use in the document type itself; the text is given
with the declaration or found outside the document. Between declarations there
may be comments and processing instructions, and a parameter entity may be
referred to.

* `DoctypePart.declaration?`: the declaration that some lexemes are.
-/

namespace KeyMacro.Xml

/-- A part of a document type. -/
inductive DoctypePart where
  /-- An entity and its text, as it is written. -/
  | entity (name text : List Char)
  /-- An entity whose text is outside the document. -/
  | outsideEntity (name : List Char)
  /-- The text of a parameter entity, as it is written. -/
  | parameterEntity (text : List Char)
  /-- The definitions of the attributes of an element. -/
  | attributes (element : QName) (definitions : List AttributeDefinition)
  /-- Something without a bearing on what the document holds. -/
  | idle
  /-- A reference to a parameter entity. -/
  | reference
  deriving DecidableEq, Repr

/-- The characters of public identifiers. -/
def isPublicChar (c : Char) : Bool :=
  c.isAlphanum || c == '\n' || c == '\r' || " -'()+,./:=?;!*#@$_%".toList.contains c

/-- Reads what identifies something outside the document: its address, perhaps
    behind a public identifier. -/
def outside? : List Lexeme → Option (List Lexeme)
  | .name word none :: .literal text :: rest =>
    if word = { base := "SYSTEM".toList } then some rest
    else if word = { base := "PUBLIC".toList } ∧ text.all isPublicChar then
      match rest with
      | .literal _ :: rest => some rest
      | _ => none
    else none
  | _ => none

namespace DoctypePart

/-- The declaration of an entity that some lexemes are, behind its keyword. -/
def entity? : List Lexeme → Option DoctypePart
  | .percent :: .name ⟨none, _⟩ none :: ls =>
    match ls with
    | [.literal text] => some (parameterEntity text)
    | ls => if outside? ls = some [] then some idle else none
  | .name ⟨none, name⟩ none :: ls =>
    match ls with
    | [.literal text] => some (entity name text)
    | ls =>
      match outside? ls with
      | some [] => some (outsideEntity name)
      | some [.name word none, .name ⟨none, _⟩ none] =>
        if word = { base := "NDATA".toList } then some (outsideEntity name) else none
      | _ => none
  | _ => none

/-- Whether some lexemes are the declaration of a notation, behind its keyword.
    A public identifier is enough. -/
def isNotation : List Lexeme → Bool
  | [.name ⟨none, _⟩ none, .name word none, .literal text] =>
    word = { base := "SYSTEM".toList } ∨
      (word = { base := "PUBLIC".toList } ∧ text.all isPublicChar)
  | .name ⟨none, _⟩ none :: ls => outside? ls = some []
  | _ => false

/-- The declaration that some lexemes are, behind a keyword. -/
def declaration? (keyword : List Char) (ls : List Lexeme) : Option DoctypePart :=
  match String.ofList keyword, ls with
  | "ENTITY", ls => entity? ls
  | "ATTLIST", .name element none :: ls => (definitions? ls).map (attributes element)
  | "ELEMENT", .name _ none :: ls => if isContentModel ls then some idle else none
  | "NOTATION", ls => if isNotation ls then some idle else none
  | _, _ => none

end DoctypePart

end KeyMacro.Xml
