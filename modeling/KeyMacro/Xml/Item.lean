import KeyMacro.Xml.Dtd

/-!
# Items

What a token stands for may depend on the type of the document: a reference may
stand for text with elements in it, and an element may have more attributes than
its tag has. The *items* of a document are its tags and characters as they are
meant (`items?`). Comments and processing instructions are not among them.
-/

namespace KeyMacro.Xml

/-- An item of a document. -/
inductive Item where
  /-- The tag that opens an element, with all its attributes. -/
  | opening (tag : OpeningTag (List Char))
  /-- The tag that closes an element. -/
  | closing (name : QName)
  /-- A character that stands for itself. -/
  | char (c : Char)
  /-- Characters that stand for themselves only within an element. -/
  | text (cs : List Char)
  /-- The type of the document. -/
  | doctype
  deriving DecidableEq, Repr

namespace Dtd

/-- The items that an entity stands for, given how its content is expanded.
    There is text, though it may be empty. -/
def entityItems (dtd : Dtd) (expand : List Token → Expansion (List Item)) (name : List Char) :
    Expansion (List Item) :=
  match predefined? name, dtd.entities.lookup name with
  | some c, _ => pure [.text [c]]
  | none, some (some entity) => do
    insertBytes entity.size
    return .text [] :: (← expand (← liftM entity.content))
  | none, _ => failure

/-- The items that a token stands for, given how the content of an entity is
    expanded. -/
def tokenItems (dtd : Dtd) (expand : List Token → Expansion (List Item)) :
    Token → Expansion (List Item)
  | .opening tag => return [.opening (← dtd.expandTag tag)]
  | .closing name => pure [.closing name]
  | .char c => pure [.char c]
  | .reference (.char c) => pure [.text [c]]
  | .reference (.entity name) => dtd.entityItems expand name
  | .verbatim cs => pure [.text cs]
  | .aside => pure []
  | .doctype _ => pure [.doctype]

/-- The items of some tokens with references up to a depth. -/
def expandTokens (dtd : Dtd) : (depth : Nat) → List Token → Expansion (List Item)
  | 0, tokens => return (← tokens.mapM (dtd.tokenItems fun _ => failure)).flatten
  | depth + 1, tokens =>
    return (← tokens.mapM (dtd.tokenItems (dtd.expandTokens depth))).flatten

end Dtd

/-- The type of a document, if a token is that. -/
def Token.doctype? : Token → Option Doctype
  | doctype type => some type
  | _ => none

/-- The items of a document of some size, which may stand alone, given its
    tokens. -/
def items? (standalone : Bool) (size : Nat) (tokens : List Token) : Option (List Item) :=
  let items : Expansion (List Item) := do
    let dtd ← Dtd.ofDoctype standalone (tokens.findSome? Token.doctype?)
    dtd.expandTokens dtd.entities.length tokens
  items.run' (allowance size)

end KeyMacro.Xml
