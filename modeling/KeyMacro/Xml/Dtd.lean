import KeyMacro.Xml.EntityText
import KeyMacro.Xml.Namespace

/-!
# Document type definitions

What the type of a document means for its content: which entities there are, and
how the attributes of elements are treated. Of several declarations of the same
entity, or of the same attribute of an element, the first one counts.

* Whatever is outside the document is not read. It may declare entities, so that
  in the value of an attribute one that is not declared in the document is passed
  over. Behind a reference to a parameter entity, which may have declared things
  otherwise, declarations are not heeded. Neither holds for a document that
  stands alone.
* The texts of entities may hold references in turn, but not to themselves. In
  a chain of references to different entities there are no more than are
  declared, so that a longer one must hold an entity twice.
* A document may be small and yet expand to a large one. The text that is
  inserted for references is limited (`Expansion`).
-/

namespace KeyMacro.Xml

/-! ### Limited expansion -/

/-- An expansion that may fail, given the number of bytes that may yet be
    inserted. -/
abbrev Expansion := StateT Nat Option

/-- Inserts some bytes. -/
def insertBytes (size : Nat) : Expansion Unit := fun allowance =>
  if size ≤ allowance then some ((), allowance - size) else none

/-- The number of bytes that may be inserted into a document of some size.
    Together they come to less than eight megabytes, or to no more than a hundred
    times the size. -/
def allowance (size : Nat) : Nat := max (8 * 1024 * 1024 - 1 - size) (99 * size)

/-! ### Definitions -/

/-- How an attribute of an element is treated. -/
structure AttributeRule where
  element : QName
  name : QName
  /-- Whether the value is a row of tokens. -/
  tokenized : Bool
  /-- The value where the attribute is missing, if it has one there. -/
  default : Option (List Char)
  deriving DecidableEq, Repr

/-- A document type definition. -/
structure Dtd where
  /-- Whether the document stands alone. -/
  standalone : Bool
  /-- Whether some of the definition is outside the document. -/
  outside : Bool := false
  /-- Whether further declarations are heeded. -/
  heeds : Bool := true
  /-- The entities by their names; `none` is for one whose text is outside the
      document. -/
  entities : List (List Char × Option Entity) := []
  /-- How attributes are treated. -/
  rules : List AttributeRule := []

namespace Dtd

/-- Whether all entities of the document are declared in it. -/
def isComplete (dtd : Dtd) : Bool := dtd.standalone || !dtd.outside

/-- The definition with another entity. -/
def addEntity (dtd : Dtd) (name : List Char) (entity : Option Entity) : Dtd :=
  if (predefined? name).isSome || (dtd.entities.lookup name).isSome then dtd
  else { dtd with entities := (name, entity) :: dtd.entities }

/-- The rule for an attribute of an element, if there is one. -/
def rule? (dtd : Dtd) (element name : QName) : Option AttributeRule :=
  dtd.rules.find? fun rule => rule.element = element ∧ rule.name = name

/-- The definition with another rule. -/
def addRule (dtd : Dtd) (rule : AttributeRule) : Dtd :=
  if (dtd.rule? rule.element rule.name).isSome then dtd
  else { dtd with rules := rule :: dtd.rules }

/-! ### Values of attributes -/

/-- The characters that a reference in a value stands for, given how the text of
    an entity is expanded. -/
def expandReference (dtd : Dtd) (expand : WrittenValue → Expansion (List Char)) :
    Reference → Expansion (List Char)
  | .char c => pure [c]
  | .entity name =>
    match predefined? name, dtd.entities.lookup name with
    | some c, _ => pure [c]
    | none, some (some entity) => do
      insertBytes entity.size
      expand (← liftM entity.value)
    | none, some none => failure
    | none, none => if dtd.isComplete then failure else pure []

/-- The characters of a value with references up to a depth. -/
def expandValue (dtd : Dtd) : (depth : Nat) → WrittenValue → Expansion (List Char)
  | 0, written => return (← written.mapM (dtd.expandReference fun _ => failure)).flatten
  | depth + 1, written =>
    return (← written.mapM (dtd.expandReference (dtd.expandValue depth))).flatten

/-- The tokens of a value with one space between each two. -/
def normalizeTokens (value : List Char) : List Char :=
  [' '].intercalate ((value.splitOnP (· == ' ')).filter (· ≠ []))

/-- The value of an attribute that is written in some way. -/
def value (dtd : Dtd) (tokenized : Bool) (written : WrittenValue) : Expansion (List Char) := do
  let value ← dtd.expandValue dtd.entities.length written
  return if tokenized then normalizeTokens value else value

/-- The attributes of an element that are written in its tag. -/
def writtenAttributes (dtd : Dtd) (tag : OpeningTag WrittenValue) : Expansion Attributes :=
  tag.attributes.mapM fun (name, written) => do
    let tokenized := ((dtd.rule? tag.name name).map AttributeRule.tokenized).getD false
    return (name, ← dtd.value tokenized written)

/-- The attributes of an element that are not written in its tag. -/
def defaultAttributes (dtd : Dtd) (tag : OpeningTag WrittenValue) : Attributes :=
  dtd.rules.filterMap fun rule =>
    if rule.element = tag.name ∧ ¬ (tag.attributes.lookup rule.name).isSome then
      rule.default.map fun value => (rule.name, value)
    else none

/-- The tag with all attributes that its element has. -/
def expandTag (dtd : Dtd) (tag : OpeningTag WrittenValue) :
    Expansion (OpeningTag (List Char)) := do
  let written ← dtd.writtenAttributes tag
  return { tag with attributes := written ++ dtd.defaultAttributes tag }

/-! ### Declarations -/

/-- The definition with another rule for the attributes of an element. -/
def define (element : QName) (dtd : Dtd) (definition : AttributeDefinition) : Expansion Dtd := do
  let default ← definition.default.mapM fun raw => do
    dtd.value definition.tokenized (← liftM (writtenValue? raw))
  return dtd.addRule { definition with element, default }

/-- The definition with a declaration that is heeded. -/
def heed (dtd : Dtd) : DoctypePart → Expansion Dtd
  | .entity name raw => return dtd.addEntity name (Entity.ofText (← liftM (entityText? raw)))
  | .outsideEntity name => return dtd.addEntity name none
  | .parameterEntity raw => do
    let _ ← liftM (entityText? raw)
    return dtd
  | .attributes element definitions => definitions.foldlM (define element) dtd
  | _ => pure dtd

/-- The definition with another part of the document type. -/
def addPart (dtd : Dtd) : DoctypePart → Expansion Dtd
  | .reference => pure { dtd with outside := true, heeds := dtd.standalone }
  | part => if dtd.heeds then dtd.heed part else pure dtd

/-- The definition that the type of a document is, if it has a type. -/
def ofDoctype (standalone : Bool) : Option Doctype → Expansion Dtd
  | none => pure { standalone }
  | some type => type.parts.foldlM addPart { standalone, outside := type.external }

end Dtd

end KeyMacro.Xml
