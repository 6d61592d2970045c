import KeyMacro.Xml.Item

/-!
# Elements

The items of a document are one element, with white space around it, and in front
of it perhaps a document type. An element holds characters and other elements; it
ends with a tag of the name it began with.

The elements that have begun but not ended are the *open* ones. A document is
read by going through its items with the open elements at hand
(`Progress.advance?`).
-/

namespace KeyMacro.Xml

/-- An element of a document. -/
structure Element where
  /-- Its name, known by its namespace. -/
  tag : List Char
  /-- The characters in it that come before the first element in it. -/
  text : List Char
  /-- The elements directly in it. -/
  children : List Element

/-- An element that has begun and not ended. -/
structure OpenElement where
  /-- The name that it has to end with. -/
  name : QName
  /-- The namespaces in it. -/
  scope : Scope
  /-- What there is of it so far, its text and its children in reverse. -/
  element : Element

namespace OpenElement

/-- The open element with another character. -/
def addChar (o : OpenElement) (c : Char) : OpenElement :=
  if o.element.children.isEmpty then
    { o with element := { o.element with text := c :: o.element.text } }
  else o

/-- The open element with another child. -/
def addChild (o : OpenElement) (child : Element) : OpenElement :=
  { o with element := { o.element with children := child :: o.element.children } }

/-- The element as a whole. -/
def finish (o : OpenElement) : Element :=
  { o.element with text := o.element.text.reverse, children := o.element.children.reverse }

/-- The element that a tag opens in a scope. -/
def start? (scope : Scope) (tag : OpeningTag (List Char)) : Option OpenElement :=
  match scope.declare? tag.attributes with
  | none => none
  | some inner =>
    if inner.admits tag.attributes then
      (inner.tag? tag.name).map fun name =>
        { name := tag.name, scope := inner, element := ⟨name, [], []⟩ }
    else none

end OpenElement

/-- How far a document has been read. -/
inductive Progress where
  /-- Its element has not begun; its type may have been declared. -/
  | before (typed : Bool)
  /-- Its element has begun: the innermost open element, and those around it. -/
  | within (inner : OpenElement) (outer : List OpenElement)
  /-- Its element has ended. -/
  | after (root : Element)

namespace Progress

/-- What a finished element leads to. -/
def close (element : Element) : List OpenElement → Progress
  | [] => after element
  | o :: outer => within (o.addChild element) outer

/-- What a tag leads to that opens an element in a scope, within open ones. -/
def opened? (scope : Scope) (tag : OpeningTag (List Char)) (outer : List OpenElement) :
    Option Progress :=
  (OpenElement.start? scope tag).map fun o =>
    if tag.empty then close o.finish outer else within o outer

/-- What the next item leads to. -/
def advance? : Progress → Item → Option Progress
  | before _, .opening tag => opened? Scope.initial tag []
  | before typed, .char c => if isSpace c then some (before typed) else none
  | before false, .doctype => some (before true)
  | before _, _ => none
  | within inner outer, .opening tag => opened? inner.scope tag (inner :: outer)
  | within inner outer, .closing name =>
    if name = inner.name then some (close inner.finish outer) else none
  | within inner outer, .char c => some (within (inner.addChar c) outer)
  | within inner outer, .text cs => some (within (cs.foldl OpenElement.addChar inner) outer)
  | within _ _, .doctype => none
  | after root, .char c => if isSpace c then some (after root) else none
  | after _, _ => none

end Progress

/-- The element that the items of a document are. -/
def element? (items : List Item) : Option Element :=
  match items.foldlM Progress.advance? (.before false) with
  | some (.after root) => some root
  | _ => none

end KeyMacro.Xml
