import KeyMacro.Xml.Tag

/-!
# Namespaces

A qualifier is short for the name of a *namespace*, and an element without one
may be in a namespace as well. Which namespaces are meant is declared by
attributes, and holds for the element that has them and all that is in it
(`Scope.declare?`). A tag is known by its namespace and its base name
(`Scope.tag?`).
-/

namespace KeyMacro.Xml

/-- The namespace that is named by the address of a page. -/
def pageNamespace (host page : String) : List Char :=
  "http:".toList ++ "//".toList ++ host.toList ++ '/' :: page.toList

/-- The namespace that the qualifier `xml` always means. -/
def xmlNamespace : List Char := pageNamespace "www.w3.org" "XML/1998/namespace"

/-- The namespace of the attributes that declare namespaces. -/
def xmlnsNamespace : List Char := pageNamespace "www.w3.org" "2000/xmlns/"

/-- The attributes of an element, with their values. -/
abbrev Attributes := List (QName × List Char)

/-- The namespaces that qualifiers mean at some point of a document, latest
    first; `none` is for elements without a qualifier, and the empty namespace
    is none. -/
abbrev Scope := List (Option (List Char) × List Char)

/-- The scope outside of all elements. -/
def Scope.initial : Scope := [(some "xml".toList, xmlNamespace)]

/-- The qualifier that an attribute declares, if it declares any. -/
def QName.declares? (name : QName) : Option (Option (List Char)) :=
  match name.qualifier with
  | none => if name.base = "xmlns".toList then some none else none
  | some q => if q = "xmlns".toList then some (some name.base) else none

/-- Whether a qualifier may be declared to mean a namespace. The two reserved
    namespaces keep to their qualifiers, a qualifier means something, and no
    namespace has a closing brace in its name. -/
def mayDeclare (qualifier : Option (List Char)) (space : List Char) : Bool :=
  qualifier ≠ some "xmlns".toList && !space.contains '}' && space ≠ xmlnsNamespace &&
    (decide (qualifier = some "xml".toList) == decide (space = xmlNamespace)) &&
    (qualifier.isNone || space ≠ [])

/-- The scope within an element that has some attributes. -/
def Scope.declare? (scope : Scope) : Attributes → Option Scope
  | [] => some scope
  | (name, value) :: rest =>
    match name.declares? with
    | none => declare? scope rest
    | some qualifier =>
      if mayDeclare qualifier value then declare? ((qualifier, value) :: scope) rest else none

/-- A name that is known by its namespace. -/
def expandedName (space base : List Char) : List Char :=
  if space = [] then base else '{' :: space ++ '}' :: base

/-- The tag of an element. -/
def Scope.tag? (scope : Scope) (name : QName) : Option (List Char) :=
  match name.qualifier with
  | none => some (expandedName ((scope.lookup none).getD []) name.base)
  | some q => (scope.lookup (some q)).map fun space => expandedName space name.base

/-- The names of attributes that declare nothing, known by their namespaces. An
    attribute without a qualifier is in no namespace. -/
def Scope.attributeNames? (scope : Scope) (attributes : Attributes) : Option (List (List Char)) :=
  (attributes.filter fun a => a.1.declares?.isNone).mapM fun a =>
    match a.1.qualifier with
    | none => some a.1.base
    | some q => (scope.lookup (some q)).map fun space => expandedName space a.1.base

/-- Whether the attributes of an element may stand together: no two have the
    same name, as it is written or as it is known. -/
def Scope.admits (scope : Scope) (attributes : Attributes) : Bool :=
  match scope.attributeNames? attributes with
  | none => false
  | some names => decide (attributes.map (·.1)).Nodup && decide names.Nodup

end KeyMacro.Xml
