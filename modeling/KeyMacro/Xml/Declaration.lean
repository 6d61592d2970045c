import KeyMacro.Xml.Scan

/-!
# The XML declaration

A document may begin with a declaration of the version of XML, the encoding and
whether the document stands alone, in this order and all but the version
optional. The encoding tells how to read the document, and a document that
stands alone is complete without anything external.
-/

namespace KeyMacro.Xml

/-- The characters of the values of a declaration. -/
def isDeclarationChar (c : Char) : Bool := c.isAlphanum || c == '.' || c == '-' || c == '_'

/-- Reads one value of a declaration: white space, a given name, an equals sign
    that may have white space around it, and the value in quotes. -/
def pseudoAttribute? (name : List Char) (cs : List Char) : Option (List Char × List Char) := do
  let afterName ← expect? name (← space? cs)
  let afterSign ← expect? ['='] (skipSpace afterName)
  let (value, rest) ← quoted? (skipSpace afterSign)
  if value.all isDeclarationChar then some (value, rest) else none

/-- Reads a value that may be missing, in which case nothing is read. -/
def optionalValue (name : List Char) (cs : List Char) : Option (List Char) × List Char :=
  match pseudoAttribute? name cs with
  | some (value, rest) => (some value, rest)
  | none => (none, cs)

/-- Whether a text begins with a declaration. -/
def startsDeclaration (cs : List Char) : Bool :=
  match expect? "<?xml".toList cs with
  | some (c :: _) => isSpace c || c == '?'
  | _ => false

/-- Whether a value may name an encoding. -/
def isEncodingName (value : List Char) : Bool := (value.head?.map Char.isAlpha).getD false

/-- What the declaration of a document tells. -/
structure Declaration where
  /-- The name of the encoding, if there is one. -/
  encoding : Option (List Char) := none
  /-- Whether the document stands alone. -/
  standalone : Bool := false
  deriving DecidableEq, Repr

/-- Reads the declaration of a document, which is followed by its text. A
    document without a declaration is all text, one with a faulty declaration
    has neither. -/
def declaration? (cs : List Char) : Option (Declaration × List Char) :=
  if startsDeclaration cs then do
    let (_, afterVersion) ← pseudoAttribute? "version".toList (cs.drop "<?xml".length)
    let (encoding, afterEncoding) := optionalValue "encoding".toList afterVersion
    let (standalone, afterStandalone) := optionalValue "standalone".toList afterEncoding
    let rest ← expect? "?>".toList (skipSpace afterStandalone)
    if encoding.all isEncodingName ∧
        standalone.all fun value => value = "yes".toList ∨ value = "no".toList then
      some ({ encoding, standalone := standalone = some "yes".toList }, rest)
    else none
  else some ({}, cs)

end KeyMacro.Xml
