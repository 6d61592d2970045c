import KeyMacro.Profile.Fields
import KeyMacro.Text.Utf8

/-!
# Profile documents

A profile is written as an XML document: the declaration, the root element, and
in it one element for each field, each on a line of its own. Of the characters
of a text only those are escaped that would be taken for markup.
-/

namespace KeyMacro.Profile

/-- The tag of the root element. -/
def rootTag : List Char := "GKEYINFO".toList

/-- A character of a text, as a document holds it. -/
def escapeChar (c : Char) : List Char :=
  if c = '&' then "&amp;".toList
  else if c = '<' then "&lt;".toList
  else if c = '>' then "&gt;".toList
  else [c]

/-- A text, as a document holds it. -/
def escape (cs : List Char) : List Char := cs.flatMap escapeChar

/-- The tag that opens an element. -/
def openTag (tag : List Char) : List Char := '<' :: tag ++ ['>']

/-- The tag that closes an element. -/
def closeTag (tag : List Char) : List Char := '<' :: '/' :: tag ++ ['>']

/-- The line of a field, given what stands between its tags. -/
def elementOf (tag written : List Char) : List Char :=
  openTag tag ++ written ++ closeTag tag ++ ['\n']

/-- The line of a field. -/
def element (tag text : List Char) : List Char := elementOf tag (escape text)

/-- The first line of a document. -/
def declaration : List Char := "<?xml version='1.0' encoding='utf-8'?>\n".toList

/-- The document with fields that have something between their tags, whose root
    element has some attributes. The root element is on one line if it is empty. -/
def layOut (attributes : List Char) (fields : List (List Char × List Char)) : List Char :=
  declaration ++ openTag (rootTag ++ attributes) ++ (if fields = [] then [] else ['\n']) ++
    fields.flatMap (fun field => elementOf field.1 field.2) ++ closeTag rootTag

/-- The document of a profile whose root element has some attributes. -/
def documentWith (attributes : List Char) (fields : Fields) : List Char :=
  layOut attributes (fields.map fun field => (field.1, escape field.2))

/-- The document of a profile. -/
def document (fields : Fields) : List Char := documentWith [] fields

/-- The bytes of the document of the profile of a macro. -/
def bytes (m : Macro) : List UInt8 := Utf8.encode (document (ofMacro m))

/-! ### Names with surrogates -/

/-- A code point of a string, as a document holds it. A surrogate has no encoding, so
    that a reference stands for it, which gives its number. -/
def escapePoint : Text.CodePoint → List Char
  | .char c => escapeChar c
  | .surrogate index =>
    '&' :: '#' :: Nat.toDigits 10 (Text.CodePoint.firstSurrogate + index) ++ [';']

/-- A string, as a document holds it. -/
def escapePoints (ps : List Text.CodePoint) : List Char := ps.flatMap escapePoint

/-- The document of the profile of a macro with a string as its name. -/
def stringDocument (m : StringMacro) : List Char :=
  layOut [] ((ofStringMacro m).map fun field => (field.1, escapePoints field.2))

end KeyMacro.Profile
