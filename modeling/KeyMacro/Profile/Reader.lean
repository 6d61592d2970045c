import KeyMacro.Profile.Document
import KeyMacro.Xml.Document

/-!
# Reading profiles

A profile may have been written by another program, so any document is read
whose root element is that of a profile. Its payload is the text of the first
payload element directly in the root, up to the first element in that; all other
fields may be missing.
-/

namespace KeyMacro.Profile

/-- Why a file is no profile with a payload. -/
inductive ReadError where
  /-- It is not an XML document, for the reason that is given. -/
  | notXml (reason : String)
  /-- It declares an encoding that cannot be read. -/
  | encoding (error : Xml.Encoding.Error)
  /-- It is a document with another root element. -/
  | otherRoot (tag : List Char)
  /-- It is a profile without a payload. -/
  | noPayload
  deriving DecidableEq, Repr

/-- The wording of a `ReadError` about a file, which is named unless the encoding
    is at fault. -/
def ReadError.message (file : List Char) : ReadError → String
  | notXml reason => s!"{String.ofList file} is not valid XML: {reason}"
  | encoding error => error.message
  | otherRoot tag =>
    s!"{String.ofList file} is not a G-key profile (root is <{String.ofList tag}>)"
  | noPayload => s!"{String.ofList file} has no MacroInfo element"

/-- The payload of a profile, given by the bytes of its file. If they are no document, it
    is the XML library that has the wording for what is wrong with them. -/
def payload? (wording : List UInt8 → String) (bytes : List UInt8) :
    Except ReadError (List Char) :=
  match Xml.document? bytes with
  | .error .malformed => .error (.notXml (wording bytes))
  | .error (.encoding error) => .error (.encoding error)
  | .ok root =>
    if root.tag = rootTag then
      match root.children.find? (·.tag = payloadTag) with
      | some element => .ok element.text
      | none => .error .noPayload
    else .error (.otherRoot root.tag)

end KeyMacro.Profile
