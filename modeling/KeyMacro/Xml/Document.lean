import KeyMacro.Text.Line
import KeyMacro.Xml.Declaration
import KeyMacro.Xml.Element
import KeyMacro.Xml.Encoding

/-!
# Documents

A document is a row of bytes. Its encoding gives its characters, all of which
must be ones that a document may hold; the ends of its lines are made uniform;
what follows its declaration are tokens, which come to items as the type of the
document tells, and the items are one element (`document?`). Nothing is said about
documents that are not well formed but that they are not. Only a declaration of an
encoding that cannot be read is told apart, before anything behind it is read.
-/

namespace KeyMacro.Xml

/-- The characters by which the declaration of a document is read before its
    encoding is known. -/
def preview (family : Family) (bytes : List UInt8) : List Char :=
  match family with
  | .bytes => bytes.map fun b => Char.ofNat b.toNat
  | .pairs highFirst => (units16 highFirst bytes).map Char.ofNat

/-- What is wrong with a document. -/
inductive DocumentError where
  /-- It is not well formed. -/
  | malformed
  /-- It declares an encoding that cannot be read. -/
  | encoding (error : Encoding.Error)
  deriving DecidableEq, Repr

/-- The encoding of a document of a family, given its bytes without a byte order
    mark. -/
def encodingOf (family : Family) (content : List UInt8) : Except DocumentError Encoding :=
  match declaration? (preview family content) with
  | none => .error .malformed
  | some (declared, _) =>
    match Encoding.ofLabel? family declared.encoding with
    | .error e => .error (.encoding e)
    | .ok none => .error .malformed
    | .ok (some encoding) => .ok encoding

/-- The element that a document of some size is, given its characters. -/
def elementOf? (size : Nat) (cs : List Char) : Option Element := do
  let (declared, body) ← declaration? (Text.unifyNewlines cs)
  let items ← items? declared.standalone size (← tokens? body)
  element? items

/-- The element that a document is. -/
def document? (bytes : List UInt8) : Except DocumentError Element := do
  let (family, content) := Family.detect bytes
  let encoding ← encodingOf family content
  match (encoding.decode? content).bind fun cs =>
    if cs.all isChar then elementOf? bytes.length cs else none with
  | some element => .ok element
  | none => .error .malformed

end KeyMacro.Xml
