import KeyMacro.Text.Charset.Table
import KeyMacro.Text.Utf8

/-!
# Encodings of XML documents

The first bytes of a document tell its *family*: characters of one byte or more
(UTF-8, unless the document declares another encoding), or UTF-16 in either
order (`Family.detect`, which also takes away the byte order mark). The
declaration, if there is one, is read before the encoding it names is settled;
it has ASCII characters only, so that a family is enough to read it.

Besides these encodings a document may declare any of the known character sets
(`Encoding.ofLabel?`). To declare another encoding is a fault of its own
(`Encoding.Error`).
-/

namespace KeyMacro.Xml

/-- How the bytes of a document come. -/
inductive Family where
  /-- One by one. -/
  | bytes
  /-- In pairs, the higher byte first or last. -/
  | pairs (highFirst : Bool)
  deriving DecidableEq, Repr

/-- The family of a document, and its bytes without a byte order mark. -/
def Family.detect : List UInt8 → Family × List UInt8
  | 0xEF :: 0xBB :: 0xBF :: rest => (bytes, rest)
  | 0xFE :: 0xFF :: rest => (pairs true, rest)
  | 0xFF :: 0xFE :: rest => (pairs false, rest)
  | 0x00 :: b :: rest => (pairs true, 0x00 :: b :: rest)
  | a :: 0x00 :: rest => (pairs false, a :: 0x00 :: rest)
  | rest => (bytes, rest)

/-- How the bytes of a document give its characters. -/
inductive Encoding where
  | utf8
  | utf16 (highFirst : Bool)
  | charset (set : Text.Charset)

namespace Encoding

/-- What keeps a document from being read at all. -/
inductive Error where
  /-- The encoding that it declares is not known. -/
  | unknown (label : List Char)
  /-- The encoding that it declares is not one of text. -/
  | notText (label : List Char)
  /-- The encoding that it declares may take several bytes for a character. -/
  | multiByte
  deriving DecidableEq, Repr

/-- The wording of an `Error`. -/
def Error.message : Error → String
  | unknown label => s!"unknown encoding: {String.ofList label}"
  | notText label =>
    s!"'{String.ofList label}' is not a text encoding; " ++
      "use codecs.decode() to handle arbitrary codecs"
  | multiByte => "multi-byte encodings are not supported"

/-- The encoding of a document without a label. -/
def ofFamily : Family → Encoding
  | .bytes => utf8
  | .pairs highFirst => utf16 highFirst

/-- The encodings that every reader knows, by their labels in small letters. The
    byte order of a document is its own, but no label may contradict it. -/
def standard? (family : Family) : (label : String) → Option (Option Encoding)
  | "utf-8" => some (if family = .bytes then some utf8 else none)
  | "iso-8859-1" => some (if family = .bytes then some (charset .latin1) else none)
  | "us-ascii" => some (if family = .bytes then some (charset .ascii) else none)
  | "utf-16" => some (if family = .bytes then none else some (ofFamily family))
  | "utf-16be" => some (if family = .pairs true then some (utf16 true) else none)
  | "utf-16le" => some (if family = .pairs false then some (utf16 false) else none)
  | _ => none

/-- The encoding with a label that is not standard. Bytes that come in pairs are
    not characters of any such encoding. -/
def further? (family : Family) (label : List Char) : Except Error (Option Encoding) :=
  let name := String.ofList (Text.charsetName label)
  match Text.charsets.find? (·.names.contains name) with
  | some found => .ok (if family = .bytes then some (charset found) else none)
  | none =>
    if Text.foreignCharsets.contains name then .ok none
    else if Text.multiByteEncodings.contains name then .error .multiByte
    else if Text.byteEncodings.contains name then .error (.notText label)
    else .error (.unknown label)

/-- The encoding of a document of a family that declares a label or declares
    none; there is none if the label does not fit. -/
def ofLabel? (family : Family) : (label : Option (List Char)) → Except Error (Option Encoding)
  | none => .ok (some (ofFamily family))
  | some label =>
    match standard? family (String.ofList (label.map Char.toLower)) with
    | some encoding? => .ok encoding?
    | none => further? family label

end Encoding

/-- The units of sixteen bits of a row of bytes. -/
def units16 (highFirst : Bool) : List UInt8 → List Nat
  | a :: b :: rest =>
    (if highFirst then 256 * a.toNat + b.toNat else 256 * b.toNat + a.toNat) ::
      units16 highFirst rest
  | _ => []

/-- Whether a unit is the first half of a surrogate pair. -/
def isHighSurrogate (u : Nat) : Bool := 0xD800 ≤ u && u ≤ 0xDBFF

/-- Whether a unit is the second half of a surrogate pair. -/
def isLowSurrogate (u : Nat) : Bool := 0xDC00 ≤ u && u ≤ 0xDFFF

/-- The characters of a row of units, in which surrogates come in pairs only. -/
def chars16 : List Nat → Option (List Char)
  | [] => some []
  | [u] => if isHighSurrogate u || isLowSurrogate u then none else some [Char.ofNat u]
  | u :: v :: rest =>
    if isHighSurrogate u then
      if isLowSurrogate v then do
        return Char.ofNat (0x10000 + 0x400 * (u - 0xD800) + (v - 0xDC00)) :: (← chars16 rest)
      else none
    else if isLowSurrogate u then none
    else do return Char.ofNat u :: (← chars16 (v :: rest))

/-- The characters of the bytes of a document without a byte order mark. -/
def Encoding.decode? (bytes : List UInt8) : Encoding → Option (List Char)
  | utf8 => (Utf8.decode bytes).toOption
  | utf16 highFirst => if bytes.length % 2 = 0 then chars16 (units16 highFirst bytes) else none
  | .charset set => set.decode? bytes

end KeyMacro.Xml
