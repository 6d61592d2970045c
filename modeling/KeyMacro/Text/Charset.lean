/-!
# Character sets

In a *character set* each byte is a character, or none. Those with names here
(`Charset`) agree with ASCII below 128, so that they differ in their upper
halves only.
-/

namespace KeyMacro.Text

/-- A character set that agrees with ASCII below 128. -/
structure Charset where
  /-- Its names, in small letters and with single low lines for hyphens. -/
  names : List String
  /-- The characters from 128 on, in rows. The replacement character stands where
      there is none. -/
  rows : List String

/-- Characters with consecutive numbers. -/
def run (first count : Nat) : String :=
  String.ofList ((List.range count).map fun i => Char.ofNat (first + i))

/-- Places without a character. -/
def gap (count : Nat) : String := String.ofList (List.replicate count '\uFFFD')

namespace Charset

/-- The upper half of a character set. -/
def upper (charset : Charset) : Array Char := (charset.rows.flatMap String.toList).toArray

/-- The character that a byte is, given the upper half of the character set. -/
def charAt? (upper : Array Char) (b : UInt8) : Option Char :=
  if b < 0x80 then some (Char.ofNat b.toNat)
  else (upper[b.toNat - 0x80]?).filter (· ≠ '\uFFFD')

/-- The characters that bytes are. -/
def decode? (charset : Charset) (bytes : List UInt8) : Option (List Char) :=
  let upper := charset.upper
  bytes.mapM (charAt? upper)

/-- The character set of ASCII, without an upper half. -/
def ascii : Charset where
  names := ["ascii", "ansi_x3.4_1968", "ansi_x3.4_1986", "ansi_x3_4_1968", "cp367", "csascii",
    "ibm367", "iso646_us", "iso_646.irv_1991", "iso_ir_6", "us", "us_ascii"]
  rows := [gap 128]

/-- The character set in which each byte is the character of its number. -/
def latin1 : Charset where
  names := ["latin1", "cp819", "csisolatin1", "ibm819", "iso8859", "iso8859_1", "iso_8859_1",
    "iso_8859_1_1987", "iso_ir_100", "l1", "latin", "latin_1"]
  rows := [run 0x80 128]

end Charset

/-- The name of a character set that is given with hyphens or low lines, in any
    letter case. -/
def charsetName (label : List Char) : List Char :=
  let words := (label.map Char.toLower).splitOnP fun c => c == '-' || c == '_'
  ['_'].intercalate (words.filter (· ≠ []))

end KeyMacro.Text
