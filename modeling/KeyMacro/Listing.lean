import KeyMacro.Event
import KeyMacro.Text.Blank
import KeyMacro.Text.Numeral

/-!
# Listings

A *listing* shows a payload line by line, one line for each opcode, with its
address in bytes. It ends at the first opcode that is all zeros: as no key has
code 0, that opcode and all that follow it are padding. It also ends at an
opcode that the end of the payload cuts short.

Payloads are read leniently: blanks around them and the case of their digits
make no difference, and an opcode of no known kind is shown as it is.
-/

namespace KeyMacro.Listing

/-- What one line of a listing shows. -/
inductive Entry where
  | delay (time : Nat)
  | keyDown (code : Nat)
  | keyUp (code : Nat)
  /-- An opcode of no known kind. -/
  | unknown (unit : List Char)
  /-- The number of opcodes left, all taken for padding. -/
  | padding (count : Nat)
  /-- The digits left, too few for an opcode. -/
  | incomplete (tail : List Char)
  deriving DecidableEq, Repr

/-- The wording of an entry. -/
def Entry.text : Entry → List Char
  | delay time => "DELAY ".toList ++ Nat.toDigits 10 time
  | keyDown code => "KEYDOWN ".toList ++ Key.nameOf code
  | keyUp code => "KEYUP ".toList ++ Key.nameOf code
  | unknown unit => "UNKNOWN_OPCODE ".toList ++ unit
  | padding count => "PADDING ".toList ++ Nat.toDigits 10 count
  | incomplete tail => tail ++ " (incomplete)".toList

/-- The entry of an opcode, given by its digits. -/
def Entry.ofUnit (unit : List Char) : Entry :=
  match unit with
  | ['f', 'f', a, b, c, d] => .delay ((Numeral.hexValue? [a, b, c, d]).getD 0)
  | [a, b, '0', '0', '0', '1'] => .keyDown ((Numeral.hexValue? [a, b]).getD 0)
  | [a, b, '0', '0', '0', '0'] => .keyUp ((Numeral.hexValue? [a, b]).getD 0)
  | _ => .unknown unit

/-- The entries of a row of digits. -/
def entries : List Char → List Entry
  | '0' :: '0' :: '0' :: '0' :: '0' :: '0' :: rest => [.padding (1 + rest.length / Opcode.width)]
  | a :: b :: c :: d :: e :: f :: rest => Entry.ofUnit [a, b, c, d, e, f] :: entries rest
  | [] => []
  | tail => [.incomplete tail]

/-- The number of bytes of an opcode. -/
def unitBytes : Nat := Opcode.width / 2

/-- The lines of a row of entries: each entry with the address of its opcode, an
    upper-case hexadecimal number of at least four digits. -/
def number (entries : List Entry) : List (List Char) :=
  entries.mapIdx fun i entry =>
    "0x".toList ++ Numeral.hexPadded 4 (unitBytes * i) ++ ": ".toList ++ entry.text

/-- The digits of a payload: lower-case, and without the blanks around them. -/
def digits (payload : List Char) : List Char := (Text.strip payload).map Char.toLower

/-- Why a payload has no listing. -/
inductive Error where
  /-- Some character is no hexadecimal digit. -/
  | notHex
  deriving DecidableEq, Repr

/-- The wording of an `Error`. -/
def Error.message : Error → String
  | notHex => "MacroInfo payload is not a hex string"

/-- The listing of a payload. -/
def disassemble (payload : List Char) : Except Error (List (List Char)) :=
  let ds := digits payload
  if ds.all fun c => (Numeral.hexDigitValue? c).isSome then .ok (number (entries ds))
  else .error .notHex

end KeyMacro.Listing
