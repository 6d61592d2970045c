/-!
# Numerals

Scripts hold signed decimal numerals (`integer?`), payloads hold hexadecimal
ones of a fixed width (`hexFixed`, read back by `hexValue?`), and listings show
upper-case hexadecimal of at least a given width (`hexPadded`).
-/

namespace KeyMacro.Numeral

/-! ### Decimal -/

/-- The longest row of digits that is read as a number, or written for one. -/
def maxDigits : Nat := 4300

/-- The value of a row of decimal digits. -/
def decimalValue (ds : List Char) : Nat :=
  ds.foldl (fun n d => 10 * n + (d.toNat - '0'.toNat)) 0

/-- The value of an unsigned decimal numeral. -/
def natural? (ds : List Char) : Option Nat :=
  if ds ≠ [] ∧ ds.length ≤ maxDigits ∧ ds.all Char.isDigit then some (decimalValue ds) else none

/-- The value of a decimal numeral with at most one sign in front. Leading zeros
    count as digits, the sign does not. -/
def integer? : List Char → Option Int
  | '-' :: ds => (natural? ds).map fun n => -(n : Int)
  | '+' :: ds => (natural? ds).map fun n => (n : Int)
  | ds => (natural? ds).map fun n => (n : Int)

/-- The decimal numeral of an integer, with a sign only if it is negative. -/
def decimal (n : Int) : List Char :=
  if n < 0 then '-' :: Nat.toDigits 10 n.natAbs else Nat.toDigits 10 n.natAbs

/-- The number of digits in the decimal numeral of an integer. -/
def digitCount (n : Int) : Nat := (Nat.toDigits 10 n.natAbs).length

/-! ### Hexadecimal -/

/-- The lower-case hexadecimal digit of a number below sixteen. -/
def hexDigit (n : Nat) : Char :=
  Char.ofNat (if n < 10 then '0'.toNat + n else 'a'.toNat + (n - 10))

/-- The value of a lower-case hexadecimal digit. -/
def hexDigitValue? (c : Char) : Option Nat :=
  if '0' ≤ c ∧ c ≤ '9' then some (c.toNat - '0'.toNat)
  else if 'a' ≤ c ∧ c ≤ 'f' then some (c.toNat - 'a'.toNat + 10)
  else none

/-- The last `width` hexadecimal digits of a number. -/
def hexFixed : (width : Nat) → Nat → List Char
  | 0, _ => []
  | width + 1, n => hexFixed width (n / 16) ++ [hexDigit (n % 16)]

/-- The value of a row of lower-case hexadecimal digits. -/
def hexValue? (ds : List Char) : Option Nat :=
  ds.foldlM (fun n d => (hexDigitValue? d).map (16 * n + ·)) 0

/-- Upper-case hexadecimal, filled up with zeros to at least `width` digits. -/
def hexPadded (width n : Nat) : List Char :=
  let ds := (Nat.toDigits 16 n).map Char.toUpper
  List.replicate (width - ds.length) '0' ++ ds

end KeyMacro.Numeral
