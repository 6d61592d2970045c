import KeyMacro.Key.Table
import KeyMacro.Text.Numeral

/-!
# Keys

A script names a key by a *token*: a single letter (of either case) or digit
names the key that bears it, and any other token is one of the further
spellings or the exact name of a key (`Key.resolve?`). In the other direction a
code is shown by the first of its names, or by its number if it has none
(`Key.nameOf`).
-/

namespace KeyMacro.Key

/-- The key with a given name or further spelling. -/
def ofName? (name : String) : Option KeyCode :=
  match spellings.lookup name with
  | some code => some code
  | none => (names.lookup name).filter (· ≠ noKey)

/-- The key that a script token names. -/
def resolve? : List Char → Option KeyCode
  | [c] => (ofChar? c).or (ofName? (String.ofList [c]))
  | token => ofName? (String.ofList token)

/-- The number of a code without a name: hexadecimal, of at least two
    characters, a minus sign among them. -/
def number (code : Int) : List Char :=
  "0x".toList ++
    (if code < 0 then '-' :: Numeral.hexPadded 1 code.natAbs else Numeral.hexPadded 2 code.natAbs)

/-- The name by which a code is shown. -/
def nameOf (code : Int) : List Char :=
  match names.find? fun entry => (entry.2.val : Int) = code with
  | some (name, _) => name.toList
  | none => number code

end KeyMacro.Key
