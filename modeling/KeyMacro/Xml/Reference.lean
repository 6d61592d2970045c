import KeyMacro.Xml.Name

/-!
# References

A reference begins with an ampersand and ends with a semicolon. Between them it
gives either the number of a character or the name of an *entity*, which is a
text that the document declares. Five entities need no declaration, as they are
characters that cannot always stand for themselves (`predefined?`).

* `reference?_suffix`: reading a reference leaves less text.
-/

namespace KeyMacro.Xml

/-- The value of a number to a base, continued by another digit. There is no
    character with a number above U+10FFFF. -/
def appendDigit? (base : Nat) (digit? : Char → Option Nat) (n : Nat) (d : Char) : Option Nat := do
  let value := base * n + (← digit? d)
  if value ≤ 0x10FFFF then some value else none

/-- The value of a row of digits to a base, which must not be empty. -/
def digitsValue? (base : Nat) (digit? : Char → Option Nat) (ds : List Char) : Option Nat :=
  if ds = [] then none else ds.foldlM (appendDigit? base digit?) 0

/-- The value of a decimal digit. -/
def decimalDigit? (c : Char) : Option Nat :=
  if c.isDigit then some (c.toNat - '0'.toNat) else none

/-- The value of a hexadecimal digit of either case. -/
def hexDigit? (c : Char) : Option Nat :=
  if c.isDigit then some (c.toNat - '0'.toNat)
  else if 'a' ≤ c.toLower ∧ c.toLower ≤ 'f' then some (c.toLower.toNat - 'a'.toNat + 10)
  else none

/-- The character of a number, if a document may hold it. -/
def charOfNumber? (n : Nat) : Option Char :=
  let c := Char.ofNat n
  if c.toNat = n ∧ isChar c then some c else none

/-- What a reference gives. -/
inductive Reference where
  /-- A character, by its number. -/
  | char (c : Char)
  /-- An entity, by its name. -/
  | entity (name : List Char)
  deriving DecidableEq, Repr

/-- The characters that are entities of every document. -/
def predefined? (name : List Char) : Option Char :=
  match String.ofList name with
  | "amp" => some '&'
  | "lt" => some '<'
  | "gt" => some '>'
  | "quot" => some '"'
  | "apos" => some '\''
  | _ => none

/-- The reference with a text between its ampersand and its semicolon. -/
def Reference.ofText? : List Char → Option Reference
  | '#' :: 'x' :: ds => ((digitsValue? 16 hexDigit? ds).bind charOfNumber?).map char
  | '#' :: ds => ((digitsValue? 10 decimalDigit? ds).bind charOfNumber?).map char
  | name => if isName name then some (entity name) else none

/-- Reads a reference, behind its ampersand. -/
def reference? (cs : List Char) : Option (Reference × List Char) :=
  match splitAt? [';'] cs with
  | none => none
  | some (body, rest) => (Reference.ofText? body).map fun r => (r, rest)

theorem reference?_suffix {cs rest : List Char} {r : Reference}
    (h : reference? cs = some (r, rest)) : rest <:+ cs := by
  rw [reference?] at h
  split at h
  · simp at h
  · next hs =>
    obtain ⟨_, _, he⟩ := Option.map_eq_some_iff.1 h
    simp only [Prod.mk.injEq] at he
    exact he.2 ▸ splitAt?_suffix hs

end KeyMacro.Xml
