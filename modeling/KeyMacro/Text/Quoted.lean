import KeyMacro.Text.Numeral
import KeyMacro.Text.Printable

/-!
# Quoted texts

Messages show paths and arguments between quotes, and in them every character
that cannot be seen, or would be taken for a quote or for a backslash that
escapes, is escaped by a backslash.
-/

namespace KeyMacro.Text

/-- A character between quotes. -/
def quoteChar (quote c : Char) : List Char :=
  if c = quote ∨ c = '\\' then ['\\', c]
  else if c = '\n' then ['\\', 'n']
  else if c = '\r' then ['\\', 'r']
  else if c = '\t' then ['\\', 't']
  else if isPrintable c then [c]
  else if c.toNat < 0x100 then '\\' :: 'x' :: Numeral.hexFixed 2 c.toNat
  else if c.toNat < 0x10000 then '\\' :: 'u' :: Numeral.hexFixed 4 c.toNat
  else '\\' :: 'U' :: Numeral.hexFixed 8 c.toNat

/-- A text between quotes: single ones, unless they would have to be escaped and
    double ones would not. -/
def quoted (cs : List Char) : List Char :=
  let quote := if '\'' ∈ cs ∧ '"' ∉ cs then '"' else '\''
  quote :: cs.flatMap (quoteChar quote) ++ [quote]

end KeyMacro.Text
