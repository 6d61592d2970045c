import KeyMacro.Text.LetterCase.Table

/-!
# Letter case

A text is put in small letters (`lower`) by putting each capital in it in its small
letters. Which these are does not depend on what stands around the capital, apart
from that of sigma, which is another one at the end of a word.
-/

namespace KeyMacro.Text

/-- Whether a text begins with a letter that has a case, after characters that are
    passed over. -/
def startsWithLetter (cs : List Char) : Bool :=
  match cs.dropWhile fun c => inRanges passedOver c.toNat with
  | c :: _ => inRanges casedLetters c.toNat
  | [] => false

/-- Whether a word ends between two texts. The first one is given backwards. -/
def endsWord (before after : List Char) : Bool :=
  startsWithLetter before && !startsWithLetter after

/-- Whether a capital is in a row of capitals. -/
def CapitalRun.contains (row : CapitalRun) (n : Nat) : Bool :=
  row.first ≤ n && n ≤ row.last && (n - row.first) % row.step == 0

/-- The small letter of a character that is not in ASCII, or else the character
    itself. -/
def smallLetter (c : Char) : Char :=
  match capitals.find? (·.contains c.toNat) with
  | some row => Char.ofNat (row.small + (c.toNat - row.first))
  | none => c

/-- A character in small letters, given what stands before it, backwards, and what
    stands after it. -/
def lowerChar (before : List Char) (c : Char) (after : List Char) : List Char :=
  if c.toNat < 0x80 then [c.toLower]
  else if c = 'Σ' then [if endsWord before after then 'ς' else 'σ']
  else if c = 'İ' then ['i', '\u0307']
  else [smallLetter c]

/-- A text in small letters, given what stands before it, backwards. -/
def lowerAfter (before : List Char) : List Char → List Char
  | [] => []
  | c :: after => lowerChar before c after ++ lowerAfter (c :: before) after

/-- A text in small letters. -/
def lower (cs : List Char) : List Char := lowerAfter [] cs

end KeyMacro.Text
