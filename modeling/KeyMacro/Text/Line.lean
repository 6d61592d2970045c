/-!
# Lines

A text is cut into lines in two ways. A text held in memory is cut at every
line boundary of Unicode (`lines`), a file only at its newlines (`fileLines`).
Either way a carriage return, alone or before a newline, is a newline
(`unifyNewlines`), and there is no empty line after the last newline.
-/

namespace KeyMacro.Text

/-- Turns each carriage return, together with a newline that follows it, into
    one newline. -/
def unifyNewlines : List Char → List Char
  | '\r' :: '\n' :: cs => '\n' :: unifyNewlines cs
  | c :: cs => (if c = '\r' then '\n' else c) :: unifyNewlines cs
  | [] => []

variable {α : Type}

/-- Puts a character in front of the first line. -/
def extendFirst (c : α) : List (List α) → List (List α)
  | [] => [[c]]
  | line :: rest => (c :: line) :: rest

/-- Cuts a text at the characters that end a line, which belong to no line. -/
def cutAt (endsLine : α → Bool) : List α → List (List α)
  | [] => []
  | c :: cs => if endsLine c then [] :: cutAt endsLine cs else extendFirst c (cutAt endsLine cs)

/-- The line boundaries of Unicode, but for the carriage return: newline, line
    tabulation, form feed, the separators U+001C to U+001E, next line, and the
    line and paragraph separators. -/
def isBoundary (c : Char) : Bool :=
  let n := c.toNat
  (0x0A ≤ n && n ≤ 0x0C) || (0x1C ≤ n && n ≤ 0x1E) || n == 0x85 || n == 0x2028 || n == 0x2029

/-- The lines of a text held in memory. -/
def lines (cs : List Char) : List (List Char) := cutAt isBoundary (unifyNewlines cs)

/-- The lines of the text of a file. -/
def fileLines (cs : List Char) : List (List Char) := cutAt (· == '\n') (unifyNewlines cs)

/-- The characters that may be left at the end of a line handed over whole. -/
def isLineEnd (c : Char) : Bool := c == '\r' || c == '\n'

/-- A line without the newlines and carriage returns at its end. -/
def chomp (line : List Char) : List Char := (line.reverse.dropWhile isLineEnd).reverse

end KeyMacro.Text
