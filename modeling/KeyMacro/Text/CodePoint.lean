import KeyMacro.Text.Blank
import KeyMacro.Text.Line

/-!
# Strings

A text held in memory is a *string*: a row of code points. Most of them are
characters. The others are the surrogates, two of which stand for one character
elsewhere; no encoding has them, so that a text that is read from a file has
characters only.

A surrogate is neither a blank nor an end of a line, and it is a part of no word. This
is also true of the replacement character, which surrogates count as wherever
characters are told apart by their kind (`CodePoint.kind`).

* `pointLines`: the lines of a string.
* `pointsAfterFirst`: what follows the first field.
-/

namespace KeyMacro.Text

/-- What a string is made of. -/
inductive CodePoint where
  | char (c : Char)
  /-- A surrogate, by its place among them. -/
  | surrogate (index : Fin 2048)
  deriving DecidableEq, Repr

namespace CodePoint

/-- The number of the first surrogate. -/
def firstSurrogate : Nat := 0xD800

/-- The character of the same kind. -/
def kind : CodePoint → Char
  | char c => c
  | surrogate _ => '\ufffd'

end CodePoint

/-- A text as a string. -/
def points (cs : List Char) : List CodePoint := cs.map .char

/-- The characters of the kinds of the code points of a string. -/
def kinds (ps : List CodePoint) : List Char := ps.map CodePoint.kind

/-- Turns each carriage return, together with a newline that follows it, into one
    newline. -/
def unifyPoints : List CodePoint → List CodePoint
  | .char '\r' :: .char '\n' :: ps => .char '\n' :: unifyPoints ps
  | p :: ps => (if p = .char '\r' then .char '\n' else p) :: unifyPoints ps
  | [] => []

/-- The lines of a string. -/
def pointLines (ps : List CodePoint) : List (List CodePoint) :=
  cutAt (fun p => isBoundary p.kind) (unifyPoints ps)

/-- A line without the newlines and carriage returns at its end. -/
def chompPoints (line : List CodePoint) : List CodePoint :=
  (line.reverse.dropWhile fun p => isLineEnd p.kind).reverse

/-- What follows the first field and the blanks after it, as it stands. -/
def pointsAfterFirst (ps : List CodePoint) : List CodePoint :=
  ((ps.dropWhile fun p => isBlank p.kind).dropWhile fun p => isInk p.kind).dropWhile fun p =>
    isBlank p.kind

end KeyMacro.Text
