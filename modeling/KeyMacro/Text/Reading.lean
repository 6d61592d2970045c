import KeyMacro.Text.Line
import KeyMacro.Text.Utf8

/-!
# Reading a file line by line

A script file is read in chunks of bytes, and each chunk is decoded as it comes.
Bytes of a character that the end of the chunk cuts off wait for the next one.
A fault ends the reading: the lines that were complete with the chunks before
have been read by then, the others have not, and the position of the fault
counts from the first byte that was still waiting when its chunk came.
-/

namespace KeyMacro.Text

/-- What reading a file gives. -/
structure Reading where
  /-- The lines that were read. -/
  lines : List (List Char)
  /-- What ended the reading before the end of the file. -/
  fault : Option Utf8.Fault
  deriving DecidableEq, Repr

/-- The number of bytes of a chunk. -/
def chunkSize : Nat := 8192

/-- Whether bytes that begin with no character may still become one with those
    of the next chunk. The first two bytes of a surrogate wait as well, though
    nothing makes them a character. -/
def mayContinue (left : List UInt8) : Bool :=
  match Utf8.Fault.at? 0 left with
  | none => true
  | some fault =>
    fault.cause = .unexpectedEnd ||
      (match left with
        | [a, b] => a = 0xED && Utf8.isTail b
        | _ => false)

/-- The lines of a text that end in it. A carriage return at the end of the text
    does not end its line yet. -/
def completeLines (cs : List Char) : List (List Char) :=
  let kept := if cs.getLast? = some '\r' then cs.dropLast else cs
  let whole := (unifyNewlines kept).reverse.dropWhile (· != '\n')
  cutAt (· == '\n') whole.reverse

/-- Reads the rest of a file, given the text already decoded and the bytes that
    wait. -/
def readFrom (done : List Char) (waiting bytes : List UInt8) : Reading :=
  if _h : bytes = [] then
    match Utf8.Fault.at? 0 waiting with
    | none => { lines := fileLines done, fault := none }
    | some fault => { lines := completeLines done, fault := some fault }
  else
    let data := waiting ++ bytes.take chunkSize
    let (cs, left) := Utf8.decodePrefix data
    if mayContinue left then readFrom (done ++ cs) left (bytes.drop chunkSize)
    else
      { lines := completeLines done, fault := Utf8.Fault.at? (data.length - left.length) left }
termination_by bytes.length
decreasing_by
  have := List.length_pos_iff.2 _h
  simp only [List.length_drop, chunkSize]
  omega

/-- Reads a file. -/
def read (bytes : List UInt8) : Reading := readFrom [] [] bytes

end KeyMacro.Text
