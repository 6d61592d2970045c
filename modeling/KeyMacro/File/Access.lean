import KeyMacro.File.Path
import KeyMacro.Text.Quoted

/-!
# Access to files

Commands read and write whole files, and only through the two operations of
`Files`. Either may fail, and why it did is part of what a command reports.
-/

namespace KeyMacro

/-- Why a file cannot be read or written. -/
inductive FileError where
  | noSuchFile
  | notDirectory
  | isDirectory
  | nameTooLong
  /-- No file has a name with a NUL character. -/
  | nulInName
  /-- A failure with the system's own number and wording. -/
  | other (number : Nat) (wording : String)
  deriving DecidableEq, Repr

/-- The wording of a failure at a path with some text. -/
def FileError.message (path : List Char) (error : FileError) : String :=
  let failure (number : Nat) (wording : String) : String :=
    s!"[Errno {number}] {wording}: {String.ofList (Text.quoted path)}"
  match error with
  | noSuchFile => failure 2 "No such file or directory"
  | notDirectory => failure 20 "Not a directory"
  | isDirectory => failure 21 "Is a directory"
  | nameTooLong => failure 36 "File name too long"
  | nulInName => "embedded null byte"
  | other number wording => failure number wording

/-- The files that a command works on. -/
structure Files (m : Type → Type) where
  /-- Reads a file. -/
  read : Path → m (Except FileError (List UInt8))
  /-- Writes a file, in place of what it held. -/
  write : Path → List UInt8 → m (Except FileError Unit)

end KeyMacro
