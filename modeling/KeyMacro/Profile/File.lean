import KeyMacro.File.Access
import KeyMacro.Profile.Reader

/-!
# Profile files

The profile of a macro is *saved* at a path, and the payload of a profile is *loaded*
from one, whatever the path is called. A macro need not come from a script here. So
its default delay may be any integer, even one that has too many digits to be
written; then the file is left alone.
-/

namespace KeyMacro.Profile

/-- Why a profile is not saved. -/
inductive SaveError where
  /-- The default delay has too many digits. -/
  | longDelay
  /-- The file cannot be written. -/
  | access (error : FileError)
  deriving DecidableEq, Repr

/-- Why no payload is loaded. -/
inductive LoadError where
  /-- The file cannot be read. -/
  | access (error : FileError)
  /-- The file is no profile with a payload. -/
  | content (error : ReadError)
  deriving DecidableEq, Repr

/-- The wording of a `LoadError` about a file. -/
def LoadError.message (file : List Char) : LoadError → String
  | access error => error.message file
  | content error => error.message file

/-- The bytes of the profile of a macro, if its default delay can be written. -/
def bytes? (made : Macro) : Option (List UInt8) :=
  if Numeral.digitCount made.defaultDelay ≤ Numeral.maxDigits then some (bytes made) else none

/-- The bytes of the profile of a macro with a string as its name. -/
def stringBytes? (made : StringMacro) : Option (List UInt8) :=
  if Numeral.digitCount made.defaultDelay ≤ Numeral.maxDigits then
    some (Utf8.encode (stringDocument made))
  else none

variable {m : Type → Type} [Monad m] (files : Files m)

/-- Saves the profile of a macro at a path. -/
def save (path : Path) (made : Macro) : m (Except SaveError Unit) := do
  match bytes? made with
  | none => return .error .longDelay
  | some content => return (← files.write path content).mapError .access

/-- Loads the payload of the profile at a path. -/
def load (wording : List UInt8 → String) (path : Path) : m (Except LoadError (List Char)) := do
  match ← files.read path with
  | .error e => return .error (.access e)
  | .ok content => return (payload? wording content).mapError .content

end KeyMacro.Profile
