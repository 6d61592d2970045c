import KeyMacro.File.Access
import KeyMacro.Listing
import KeyMacro.Profile.Reader

/-!
# Failures

Why a command cannot do its work on a file. A failure says which file it is
about: a command that reads one file and writes another may fail at either.
-/

namespace KeyMacro.Command

/-- Why a command fails. -/
inductive Failure where
  /-- A file cannot be read or written. -/
  | access (path : Path) (error : FileError)
  /-- A file is not a text. -/
  | notText (fault : Utf8.Fault)
  /-- A file is not a profile with a payload. -/
  | notProfile (path : Path) (error : Profile.ReadError)
  /-- A payload has no listing. -/
  | notPayload (error : Listing.Error)
  deriving DecidableEq, Repr

/-- The wording of a failure. -/
def Failure.message : Failure → String
  | access path error => error.message path.text
  | notText fault => fault.message
  | notProfile path error => error.message path.text
  | notPayload error => error.message

end KeyMacro.Command
