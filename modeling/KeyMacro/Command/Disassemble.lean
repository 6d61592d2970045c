import KeyMacro.Command.Failure
import KeyMacro.Command.Host
import KeyMacro.Text.Line

/-!
# Disassembling

The payload to be listed comes from a profile or from a text file that holds
nothing else. The suffix of the path tells which (`isProfile`); text files have
their line ends made uniform.
-/

namespace KeyMacro.Command

/-- The suffix of profiles. -/
def profileSuffix : List Char := ".xml".toList

/-- Whether a path is that of a profile, in any letter case. -/
def isProfile (path : Path) : Bool := path.suffix.map Char.toLower = profileSuffix

/-- The payload that the bytes of the file at a path hold. -/
def payloadIn (host : Host) (path : Path) (bytes : List UInt8) : Except Failure (List Char) :=
  if isProfile path then (Profile.payload? host.wording bytes).mapError (.notProfile path)
  else ((Utf8.decode bytes).map Text.unifyNewlines).mapError .notText

variable {m : Type → Type} [Monad m] (files : Files m) (host : Host)

/-- The payload that the file at a path holds. -/
def loadPayload (path : Path) : m (Except Failure (List Char)) := do
  match ← files.read path with
  | .error e => return .error (.access path e)
  | .ok bytes => return payloadIn host path bytes

/-- The listing of the payload that the file at a path holds. -/
def disassemble (path : Path) : m (Except Failure (List (List Char))) := do
  match ← loadPayload files host path with
  | .error e => return .error e
  | .ok payload => return (Listing.disassemble payload).mapError .notPayload

end KeyMacro.Command
