import KeyMacro.Command.Compile
import KeyMacro.Command.Request

/-!
# Running the program

A run of the program carries out the request of its arguments on some files. It
prints text on the standard output and the standard error and ends with a
status: 0 if all went well, 1 if something did not, 2 if the arguments are
wrong. Two things make it end without a status, a path that does not name
anything and a profile in an encoding that there is not.
-/

namespace KeyMacro.Command

/-- The least grave of the messages that are shown. -/
inductive Level where
  | debug
  | warning
  | error
  deriving DecidableEq, Repr

/-- The level of a loudness. Being verbose outdoes being quiet. -/
def Loudness.level (loudness : Loudness) : Level :=
  if loudness.verbose then .debug else if loudness.quiet then .error else .warning

/-- Whether notes are shown at a level. -/
def Level.showsNotes : Level → Bool
  | debug => true
  | warning => true
  | error => false

/-- How a run ends. -/
inductive Ending where
  | status (code : Nat)
  /-- A path does not name anything. -/
  | nameless (path : Path)
  /-- A profile declares an encoding that there is not. -/
  | undecodable (error : Xml.Encoding.Error)
  deriving DecidableEq, Repr

/-- The wording of a breakdown at a path. -/
def namelessMessage (path : Path) : String :=
  s!"PosixPath({String.ofList (Text.quoted path.text)}) has an empty name"

/-- What a run of the program leaves behind, its files apart. -/
structure Run where
  ending : Ending
  out : String := ""
  err : String := ""
  /-- The level that has been set. -/
  level : Level := .warning
  deriving DecidableEq, Repr

/-- The lines of notes. -/
def noteLines (notes : List Note) : String :=
  String.join (notes.map fun note => s!"WARNING: {note.message}\n")

/-- What an input adds to the standard error at a level. -/
def Result.err (level : Level) (result : Result) : String :=
  (if level.showsNotes then noteLines result.notes else "") ++ result.complaint

/-- What the results of a batch leave behind. -/
def Run.ofResults (level : Level) (results : List Result) (nameless : Option Path) : Run where
  ending :=
    match nameless with
    | some path => .nameless path
    | none => .status (if results.any Result.isFailure then 1 else 0)
  out := String.join (results.map Result.out)
  err := String.join (results.map (Result.err level))
  level := level

/-- The fault of an encoding that a failure comes from, if the encoding is not one
    of text at all. -/
def Failure.undecodable? : Failure → Option Xml.Encoding.Error
  | notProfile _ (.encoding .multiByte) => none
  | notProfile _ (.encoding error) => some error
  | _ => none

/-- What a listing leaves behind. -/
def Run.ofListing (level : Level) : Except Failure (List (List Char)) → Run
  | .ok lines =>
    { ending := .status 0, out := String.join (lines.map fun l => String.ofList l ++ "\n"), level }
  | .error failure =>
    match failure.undecodable? with
    | some error => { ending := .undecodable error, level }
    | none => { ending := .status 1, err := s!"Error: {failure.message}\n", level }

variable {m : Type → Type} [Monad m] (files : Files m) (host : Host)

/-- Carries out a request. -/
def carryOut : Request → m Run
  | .help page => return { ending := .status 0, out := page.help }
  | .nothing => return { ending := .status 1, out := Page.main.help }
  | .misuse page error =>
    return { ending := .status 2, err := s!"{page.usage}{page.program}: error: {error.message}\n" }
  | .compile loudness print inputs => do
    let (results, nameless) ← compileAll files host print (inputs.map Path.ofText)
    return Run.ofResults loudness.level results nameless
  | .disassemble loudness input => do
    return Run.ofListing loudness.level (← disassemble files host (Path.ofText input))

/-- Runs the program with some arguments. -/
def run (args : List (List Char)) : m Run := carryOut files host (Request.ofArgs args)

end KeyMacro.Command
