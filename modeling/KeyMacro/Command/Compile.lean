import KeyMacro.Command.Disassemble
import KeyMacro.Profile.Document
import KeyMacro.Script.File
import KeyMacro.Text.LetterCase

/-!
# Compiling

Scripts are compiled one after the other, and each profile is written beside its
script, under the name of the script with the suffix of profiles, or else is
printed. Whatever happens to one script, the next one is gone on with
(`compileAll`); only a path that does not name anything breaks off the work, for
there is no name to give its profile.

A script is read and compiled before anything is written, so that a script that
fails in this leaves no trace. But the line about its profile comes behind the
profile. If the standard output does not take the line, the input counts as failed,
though the profile is there (`Outcome.unreported`).

An input whose profile would have the name of the input itself, in some letter case,
is taken for a profile and left alone.
-/

namespace KeyMacro.Command

/-- What becomes of one input. -/
inductive Outcome where
  /-- It is left alone, since it is a profile by its name. -/
  | skipped
  /-- Its profile has been written. -/
  | written (made : Macro) (output : Path)
  /-- Its profile has been written, but could not be reported. -/
  | unreported (made : Macro) (output : Path) (reason : String)
  /-- Its profile is to be printed. -/
  | printed (made : Macro)
  /-- It has no profile. -/
  | failed (cause : Failure)
  deriving DecidableEq, Repr

/-- What there is to say about one input. -/
structure Result where
  input : Path
  /-- The notes on the script. -/
  notes : List Note
  outcome : Outcome
  deriving DecidableEq, Repr

/-- The line that reports the profile of an input. -/
def compiledLine (input output : Path) (made : Macro) : String :=
  s!"Compiled {String.ofList input.text} to {String.ofList output.text} " ++
    s!"({made.events.length} events, macro '{String.ofList made.name}')\n"

/-- What becomes of an input whose profile has been written. -/
def report (host : Host) (input output : Path) (made : Macro) : Outcome :=
  match host.refusal? (compiledLine input output made) with
  | none => .written made output
  | some reason => .unreported made output reason

variable {m : Type → Type} [Monad m] (files : Files m) (host : Host) (print : Bool)

/-- Compiles one script, given the path of its profile. -/
def compileScript (input output : Path) : m Result := do
  match ← files.read input with
  | .error e => return { input, notes := [], outcome := .failed (.access input e) }
  | .ok bytes =>
    match Script.compileFile bytes with
    | (notes, .error fault) => return { input, notes, outcome := .failed (.notText fault) }
    | (scriptNotes, .ok made) =>
      let notes := scriptNotes ++ Payload.notes made.events
      if print then return { input, notes, outcome := .printed made }
      else
        match ← files.write output (Profile.bytes made) with
        | .error e => return { input, notes, outcome := .failed (.access output e) }
        | .ok () => return { input, notes, outcome := report host input output made }

/-- Whether two paths are written alike, apart from the letter case. -/
def differOnlyInCase (path other : Path) : Bool := Text.lower path.text = Text.lower other.text

/-- Compiles one input, given the path of its profile, unless this is the path of
    the input itself. -/
def compileInput (input output : Path) : m Result :=
  if differOnlyInCase output input then return { input, notes := [], outcome := .skipped }
  else compileScript files host print input output

/-- Compiles inputs, up to the first path that does not name anything, which is
    returned along with the results. -/
def compileAll : (inputs : List Path) → m (List Result × Option Path)
  | [] => return ([], none)
  | input :: rest =>
    match input.withSuffix? profileSuffix with
    | none => return ([], some input)
    | some output => do
      let result ← compileInput files host print input output
      let others ← compileAll rest
      return (result :: others.1, others.2)

/-! ### What is said -/

/-- What an input adds to the standard output. -/
def Result.out (result : Result) : String :=
  match result.outcome with
  | .written made output => compiledLine result.input output made
  | .unreported _ _ _ => ""
  | .printed made => String.ofList (Profile.document (Profile.ofMacro made)) ++ "\n"
  | .skipped => ""
  | .failed _ => ""

/-- What an input adds to the standard error, apart from its notes. -/
def Result.complaint (result : Result) : String :=
  let input := String.ofList result.input.text
  match result.outcome with
  | .skipped =>
    s!"skipping argument {input}, already has {String.ofList profileSuffix} extension\n"
  | .failed cause => s!"error in {input}: {cause.message}\n"
  | .unreported _ _ reason => s!"error in {input}: {reason}\n"
  | .written _ _ => ""
  | .printed _ => ""

/-- Whether an input has no profile though it should have one, or none that is reported. -/
def Result.isFailure (result : Result) : Bool :=
  match result.outcome with
  | .failed _ => true
  | .unreported _ _ _ => true
  | _ => false

end KeyMacro.Command
