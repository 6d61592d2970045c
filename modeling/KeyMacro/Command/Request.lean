import KeyMacro.Command.Switch

/-!
# Requests

What the arguments of the program ask for is a *request*. Switches of the
program come first, then a command, and behind it are the switches of the
command and what it is to work on, in any order; but what it is to work on
stands in one row, and what comes later is not recognized. Asking for help is
heeded as soon as it is read, and so is most of what is wrong.
-/

namespace KeyMacro.Command

/-- How much is said. -/
structure Loudness where
  verbose : Bool := false
  quiet : Bool := false
  deriving DecidableEq, Repr

/-- What the arguments ask for. -/
inductive Request where
  /-- The text of a page, as asked for. -/
  | help (page : Page)
  /-- Nothing, which the text of the main page answers. -/
  | nothing
  /-- Something that is wrong. -/
  | misuse (page : Page) (error : UsageError)
  | compile (loudness : Loudness) (print : Bool) (inputs : List (List Char))
  | disassemble (loudness : Loudness) (input : List Char)
  deriving DecidableEq, Repr

/-- How far the row of what a command is to work on has come. -/
inductive Row where
  | awaited
  | begun
  | ended
  deriving DecidableEq, Repr

/-- What a command has been given so far. -/
structure Given where
  switches : List Switch := []
  values : List (List Char) := []
  row : Row := .awaited
  /-- The arguments that are not recognized. -/
  rest : List (List Char) := []
  deriving DecidableEq, Repr

/-- Takes the first switches that are set, up to a call for help. -/
def takeSwitches (page : Page) (given : List Switch) : List Switch → Except Request (List Switch)
  | [] => .ok given
  | .help :: _ => .error (.help page)
  | switch :: more => takeSwitches page (given ++ [switch]) more

/-- Takes a hyphenated argument. -/
def takeSwitch (page : Page) (given : Given) (arg : Argument) : Except Request Given := do
  let (switches, left) ← (page.expand arg).mapError (.misuse page)
  let all ← takeSwitches page given.switches switches
  return { given with switches := all, rest := given.rest ++ left }

/-- Takes the next argument of a command that works on one thing or on several. -/
def takeArgument (page : Page) (several : Bool) (given : Given) (arg : Argument) :
    Except Request Given :=
  match arg, given.row with
  | .plain value, .awaited => .ok { given with values := [value], row := .begun }
  | .plain value, .begun =>
    if several then .ok { given with values := given.values ++ [value] }
    else .ok { given with row := .ended, rest := given.rest ++ [value] }
  | .plain value, .ended => .ok { given with rest := given.rest ++ [value] }
  | .divider, .ended => .ok { given with rest := given.rest ++ [['-', '-']] }
  | .divider, _ => .ok given
  | _, .begun => takeSwitch page { given with row := .ended } arg
  | _, _ => takeSwitch page given arg

/-- What a command is given by its arguments. There must be something to work
    on. -/
def takeAll (page : Page) (several : Bool) (what : String) (args : List (List Char)) :
    Except Request Given := do
  let arguments ← (page.classifyAll args).mapError (.misuse page)
  let given ← arguments.foldlM (takeArgument page several) {}
  if given.row = .awaited then throw (.misuse page (.missing what))
  return given

/-- The loudness that switches ask for. -/
def Loudness.ofSwitches (switches : List Switch) : Loudness where
  verbose := switches.contains .verbose
  quiet := switches.contains .quiet

/-- The request of a command, given what stands before it. -/
def commandRequest (before : Given) (command : List Char) (args : List (List Char)) :
    Except Request Request := do
  let loudness := Loudness.ofSwitches before.switches
  let recognized (given : Given) : Except Request Unit :=
    match before.rest ++ given.rest with
    | [] => .ok ()
    | rest => throw (.misuse .main (.unrecognized rest))
  match String.ofList command with
  | "compile" =>
    let given ← takeAll .compile true "inputs" args
    recognized given
    return .compile loudness (given.switches.contains .stdout) given.values
  | "disassemble" =>
    let given ← takeAll .disassemble false "input" args
    recognized given
    return .disassemble loudness (given.values.headD [])
  | _ => throw (.misuse .main (.noCommand command))

/-- The request of the arguments that are left, given what they are to the main
    page and what stands before them. -/
def mainRequest (before : Given) : List (List Char) → List Argument → Except Request Request
  | command :: args, .plain _ :: _ => commandRequest before command args
  | [divider], [.divider] => throw (.misuse .main (.unrecognized (before.rest ++ [divider])))
  | command :: args, .divider :: _ => commandRequest before command args
  | _ :: args, argument :: arguments => do
    mainRequest (← takeSwitch .main before argument) args arguments
  | _, _ => if before.rest = [] then .ok .nothing
    else throw (.misuse .main (.unrecognized before.rest))

/-- The request of the arguments of the program. -/
def Request.ofArgs (args : List (List Char)) : Request :=
  let read : Except Request Request := do
    let arguments ← (Page.main.classifyAll args).mapError (.misuse .main)
    mainRequest {} args arguments
  match read with
  | .ok request => request
  | .error request => request

end KeyMacro.Command
