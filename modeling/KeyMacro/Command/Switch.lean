import KeyMacro.Command.Page
import KeyMacro.Text.Digit
import KeyMacro.Text.Quoted

/-!
# Switches

An argument that begins with a hyphen sets a *switch* of its page, or several:
the long spelling of a switch may be cut short as long as it cannot be confused
with another, and switches of one letter may be written together behind one
hyphen, the second one also behind an equals sign. No switch takes a value, so
one that is given a value is an error, as is a spelling that is short for more
than one switch.

* `Page.classify`: what an argument is to a page, by its spelling alone;
* `Page.expand`: the switches that a hyphenated argument sets.
-/

namespace KeyMacro.Command

/-- Something that can be switched on. -/
inductive Switch where
  | help
  | verbose
  | quiet
  | stdout
  deriving DecidableEq, Repr

/-- The spellings of a switch. -/
def Switch.spellings : Switch → List String
  | help => ["-h", "--help"]
  | verbose => ["--verbose", "-v"]
  | quiet => ["--quiet", "-q"]
  | stdout => ["--stdout"]

/-- The switches of a page. -/
def Page.switches : Page → List Switch
  | main => [.help, .verbose, .quiet]
  | compile => [.help, .stdout]
  | disassemble => [.help]

/-- The spellings of a page, each with its switch. -/
def Page.spellings (page : Page) : List (List Char × Switch) :=
  page.switches.flatMap fun switch => switch.spellings.map fun spelling =>
    (spelling.toList, switch)

/-- What is wrong with the arguments of a page. -/
inductive UsageError where
  /-- A spelling is short for several switches, whose spellings these are. -/
  | ambiguous (arg : List Char) (spellings : List (List Char))
  /-- A switch is given a value. -/
  | ignoredValue (switch : Switch) (value : List Char)
  /-- There is no such command. -/
  | noCommand (arg : List Char)
  /-- Something that must be given is not. -/
  | missing (what : String)
  /-- Nothing is known of these arguments. -/
  | unrecognized (args : List (List Char))
  deriving DecidableEq, Repr

/-- The wording of a `UsageError`. -/
def UsageError.message : UsageError → String
  | ambiguous arg spellings =>
    s!"ambiguous option: {String.ofList arg} could match " ++
      ", ".intercalate (spellings.map String.ofList)
  | ignoredValue switch value =>
    "argument " ++ "/".intercalate switch.spellings ++ ": ignored explicit argument " ++
      String.ofList (Text.quoted value)
  | noCommand arg =>
    s!"argument command: invalid choice: {String.ofList (Text.quoted arg)} " ++
      "(choose from 'compile', 'disassemble')"
  | missing what => s!"the following arguments are required: {what}"
  | unrecognized args => "unrecognized arguments: " ++ " ".intercalate (args.map String.ofList)

/-- What an argument is to a page. -/
inductive Argument where
  /-- Something to work on. -/
  | plain (arg : List Char)
  /-- The divider, after which all arguments are plain. -/
  | divider
  /-- A switch, with a value if there is one. -/
  | single (switch : Switch) (value : Option (List Char))
  /-- A switch of one letter, and what is written together with it. -/
  | joined (switch : Switch) (more : List Char)
  /-- A hyphenated argument that sets no switch of the page. -/
  | unknown (arg : List Char)
  deriving DecidableEq, Repr

/-- Whether a text is a number without a sign: digits, or digits behind a point
    that others may come before. -/
def isNumber (cs : List Char) : Bool :=
  match cs.dropWhile Text.isDigit with
  | [] => cs ≠ []
  | '.' :: fraction => fraction ≠ [] && fraction.all Text.isDigit
  | _ => false

/-- Whether a text is a negative number, which is no switch. The number may end
    its line. -/
def isNegativeNumber : List Char → Bool
  | '-' :: cs => isNumber (if cs.getLast? = some '\n' then cs.dropLast else cs)
  | _ => false

/-- What comes before the first equals sign of an argument, and what comes after
    it, if there is one. -/
def splitValue (arg : List Char) : List Char × Option (List Char) :=
  match arg.dropWhile (· ≠ '=') with
  | [] => (arg, none)
  | _ :: value => (arg.takeWhile (· ≠ '='), some value)

namespace Page

variable (page : Page)

/-- What an argument with two leading hyphens may be short for. -/
def completions (arg : List Char) : List (List Char × Switch) :=
  page.spellings.filter fun entry => (splitValue arg).1.isPrefixOf entry.1

/-- What a hyphenated argument is that is no spelling of a switch, nor one with
    a value. -/
def classifyOther (arg : List Char) : Except UsageError Argument :=
  let unmatched : Argument :=
    if isNegativeNumber arg || arg.contains ' ' then .plain arg else .unknown arg
  match arg with
  | '-' :: '-' :: _ =>
    match page.completions arg with
    | [] => .ok unmatched
    | [(_, switch)] => .ok (.single switch (splitValue arg).2)
    | several => .error (.ambiguous arg (several.map (·.1)))
  | '-' :: letter :: more =>
    match page.spellings.lookup ['-', letter] with
    | some switch => .ok (.joined switch more)
    | none => .ok unmatched
  | _ => .ok unmatched

/-- A switch with something behind an equals sign, which for a switch of one
    letter is what is written together with it. -/
def withValue (spelling : List Char) (switch : Switch) (value : List Char) : Argument :=
  if spelling.length = 2 ∧ value ≠ [] then .joined switch value else .single switch (some value)

/-- What an argument is to a page. -/
def classify (arg : List Char) : Except UsageError Argument :=
  match arg with
  | '-' :: _ :: _ =>
    match page.spellings.lookup arg with
    | some switch => .ok (.single switch none)
    | none =>
      match splitValue arg with
      | (spelling, some value) =>
        match page.spellings.lookup spelling with
        | some switch => .ok (withValue spelling switch value)
        | none => page.classifyOther arg
      | (_, none) => page.classifyOther arg
  | _ => .ok (.plain arg)

/-- What arguments are to a page. -/
def classifyAll : List (List Char) → Except UsageError (List Argument)
  | [] => .ok []
  | arg :: rest =>
    if arg = ['-', '-'] then .ok (.divider :: rest.map .plain)
    else do return (← page.classify arg) :: (← classifyAll rest)

/-- The switches written together behind one hyphen, from the second on. A letter
    that is no switch would begin a value of the switch before it. -/
def joinedSwitches (switch : Switch) : List Char → Except UsageError (List Switch)
  | [] => .ok []
  | letter :: more =>
    match page.spellings.lookup ['-', letter] with
    | some next => do return next :: (← joinedSwitches next more)
    | none => .error (.ignoredValue switch (letter :: more))

/-- The switches that an argument sets, and what it is if it is none. -/
def expand : Argument → Except UsageError (List Switch × List (List Char))
  | .plain arg => .ok ([], [arg])
  | .divider => .ok ([], [['-', '-']])
  | .unknown arg => .ok ([], [arg])
  | .single switch none => .ok ([switch], [])
  | .single switch (some value) => .error (.ignoredValue switch value)
  | .joined switch more => do return (switch :: (← page.joinedSwitches switch more), [])

end Page

end KeyMacro.Command
