import KeyMacro.Script.Draft
import KeyMacro.Text.Line

/-!
# Scripts

A *script* is a list of lines. Compiling it gives a macro and the notes on the
lines that were rejected; there is no script that cannot be compiled. A script
may be handed over as its lines, each with any newlines at its end, or as one
text.
-/

namespace KeyMacro.Script

/-- The directives of the lines of a script. -/
def directives (lines : List (List Char)) : List Directive :=
  lines.map fun line => Directive.ofLine (Text.chomp line)

/-- The notes on lines, the first of which has a given number. -/
def notesFrom (number : Nat) : List (List Char) → List Note
  | [] => []
  | line :: rest =>
    (Directive.ofLine (Text.chomp line)).notes number (Text.chomp line) ++
      notesFrom (number + 1) rest

/-- The notes on a script. -/
def notes (lines : List (List Char)) : List Note := notesFrom 1 lines

/-- The macro of a script. -/
def compile (lines : List (List Char)) : Macro :=
  let (final, events) := Draft.run {} (directives lines)
  { name := final.name, defaultDelay := (final.defaultDelay.val : Int), events }

/-- The lines of a script handed over as one text. -/
def ofText (text : List Char) : List (List Char) := Text.lines text

end KeyMacro.Script
