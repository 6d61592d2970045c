import KeyMacro.Script
import KeyMacro.Text.CodePoint

/-!
# Scripts held as strings

A script that is handed over as a string may have surrogates in its lines. The kinds of
the code points of a line tell its directive. Only a name is taken over as it stands, so
that the macro has the surrogates that are in it.
-/

namespace KeyMacro.Script

open Text (CodePoint)

/-- The name after a line, given the one before it. -/
def nameAfter (name line : List CodePoint) : List CodePoint :=
  let own := Text.chompPoints line
  match Directive.ofLine (Text.kinds own) with
  | .name (some _) => Text.pointsAfterFirst own
  | .name none => Text.points Macro.usualName
  | _ => name

/-- The macro of a script whose lines are strings. -/
def compileStrings (lines : List (List CodePoint)) : StringMacro :=
  let made := compile (lines.map Text.kinds)
  { name := lines.foldl nameAfter (Text.points Macro.usualName)
    defaultDelay := made.defaultDelay
    events := made.events }

/-- The macro of a script handed over as one string. -/
def compileString (string : List CodePoint) : StringMacro := compileStrings (Text.pointLines string)

end KeyMacro.Script
