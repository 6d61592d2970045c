import KeyMacro.Macro
import KeyMacro.Script.Directive

/-!
# Drafts

A script is carried out line by line. Between two lines there is a *draft*: the
name and the default delay given so far, and whether a delay is *owed*. A delay
is owed after every key event, and pays itself: if nothing has settled it when
the next key event comes, the default delay of that moment stands before the
event. A delay in the script settles it, and so does the word that waives it.

Each directive adds events (`Draft.emit`) and changes the draft
(`Draft.advance`); of the events already there neither depends.
-/

namespace KeyMacro.Script

/-- What a script has settled so far, its events apart. -/
structure Draft where
  /-- The name of the macro. -/
  name : List Char := Macro.usualName
  /-- The default delay in force. -/
  defaultDelay : Duration := Macro.usualDelay
  /-- Whether a delay is due before the next key event. -/
  owed : Bool := false
  deriving DecidableEq, Repr

/-- The event of a stroke, at a given default delay. -/
def Stroke.event (code : KeyCode) (time : Duration) : Stroke → Event
  | press hold => .keyTap code (hold.getD time)
  | down => .keyDown code
  | up => .keyUp code

namespace Draft

/-- The delay that stands before a key event. -/
def due (draft : Draft) : List Event :=
  if draft.owed then [.delay draft.defaultDelay] else []

/-- The events that a directive adds. -/
def emit (draft : Draft) : Directive → List Event
  | .delay time => [.delay (time.getD draft.defaultDelay)]
  | .key stroke code => draft.due ++ [stroke.event code draft.defaultDelay]
  | _ => []

/-- The draft after a directive. -/
def advance (draft : Draft) : Directive → Draft
  | .delay _ => { draft with owed := false }
  | .noDelay => { draft with owed := false }
  | .defaultDelay time => { draft with defaultDelay := time }
  | .name text => { draft with name := text.getD Macro.usualName }
  | .key _ _ => { draft with owed := true }
  | .blank => draft
  | .rejected _ => draft

/-- The draft after a row of directives, and the events that they add. -/
def run (draft : Draft) : List Directive → Draft × List Event
  | [] => (draft, [])
  | d :: ds =>
    let (final, events) := run (draft.advance d) ds
    (final, draft.emit d ++ events)

end Draft

end KeyMacro.Script
