import KeyMacro.Event
import KeyMacro.Note
import KeyMacro.Text.Blank
import KeyMacro.Text.Numeral

/-!
# Directives

Every line of a script says one thing, or nothing. What it says is its
*directive*, and depends on the line alone (`Directive.ofLine`): its first field
is a word that tells what the other fields are, or else names a key to press.
A line that cannot be understood is rejected, which has a cause
(`Directive.rejected`) and leads to a note.

| first field                   | further fields       | directive                        |
|-------------------------------|----------------------|----------------------------------|
| `delay`                       | a duration           | wait                             |
| `defaultdelay` `default_delay`| 1 to 999             | set the default delay            |
| `nodelay`                     | anything             | waive the delay of the next key  |
| `name`                        | the rest of the line | set the name                     |
| `press` `keypress`            | a key and a duration | press a key                      |
| `down` `keydown`              | a key                | hold a key                       |
| `up` `keyup`                  | a key                | release a key                    |
| a key                         | anything             | press a key                      |

Durations may be left out, and one that is no number or out of range counts as
left out.
-/

namespace KeyMacro.Script

/-- The words that a line may begin with. -/
inductive Word where
  | delay
  | defaultDelay
  | noDelay
  | name
  | press
  | down
  | up
  deriving DecidableEq, Repr

/-- The word that a field is. -/
def Word.ofField? (field : List Char) : Option Word :=
  match String.ofList field with
  | "delay" => some delay
  | "defaultdelay" => some defaultDelay
  | "default_delay" => some defaultDelay
  | "nodelay" => some noDelay
  | "name" => some name
  | "press" => some press
  | "keypress" => some press
  | "down" => some down
  | "keydown" => some down
  | "up" => some up
  | "keyup" => some up
  | _ => none

/-- What a line does with its key. -/
inductive Stroke where
  /-- Presses it, for the default delay if no other time is given. -/
  | press (hold : Option Duration)
  /-- Holds it. -/
  | down
  /-- Releases it. -/
  | up
  deriving DecidableEq, Repr

/-- Why a line is rejected. -/
inductive Rejection where
  /-- It has the wrong fields for its word. -/
  | malformed
  /-- Its key token names no key. -/
  | unknownKey (token : List Char)
  deriving DecidableEq, Repr

/-- What a line says. -/
inductive Directive where
  /-- Nothing. -/
  | blank
  /-- Wait, for the default delay if no other time is given. -/
  | delay (time : Option Duration)
  /-- From here on, this is the default delay. -/
  | defaultDelay (time : Duration)
  /-- No delay is due before the next key event. -/
  | noDelay
  /-- The macro is to have this name, or the one that macros have by default. -/
  | name (text : Option (List Char))
  /-- A key event. -/
  | key (stroke : Stroke) (code : KeyCode)
  /-- Nothing that can be understood. -/
  | rejected (cause : Rejection)
  deriving DecidableEq, Repr

/-- The duration that a field gives, if it gives any. -/
def durationOf? (field : List Char) : Option Duration := do
  (duration? (← Numeral.integer? field)).toOption

/-- The least default delay. -/
def minDefaultDelay : Int := 1

/-- The greatest default delay. -/
def maxDefaultDelay : Int := 999

/-- The default delay that a field gives, if it gives any. -/
def defaultDelayOf? (field : List Char) : Option Duration := do
  let ms ← Numeral.integer? field
  if minDefaultDelay ≤ ms ∧ ms ≤ maxDefaultDelay then (duration? ms).toOption else none

namespace Directive

/-- The directive of a key token and what to do with its key. -/
def ofKey (stroke : Stroke) (token : List Char) : Directive :=
  match Key.resolve? token with
  | some code => key stroke code
  | none => rejected (.unknownKey token)

/-- The directive of a line that begins with a word, given the fields after the
    word and the line as it stands. -/
def ofWord : Word → (args : List (List Char)) → (line : List Char) → Directive
  | .delay, [field], _ => delay (durationOf? field)
  | .delay, _, _ => delay none
  | .defaultDelay, [field], _ =>
    match defaultDelayOf? field with
    | some time => defaultDelay time
    | none => rejected .malformed
  | .defaultDelay, _, _ => rejected .malformed
  | .noDelay, _, _ => noDelay
  | .name, _, line => name (Text.splitOnce line)[1]?
  | .press, [token], _ => ofKey (.press none) token
  | .press, [token, field], _ => ofKey (.press (durationOf? field)) token
  | .press, _, _ => rejected .malformed
  | .down, [token], _ => ofKey .down token
  | .down, _, _ => rejected .malformed
  | .up, [token], _ => ofKey .up token
  | .up, _, _ => rejected .malformed

/-- The directive of a line. -/
def ofLine (line : List Char) : Directive :=
  match Text.fields line with
  | [] => blank
  | field :: args =>
    match Word.ofField? field with
    | some word => ofWord word args line
    | none => ofKey (.press none) field

/-- The note on a directive, given its line and the number of that line. -/
def notes (number : Nat) (line : List Char) : Directive → List Note
  | rejected .malformed => [.malformed number line]
  | rejected (.unknownKey token) => [.unknownKey token]
  | _ => []

end Directive

end KeyMacro.Script
