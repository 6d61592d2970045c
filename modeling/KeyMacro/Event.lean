import KeyMacro.Key
import KeyMacro.Text.Numeral

/-!
# Events and opcodes

A macro is a row of timed *events*. A payload knows only three kinds of
*opcode*: a pause, a key going down and a key going up. The fourth kind of
event, the tap, is short for a key going down, a pause and the key going up
(`Event.opcodes`).

An opcode has six hexadecimal digits (`Opcode.hex`): the byte of a key and the
word 0001 or 0000, or the byte ff and the length of a pause.
-/

namespace KeyMacro

/-- A length of time in milliseconds, as an opcode holds it in one word. -/
abbrev Duration := Fin 65536

/-- What happens at one point of a macro. -/
inductive Event where
  /-- Nothing, for some time. -/
  | delay (time : Duration)
  /-- A key goes down. -/
  | keyDown (key : KeyCode)
  /-- A key goes up. -/
  | keyUp (key : KeyCode)
  /-- A key goes down, is held for some time and goes up. -/
  | keyTap (key : KeyCode) (hold : Duration)
  deriving DecidableEq, Repr

/-- A unit of a payload. -/
inductive Opcode where
  | delay (time : Duration)
  | keyDown (key : KeyCode)
  | keyUp (key : KeyCode)
  deriving DecidableEq, Repr

namespace Opcode

/-- The number of hexadecimal digits of an opcode. -/
def width : Nat := 6

/-- The digits of an opcode. -/
def hex : Opcode → List Char
  | delay time => 'f' :: 'f' :: Numeral.hexFixed 4 time
  | keyDown key => Numeral.hexFixed 2 key ++ ['0', '0', '0', '1']
  | keyUp key => Numeral.hexFixed 2 key ++ ['0', '0', '0', '0']

end Opcode

namespace Event

/-- What a payload holds for an event. -/
def opcodes : Event → List Opcode
  | delay time => [.delay time]
  | keyDown key => [.keyDown key]
  | keyUp key => [.keyUp key]
  | keyTap key hold => [.keyDown key, .delay hold, .keyUp key]

/-- The digits of the opcodes of an event. -/
def hex (event : Event) : List Char := event.opcodes.flatMap Opcode.hex

end Event

/-! ### Numbers out of range -/

/-- Why a number is no part of an event. -/
inductive RangeError where
  | keyCode
  | duration
  deriving DecidableEq, Repr

/-- The wording of a `RangeError`. -/
def RangeError.message : RangeError → String
  | keyCode => "key code must be between 0 and 255"
  | duration => "duration must be between 0 and 65535"

/-- The key code that a number is. -/
def keyCode? (n : Int) : Except RangeError KeyCode :=
  if h : 0 ≤ n ∧ n < 256 then .ok ⟨n.toNat, by omega⟩ else .error .keyCode

/-- The duration that a number of milliseconds is. -/
def duration? (n : Int) : Except RangeError Duration :=
  if h : 0 ≤ n ∧ n < 65536 then .ok ⟨n.toNat, by omega⟩ else .error .duration

namespace Event

/-- The pause of a number of milliseconds. -/
def delay? (ms : Int) : Except RangeError Event := do
  return delay (← duration? ms)

/-- The key of a number going down. -/
def keyDown? (key : Int) : Except RangeError Event := do
  return keyDown (← keyCode? key)

/-- The key of a number going up. -/
def keyUp? (key : Int) : Except RangeError Event := do
  return keyUp (← keyCode? key)

/-- The tap of the key of a number. Where both numbers are out of range, that of
    the key is the error. -/
def keyTap? (key ms : Int) : Except RangeError Event := do
  let code ← keyCode? key
  return keyTap code (← duration? ms)

end Event

end KeyMacro
