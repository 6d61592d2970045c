import KeyMacro.Event
import KeyMacro.Note

/-!
# Payloads

A *payload* is the row of opcodes of a macro in hexadecimal. The field that it
belongs in holds 1360 opcodes: a shorter payload is filled up with zeros, in places
of whole opcodes (`Payload.encode`), a longer one is kept whole, with a note.
-/

namespace KeyMacro.Payload

/-- The number of opcodes that fit. -/
def maxUnits : Nat := 1360

/-- The number of hexadecimal digits that fit. -/
def maxDigits : Nat := maxUnits * Opcode.width

/-- The digits that fill the place of one opcode. -/
def padUnit : List Char := ['0', '0', '0', '0', '0', '0']

/-- The opcodes of a row of events. -/
def opcodes (events : List Event) : List Opcode := events.flatMap Event.opcodes

/-- The digits of the opcodes of a row of events. -/
def digits (events : List Event) : List Char := (opcodes events).flatMap Opcode.hex

/-- The number of places that some digits leave free, a part of one counting as a
    whole one. -/
def missingUnits (size : Nat) : Nat :=
  (maxDigits - size + (padUnit.length - 1)) / padUnit.length

/-- The payload of a row of events, filled up place by place unless it has more
    digits than fit. -/
def encode (events : List Event) : List Char :=
  let ds := digits events
  if ds.length > maxDigits then ds
  else ds ++ (List.replicate (missingUnits ds.length) padUnit).flatten

/-- The note on the payload of a row of events, if it does not fit. -/
def notes (events : List Event) : List Note :=
  let size := (digits events).length
  if size > maxDigits then [.oversized size maxDigits] else []

end KeyMacro.Payload
