import KeyMacro.Text.Numeral

/-!
# UTF-8

In UTF-8 a character is a lead byte and up to three continuation bytes. How many
there are, and what the first of them may be, depends on the lead byte
(`Form.ofLead?`); so a row of bytes can go wrong at a byte that leads nothing,
at one that continues nothing, or at the end of the row, and `Fault` says where
and how.

* `decodePrefix` decodes as many characters as it can, and returns the bytes
  from the first fault on.
* `decode` decodes all bytes or says what is wrong with them.
-/

namespace KeyMacro.Utf8

/-- The bytes of a text. -/
def encode (cs : List Char) : List UInt8 := cs.flatMap String.utf8EncodeChar

/-- What a lead byte tells about its character. -/
structure Form where
  /-- The bits of the character that the lead byte holds. -/
  bits : Nat
  /-- How many continuation bytes there are. -/
  tail : Nat
  /-- The least that the first of them may be. -/
  low : UInt8 := 0x80
  /-- The greatest that the first of them may be. -/
  high : UInt8 := 0xBF

/-- What a byte tells as a lead byte, if it may be one. The bounds of the first
    continuation byte leave out characters with a shorter form, surrogates and
    numbers above U+10FFFF. -/
def Form.ofLead? (lead : UInt8) : Option Form :=
  let n := lead.toNat
  if n < 0x80 then some { bits := n, tail := 0 }
  else if n < 0xC2 then none
  else if n < 0xE0 then some { bits := n % 32, tail := 1 }
  else if n = 0xE0 then some { bits := n % 16, tail := 2, low := 0xA0 }
  else if n = 0xED then some { bits := n % 16, tail := 2, high := 0x9F }
  else if n < 0xF0 then some { bits := n % 16, tail := 2 }
  else if n = 0xF0 then some { bits := n % 8, tail := 3, low := 0x90 }
  else if n < 0xF4 then some { bits := n % 8, tail := 3 }
  else if n = 0xF4 then some { bits := n % 8, tail := 3, high := 0x8F }
  else none

/-- The bytes that may continue a character. -/
def isTail (b : UInt8) : Bool := 0x80 ≤ b && b ≤ 0xBF

/-- The continuation bytes that are there, of those that the lead byte asks for. -/
def Form.tailIn (form : Form) (rest : List UInt8) : List UInt8 :=
  match rest.take form.tail with
  | [] => []
  | b :: more => if form.low ≤ b && b ≤ form.high then b :: more.takeWhile isTail else []

/-- The character of a form with its continuation bytes. -/
def Form.char (form : Form) (tail : List UInt8) : Char :=
  Char.ofNat (tail.foldl (fun n b => 64 * n + b.toNat % 64) form.bits)

/-- The first character of a row of bytes, and the bytes after it. -/
def next? : List UInt8 → Option (Char × List UInt8)
  | [] => none
  | lead :: rest =>
    match Form.ofLead? lead with
    | none => none
    | some form =>
      let tail := form.tailIn rest
      if tail.length = form.tail then some (form.char tail, rest.drop form.tail) else none

theorem length_next?_lt {bytes rest : List UInt8} {c : Char}
    (h : next? bytes = some (c, rest)) : rest.length < bytes.length := by
  unfold next? at h
  split at h
  · simp at h
  · split at h
    · simp at h
    · simp only [Option.ite_none_right_eq_some, Option.some.injEq, Prod.mk.injEq] at h
      rw [← h.2.2, List.length_drop, List.length_cons]
      omega

/-- The characters of a row of bytes up to the first fault, and the bytes from
    there on. -/
def decodePrefix (bytes : List UInt8) : List Char × List UInt8 :=
  match _h : next? bytes with
  | none => ([], bytes)
  | some (c, rest) =>
    let (cs, left) := decodePrefix rest
    (c :: cs, left)
termination_by bytes.length
decreasing_by exact length_next?_lt _h

theorem decodePrefix_eq (bytes : List UInt8) : decodePrefix bytes =
    match next? bytes with
    | none => ([], bytes)
    | some (c, rest) => (c :: (decodePrefix rest).1, (decodePrefix rest).2) := by
  rw [decodePrefix]
  split <;> simp_all

/-! ### Faults -/

/-- What is wrong with some bytes. -/
inductive Cause where
  /-- The byte leads no character. -/
  | invalidStart
  /-- The byte after them does not continue the character. -/
  | invalidContinuation
  /-- The bytes end inside a character. -/
  | unexpectedEnd
  deriving DecidableEq, Repr

/-- The wording of a cause. -/
def Cause.message : Cause → String
  | invalidStart => "invalid start byte"
  | invalidContinuation => "invalid continuation byte"
  | unexpectedEnd => "unexpected end of data"

/-- Where a row of bytes goes wrong, and how. -/
structure Fault where
  /-- The number of bytes before the faulty ones. -/
  position : Nat
  /-- The lead byte of the faulty ones. -/
  lead : UInt8
  /-- The number of continuation bytes that are in order. -/
  tail : Nat
  /-- What is wrong. -/
  cause : Cause
  deriving DecidableEq, Repr

/-- The wording of a fault. -/
def Fault.message (fault : Fault) : String :=
  let place :=
    if fault.tail = 0 then
      s!"byte 0x{String.ofList (Numeral.hexFixed 2 fault.lead.toNat)} in position {fault.position}"
    else s!"bytes in position {fault.position}-{fault.position + fault.tail}"
  s!"'utf-8' codec can't decode {place}: {fault.cause.message}"

/-- The fault of bytes that begin with no character, a given number of bytes
    after the point from which positions count. -/
def Fault.at? (position : Nat) : List UInt8 → Option Fault
  | [] => none
  | lead :: rest =>
    match Form.ofLead? lead with
    | none => some { position, lead, tail := 0, cause := .invalidStart }
    | some form =>
      let tail := (form.tailIn rest).length
      let cause := if tail = rest.length then .unexpectedEnd else .invalidContinuation
      some { position, lead, tail, cause }

/-- The characters of a row of bytes, or its first fault. -/
def decode (bytes : List UInt8) : Except Fault (List Char) :=
  let (cs, left) := decodePrefix bytes
  match Fault.at? (bytes.length - left.length) left with
  | none => .ok cs
  | some fault => .error fault

end KeyMacro.Utf8
