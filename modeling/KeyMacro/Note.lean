/-!
# Notes

Nothing in a script is an error: what cannot be carried out is left out, and a
*note* says so. A payload that is longer than the field it belongs in is noted
too.
-/

namespace KeyMacro

/-- What there is to say about a script or its payload. -/
inductive Note where
  /-- The line of a number, counted from one, does not have the form its first
      field asks for. -/
  | malformed (number : Nat) (line : List Char)
  /-- A token names no key. -/
  | unknownKey (token : List Char)
  /-- A payload has more digits than fit. -/
  | oversized (digits limit : Nat)
  deriving DecidableEq, Repr

/-- The wording of a note. -/
def Note.message : Note → String
  | malformed number line => s!"line {number}: ignoring malformed line '{String.ofList line}'"
  | unknownKey token => s!"could not parse key name '{String.ofList token}', ignoring"
  | oversized digits limit => s!"macro maximum size exceeded ({digits} of {limit} hex digits)"

end KeyMacro
