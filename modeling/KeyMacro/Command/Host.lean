/-!
# Hosts

Besides files, the program depends on two things of the system that it runs on. Its standard
output is in some encoding, which need not have all characters that are to be printed. And it
is the XML library that says what is wrong with bytes that are no document.

Neither has a part in what is written to files.
-/

namespace KeyMacro.Command

/-- What the program relies on besides files. -/
structure Host where
  /-- Why the standard output does not take a line, if it does not. -/
  refusal? : String → Option String := fun _ => none
  /-- What is said to be wrong with bytes that are no document. -/
  wording : List UInt8 → String := fun _ => "not well-formed"

end KeyMacro.Command
