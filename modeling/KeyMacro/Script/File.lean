import KeyMacro.Script
import KeyMacro.Text.Reading

/-!
# Script files

A script file is compiled as it is read. Where it turns out not to be a text,
there is no macro, but the lines before have been gone through, and the notes on
them stand.
-/

namespace KeyMacro.Script

/-- The notes on a script file, and its macro or what is wrong with its bytes. -/
def compileFile (bytes : List UInt8) : List Note × Except Utf8.Fault Macro :=
  let reading := Text.read bytes
  let outcome :=
    match reading.fault with
    | none => .ok (compile reading.lines)
    | some fault => .error fault
  (notes reading.lines, outcome)

end KeyMacro.Script
