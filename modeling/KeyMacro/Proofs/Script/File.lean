import KeyMacro.Proofs.Text.Reading
import KeyMacro.Script.File

/-!
# Script files as texts

A script file has a macro if and only if its bytes encode a text, and it is the macro
of the lines of that text (`compileFile_encode`).
-/

namespace KeyMacro.Script

variable {bytes : List UInt8} {notes : List Note} {made : Macro} {fault : Utf8.Fault}

theorem compileFile_encode (cs : List Char) : compileFile (Utf8.encode cs) =
    (Script.notes (Text.fileLines cs), .ok (compile (Text.fileLines cs))) := by
  rw [compileFile, Text.read_encode]

theorem exists_of_compileFile (h : compileFile bytes = (notes, .ok made)) :
    ∃ cs, bytes = Utf8.encode cs := by
  have hmade := congrArg Prod.snd h
  rw [compileFile] at hmade
  dsimp only at hmade
  split at hmade
  · next hfault => exact Text.fault_read_eq_none_iff.1 hfault
  · cases hmade

theorem ne_encode_of_compileFile (h : compileFile bytes = (notes, .error fault))
    (cs : List Char) : bytes ≠ Utf8.encode cs := by
  rintro rfl
  rw [compileFile_encode] at h
  cases h

end KeyMacro.Script
