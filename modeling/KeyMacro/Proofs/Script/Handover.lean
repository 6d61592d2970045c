import Mathlib
import KeyMacro.Proofs.Script.File
import KeyMacro.Proofs.Script.Run
import KeyMacro.Proofs.Text.Cut

/-!
# Ways of handing over a script

A text can be handed over as a script in several ways (`IsHandedOver`): as it is, as
its lines, as its lines with their ends, as its lines with any newlines and carriage
returns behind them, or in a file. If the text is plain, it makes no difference which
way is taken (`compileFile_of_isHandedOver`): the macro is the same, and so are the
notes, with the same numbers of lines.

What is behind a line when it is handed over never matters (`compile_congr`,
`notesFrom_congr`). It is the cutting that might go wrong, and this is where the text
has to be plain: a file is cut at newlines only.
-/

namespace KeyMacro.Script

/-! ## Lines without their ends -/

variable {first second : List (List Char)}

/-- What is taken off the lines of a script has no part in its macro. -/
theorem compile_congr (h : first.map Text.chomp = second.map Text.chomp) :
    compile first = compile second := by
  have hdirectives : ∀ lines, directives lines = (lines.map Text.chomp).map Directive.ofLine := by
    intro lines
    rw [List.map_map]
    rfl
  rw [compile, compile, hdirectives, hdirectives, h]

/-- What is taken off the lines of a script has no part in its notes. -/
theorem notesFrom_congr (number : Nat) (h : first.map Text.chomp = second.map Text.chomp) :
    notesFrom number first = notesFrom number second := by
  induction first generalizing number second with
  | nil =>
    obtain rfl := List.map_eq_nil_iff.1 h.symm
    rfl
  | cons line rest ih =>
    obtain ⟨line', rest', rfl, hline, hrest⟩ := List.map_eq_cons_iff.1 h.symm
    rw [notesFrom, notesFrom, hline, ih (number + 1) hrest.symm]

/-! ## Ways of handing over -/

/-- The ways of handing over a text as a script, other than in a file. -/
inductive IsHandedOver (cs : List Char) : Source → Prop
  /-- As it is. -/
  | text : IsHandedOver cs (.text cs)
  /-- As its lines. -/
  | lines : IsHandedOver cs (.lines (Text.lines cs))
  /-- As its lines with their ends. -/
  | kept : IsHandedOver cs (.lines (Text.keptLines cs))
  /-- As its lines, each with any newlines and carriage returns behind it. -/
  | ended {es : List (List Char)} :
      (Text.lines cs).Forall₂ Text.IsEnded es → IsHandedOver cs (.lines es)

/-- Whichever way a plain text is handed over, its lines are those of the text but for
    what is taken off them. -/
theorem map_chomp_of_isHandedOver {cs : List Char} {source : Source} (hcs : Text.IsPlain cs)
    (h : IsHandedOver cs source) :
    source.toLines.map Text.chomp = (Text.lines cs).map Text.chomp := by
  cases h with
  | text | lines => rfl
  | kept => exact Text.map_chomp_of_isEnded (Text.isEnded_keptLines hcs)
  | ended hes => exact Text.map_chomp_of_isEnded hes

/-- A plain text is compiled to the same macro with the same notes whether it is in a
    file or handed over in any other way. -/
theorem compileFile_of_isHandedOver {cs : List Char} {source : Source} (hcs : Text.IsPlain cs)
    (h : IsHandedOver cs source) :
    compileFile (Utf8.encode cs) = (notes source.toLines, .ok (compile source.toLines)) := by
  have hlines := map_chomp_of_isHandedOver hcs h
  rw [compileFile_encode, ← Text.lines_eq_fileLines hcs, compile_congr hlines, notes, notes,
    notesFrom_congr 1 hlines]

/-- A text whose lines end in all ways, the last one with half an end. -/
def mixedEnds : List Char := "press\r\r\nname x\u001f\r\na\n\nfoo\r".toList

/-- Its lines with other ends than theirs. -/
def otherEnds : List (List Char) :=
  ["press\n\r\n", "\r", "name x\u001f", "a\r\r", "\n", "foo\n"].map String.toList

theorem compileFile_of_mixedEnds :
    Text.IsPlain mixedEnds ∧ IsHandedOver mixedEnds (.text mixedEnds) ∧
      IsHandedOver mixedEnds (.lines otherEnds) ∧
      compileFile (Utf8.encode mixedEnds) =
        ([.malformed 1 "press".toList, .unknownKey "foo".toList],
          .ok { name := "x\u001f".toList, events := [.keyTap 65 15] }) ∧
      compileFile (Utf8.encode mixedEnds) =
        (notes (ofText mixedEnds), .ok (compile (ofText mixedEnds))) := by
  have hplain : Text.IsPlain mixedEnds := by decide
  have hended : IsHandedOver mixedEnds (.lines otherEnds) := by
    have hlines : Text.lines mixedEnds =
        ["press", "", "name x\u001f", "a", "", "foo"].map String.toList := by cbv
    refine .ended (hlines ▸ ?_)
    exact .cons ⟨"\n\r\n".toList, List.all_eq_true.1 rfl, rfl⟩ <|
      .cons ⟨"\r".toList, List.all_eq_true.1 rfl, rfl⟩ <|
      .cons ⟨[], List.all_eq_true.1 rfl, rfl⟩ <|
      .cons ⟨"\r\r".toList, List.all_eq_true.1 rfl, rfl⟩ <|
      .cons ⟨"\n".toList, List.all_eq_true.1 rfl, rfl⟩ <|
      .cons ⟨"\n".toList, List.all_eq_true.1 rfl, rfl⟩ .nil
  refine ⟨hplain, .text, hended, ?_, compileFile_of_isHandedOver hplain .text⟩
  rw [compileFile_of_isHandedOver hplain hended]
  cbv

end KeyMacro.Script
