import KeyMacro.Proofs.Script.Name
import KeyMacro.Proofs.Text.CodePoint
import KeyMacro.Script.String

/-!
# Names of scripts held as strings

The name of a script that is held as a string has the kinds of the name that the kinds of
the string give as a script (`kinds_name_compileStrings`). If the string is a text, then
it is the same name, and the same macro (`compileString_points`).
-/

namespace KeyMacro.Script

open Text (CodePoint)

variable {text : List Char} {line : List Char}

/-- A name that a line gives is what follows its first field. -/
theorem eq_afterFirst_of_directive (h : directive line = .name (some text)) :
    text = Text.afterFirst (Text.chomp line) := by
  obtain ⟨word, args, hfields, hword⟩ := isNameLine_of_directive h
  rw [directive_nameLine hword hfields, Text.splitOnce_eq hfields, Directive.name.injEq] at h
  by_cases hargs : args = []
  · rw [if_pos hargs] at h
    cases h
  · rw [if_neg hargs] at h
    exact (Option.some.inj h).symm

/-- Where a relation holds between the usual name and itself, and between what follows the
    first field of each line and what follows the first field of its kinds, it holds between
    the names. -/
theorem name_compileStrings {R : List CodePoint → List Char → Prop}
    (husual : R (Text.points Macro.usualName) Macro.usualName) (lines : List (List CodePoint))
    (hlines : ∀ line ∈ lines, R (Text.pointsAfterFirst (Text.chompPoints line))
      (Text.afterFirst (Text.kinds (Text.chompPoints line)))) :
    R (compileStrings lines).name (compile (lines.map Text.kinds)).name := by
  show R (lines.foldl nameAfter _) (draftAfter (lines.map Text.kinds)).name
  induction lines using List.reverseRecOn with
  | nil => exact husual
  | append_singleton lines line ih =>
    simp only [List.forall_mem_append, List.forall_mem_singleton] at hlines
    have hown : Directive.ofLine (Text.kinds (Text.chompPoints line)) =
        directive (Text.kinds line) := by
      rw [Text.kinds_chompPoints, directive]
    rw [List.foldl_append, List.foldl_cons, List.foldl_nil, List.map_append, List.map_singleton,
      draftAfter_concat]
    simp only [nameAfter, hown]
    -- Only a line that gives a name makes a difference to it.
    cases hdirective : directive (Text.kinds line) with
    | name given =>
      cases given with
      | none => exact husual
      | some text =>
        obtain rfl := eq_afterFirst_of_directive hdirective
        have hline := hlines.2
        rwa [Text.kinds_chompPoints] at hline
    | blank | delay | noDelay | defaultDelay | key | rejected => exact ih hlines.1

/-- The kinds of the name are the name of the kinds. -/
theorem kinds_name_compileStrings (lines : List (List CodePoint)) :
    Text.kinds (compileStrings lines).name = (compile (lines.map Text.kinds)).name :=
  name_compileStrings (R := fun name text => Text.kinds name = text) (Text.kinds_points _) _
    fun _ _ => Text.kinds_pointsAfterFirst _

/-- Lines that are texts are a script like any strings. -/
theorem compileStrings_points (lines : List (List Char)) :
    compileStrings (lines.map Text.points) = (compile lines).toStringMacro := by
  have hlines : (lines.map Text.points).map Text.kinds = lines := by
    rw [List.map_map]
    exact List.map_id'' Text.kinds_points lines
  have hname : (compileStrings (lines.map Text.points)).name =
      Text.points (compile ((lines.map Text.points).map Text.kinds)).name := by
    refine name_compileStrings (R := fun name text => name = Text.points text) rfl _ ?_
    refine List.forall_mem_map.2 fun line _ => ?_
    rw [Text.chompPoints_points, Text.pointsAfterFirst_points, Text.kinds_points]
  rw [hlines] at hname
  rw [Macro.toStringMacro, ← hname, compileStrings, hlines]

/-- A text is a script like any string. -/
theorem compileString_points (cs : List Char) :
    compileString (Text.points cs) = (compile (ofText cs)).toStringMacro := by
  rw [compileString, Text.pointLines_points, compileStrings_points, ofText]

end KeyMacro.Script
