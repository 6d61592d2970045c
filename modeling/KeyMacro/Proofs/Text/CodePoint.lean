import KeyMacro.Proofs.Text.Line
import KeyMacro.Text.CodePoint

/-!
# Strings and texts

Strings are cut as texts are. The lines of a string have the kinds of the lines of its kinds
(`map_kinds_pointLines`), and those of a text are the same if it is held as a string
(`pointLines_points`). Likewise for the ends that are taken off a line, and for what follows
its first field. For the most part this is because of maps: a cut that only looks at what is
behind a map may be made before or after it (`cutAt_map`).
-/

namespace KeyMacro.Text

open CodePoint (kind)

variable {α β : Type}

theorem extendFirst_map (f : α → β) (a : α) (ls : List (List α)) :
    extendFirst (f a) (ls.map (List.map f)) = (extendFirst a ls).map (List.map f) := by
  cases ls <;> rfl

/-- What is mapped is cut where the images end a line. -/
theorem cutAt_map (p : β → Bool) (f : α → β) (as : List α) :
    cutAt p (as.map f) = (cutAt (fun a => p (f a)) as).map (List.map f) := by
  induction as with
  | nil => rfl
  | cons a as ih =>
    rw [List.map_cons, cutAt, cutAt, ih, extendFirst_map]
    split <;> rfl

theorem reverse_dropWhile_map (p : β → Bool) (f : α → β) (as : List α) :
    ((as.map f).reverse.dropWhile p).reverse =
      ((as.reverse.dropWhile fun a => p (f a)).reverse).map f := by
  rw [← List.map_reverse, List.dropWhile_map, ← List.map_reverse]
  rfl

/-! ## The kinds of a string -/

/-- Only the character itself has its kind, but for the one that surrogates count as. -/
theorem kind_eq_iff {p : CodePoint} {c : Char} (h : c ≠ '\ufffd') : p.kind = c ↔ p = .char c := by
  cases p with
  | char d => simp [kind]
  | surrogate index => exact iff_of_false h.symm CodePoint.noConfusion

theorem kinds_unifyPoints (ps : List CodePoint) :
    kinds (unifyPoints ps) = unifyNewlines (kinds ps) := by
  fun_induction unifyPoints ps with
  | case1 ps ih => exact congrArg ('\n' :: ·) ih
  | case2 p ps h ih =>
    have hkind : (if p = .char '\r' then CodePoint.char '\n' else p).kind =
        if p.kind = '\r' then '\n' else p.kind := by
      simp only [kind_eq_iff (c := '\r') (by decide), apply_ite kind]
      rfl
    rw [kinds, List.map_cons, hkind, kinds, List.map_cons, unifyNewlines]
    · exact congrArg _ ih
    · -- No surrogate is taken for the carriage return, or for the newline behind it.
      intro tail hp hps
      obtain ⟨next, rest, rfl, hnext, -⟩ := List.map_eq_cons_iff.1 hps
      exact h rest ((kind_eq_iff (by decide)).1 hp) (by rw [(kind_eq_iff (by decide)).1 hnext])
  | case3 => rfl

theorem map_kinds_pointLines (ps : List CodePoint) : (pointLines ps).map kinds = lines (kinds ps) := by
  rw [lines, ← kinds_unifyPoints, kinds, cutAt_map]
  rfl

theorem kinds_chompPoints (line : List CodePoint) : kinds (chompPoints line) = chomp (kinds line) :=
  (reverse_dropWhile_map isLineEnd kind line).symm

theorem kinds_pointsAfterFirst (ps : List CodePoint) :
    kinds (pointsAfterFirst ps) = afterFirst (kinds ps) := by
  simp only [kinds, pointsAfterFirst, afterFirst, skipBlanks, List.dropWhile_map]
  rfl

/-! ## Texts held as strings -/

theorem kinds_points (cs : List Char) : kinds (points cs) = cs := by
  rw [kinds, points, List.map_map]
  exact List.map_id cs

theorem unifyPoints_points (cs : List Char) :
    unifyPoints (points cs) = points (unifyNewlines cs) := by
  fun_induction unifyNewlines cs with
  | case1 cs ih => exact congrArg (CodePoint.char '\n' :: ·) ih
  | case2 c cs h ih =>
    rw [points, List.map_cons, unifyPoints, points, List.map_cons, apply_ite CodePoint.char]
    · simp only [CodePoint.char.injEq]
      exact congrArg _ ih
    · intro tail hc hcs
      obtain ⟨next, rest, rfl, hnext, -⟩ := List.map_eq_cons_iff.1 hcs
      exact h rest (CodePoint.char.inj hc) (by rw [CodePoint.char.inj hnext])
  | case3 => rfl

theorem pointLines_points (cs : List Char) : pointLines (points cs) = (lines cs).map points := by
  rw [pointLines, unifyPoints_points, points, cutAt_map]
  rfl

theorem chompPoints_points (line : List Char) :
    chompPoints (points line) = points (chomp line) :=
  reverse_dropWhile_map (fun p : CodePoint => isLineEnd p.kind) CodePoint.char line

theorem pointsAfterFirst_points (cs : List Char) :
    pointsAfterFirst (points cs) = points (afterFirst cs) := by
  simp only [points, pointsAfterFirst, afterFirst, skipBlanks, List.dropWhile_map]
  rfl

end KeyMacro.Text
