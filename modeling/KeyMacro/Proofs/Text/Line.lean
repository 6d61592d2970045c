import KeyMacro.Text.Line

/-!
# Uniform line ends

Making line ends uniform leaves everything but carriage returns as it is, and can
be done piece by piece where no piece begins with a newline.
-/

namespace KeyMacro.Text

theorem unifyNewlines_cons {c : Char} (h : c ≠ '\r') (cs : List Char) :
    unifyNewlines (c :: cs) = c :: unifyNewlines cs := by
  rw [unifyNewlines, if_neg h]
  rintro _ rfl
  exact absurd rfl h

theorem unifyNewlines_append_of_notMem {front : List Char} (h : '\r' ∉ front) (cs : List Char) :
    unifyNewlines (front ++ cs) = front ++ unifyNewlines cs := by
  induction front with
  | nil => rfl
  | cons c front ih =>
    rw [List.mem_cons, not_or] at h
    rw [List.cons_append, unifyNewlines_cons (Ne.symm h.1), ih h.2, List.cons_append]

/-- A text may be cut in front of any character but a newline. -/
theorem unifyNewlines_append_cons {c : Char} (hc : c ≠ '\n') (front cs : List Char) :
    unifyNewlines (front ++ c :: cs) = unifyNewlines front ++ unifyNewlines (c :: cs) := by
  fun_induction unifyNewlines front with
  | case1 front ih =>
    rw [List.cons_append, List.cons_append, unifyNewlines, ih]
    rfl
  | case2 d front hd ih =>
    rw [List.cons_append, unifyNewlines, ih]
    · rfl
    · -- A carriage return at the cut has no newline behind it.
      rintro tail rfl h
      cases front with
      | nil => exact hc (List.cons.inj h).1
      | cons e front => exact hd front rfl (by rw [(List.cons.inj h).1])
  | case3 => rfl

end KeyMacro.Text
