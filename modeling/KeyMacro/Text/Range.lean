/-!
# Ranges of characters

Standards tell what a character is by tables of *ranges*: the numbers of the
first and the last of some characters in a row.
-/

namespace KeyMacro.Text

/-- Whether a number lies in one of some ranges. -/
def inRanges (ranges : List (Nat × Nat)) (n : Nat) : Bool :=
  ranges.any fun range => range.1 ≤ n && n ≤ range.2

theorem inRanges_of_mem {ranges : List (Nat × Nat)} {low high n : Nat}
    (hrange : (low, high) ∈ ranges) (hn : low ≤ n ∧ n ≤ high) : inRanges ranges n = true :=
  List.any_eq_true.2 ⟨(low, high), hrange, by simpa using hn⟩

theorem inRanges_eq_false {ranges : List (Nat × Nat)} {n : Nat}
    (h : ∀ range ∈ ranges, n < range.1 ∨ range.2 < n) : inRanges ranges n = false := by
  refine List.any_eq_false.2 fun range hrange => ?_
  have := h range hrange
  simp only [Bool.and_eq_true, decide_eq_true_eq]
  omega

end KeyMacro.Text
