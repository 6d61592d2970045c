/-!
# Blanks and fields

A script line is a row of *fields*: the maximal runs of characters that are not
blank. Blanks only separate, so how many stand between two fields, before the
first or after the last makes no difference to the fields. What follows the
first field may also be wanted as it stands, blanks and all (`afterFirst`); then
the text is split once (`splitOnce`), and all its other blanks are kept.

* `fields_eq`: the first field ends where the first blank after it begins, and
  the other fields are those of what is left.
-/

namespace KeyMacro.Text

/-- The characters that separate fields: the white space of Unicode and the
    four information separators U+001C to U+001F. -/
def isBlank (c : Char) : Bool :=
  let n := c.toNat
  (0x09 ≤ n && n ≤ 0x0D) || (0x1C ≤ n && n ≤ 0x20) || n == 0x85 || n == 0xA0 ||
    n == 0x1680 || (0x2000 ≤ n && n ≤ 0x200A) || n == 0x2028 || n == 0x2029 ||
    n == 0x202F || n == 0x205F || n == 0x3000

/-- The characters that fields are made of. -/
def isInk (c : Char) : Bool := !isBlank c

/-- The text without its leading blanks. -/
def skipBlanks (cs : List Char) : List Char := cs.dropWhile isBlank

/-- The text without the blanks around it. -/
def strip (cs : List Char) : List Char :=
  (skipBlanks (skipBlanks cs).reverse).reverse

theorem length_skipBlanks_le (cs : List Char) : (skipBlanks cs).length ≤ cs.length :=
  (List.dropWhile_suffix _).length_le

/-- The fields of a text, from left to right. -/
def fields (cs : List Char) : List (List Char) :=
  match _h : skipBlanks cs with
  | [] => []
  | c :: rest => (c :: rest.takeWhile isInk) :: fields (rest.dropWhile isInk)
termination_by cs.length
decreasing_by
  have h₁ := length_skipBlanks_le cs
  have h₂ := (List.dropWhile_suffix (l := rest) isInk).length_le
  simp only [_h, List.length_cons] at h₁
  omega

/-- What follows the first field and the blanks after it, as it stands. -/
def afterFirst (cs : List Char) : List Char :=
  skipBlanks ((skipBlanks cs).dropWhile isInk)

/-- The first field, and what follows it and the blanks after it, if anything does. -/
def splitOnce (cs : List Char) : List (List Char) :=
  match skipBlanks cs with
  | [] => []
  | c :: rest => (c :: rest.takeWhile isInk) :: [afterFirst cs].filter (· ≠ [])

theorem fields_eq (cs : List Char) : fields cs =
    match skipBlanks cs with
    | [] => []
    | c :: rest => (c :: rest.takeWhile isInk) :: fields (rest.dropWhile isInk) := by
  rw [fields]
  split <;> simp_all

end KeyMacro.Text
