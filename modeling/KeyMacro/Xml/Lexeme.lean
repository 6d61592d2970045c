import KeyMacro.Xml.Name

/-!
# Lexemes

The declarations that come with the type of a document are rows of *lexemes*,
with white space between them: names, texts in quotes, and the signs that group
and count names. A lexeme that the next one could run into is followed by white
space or by a sign that bounds it (`isBoundary`).

* `lexeme?_suffix`, `length_lexeme?_lt`: reading a lexeme leaves less text, so
  that the lexemes of a declaration (`lexemes?`) come to an end.
-/

namespace KeyMacro.Xml

/-- A lexeme of a declaration. -/
inductive Lexeme where
  /-- A name, and the sign that counts it, if there is one. -/
  | name (name : QName) (count : Option Char)
  /-- A row of characters of names that is not a name. -/
  | token
  /-- A word behind a number sign. -/
  | keyword (word : List Char)
  /-- A text in quotes. -/
  | literal (text : List Char)
  /-- The percent sign. -/
  | percent
  /-- The sign that opens a group. -/
  | opening
  /-- The sign that closes a group, and the one that counts it, if there is one. -/
  | closing (count : Option Char)
  /-- A sign between the members of a group. -/
  | connector (sign : Char)
  deriving DecidableEq, Repr

/-- The characters of names together with the colon. -/
def isWordChar (c : Char) : Bool := isNameChar c || c == ':'

/-- The signs that tell how often something may come. -/
def isCount (c : Char) : Bool := c == '*' || c == '+' || c == '?'

/-- The characters that may follow a lexeme without belonging to it. -/
def isBoundary (c : Char) : Bool := isSpace c || c == '>' || c == ')' || c == ',' || c == '|'

/-- The name that a row of characters is, if it is one. Behind the colon, any
    character of names may come first. -/
def QName.ofWord? (word : List Char) : Option QName :=
  match word.splitOnP (· == ':') with
  | [base] => if isName base then some { base } else none
  | [qualifier, base] =>
    if isName qualifier ∧ base ≠ [] then some { qualifier := some qualifier, base } else none
  | _ => none

/-- The lexeme before some text, if it is bounded. -/
def bounded? (lexeme : Lexeme) : List Char → Option (Lexeme × List Char)
  | [] => none
  | c :: cs => if isBoundary c then some (lexeme, c :: cs) else none

/-- The lexeme before some text that may begin with a count. -/
def counted? (lexeme : Option Char → Lexeme) : List Char → Option (Lexeme × List Char)
  | [] => none
  | c :: cs => if isCount c then some (lexeme (some c), cs) else bounded? (lexeme none) (c :: cs)

/-- Reads a row of characters of names. -/
def word? (cs : List Char) : Option (Lexeme × List Char) :=
  let word := cs.takeWhile isWordChar
  let rest := cs.dropWhile isWordChar
  match QName.ofWord? word with
  | some name => counted? (.name name) rest
  | none => if word = [] then none else bounded? .token rest

/-- Reads a lexeme. -/
def lexeme? : List Char → Option (Lexeme × List Char)
  | [] => none
  | c :: cs =>
    if c = '(' then some (.opening, cs)
    else if c = ')' then counted? .closing cs
    else if c = '|' ∨ c = ',' then some (.connector c, cs)
    else if c = '%' then bounded? .percent cs
    else if c = '#' then (name? cs).bind fun read => bounded? (.keyword read.1) read.2
    else
      match quoted? (c :: cs) with
      | some (text, rest) => bounded? (.literal text) rest
      | none => word? (c :: cs)

theorem bounded?_eq {l m : Lexeme} {cs rest : List Char} (h : bounded? l cs = some (m, rest)) :
    rest = cs := by
  cases cs with
  | nil => simp [bounded?] at h
  | cons c cs =>
    simp only [bounded?, Option.ite_none_right_eq_some, Option.some.injEq, Prod.mk.injEq] at h
    exact h.2.2.symm

theorem counted?_suffix {f : Option Char → Lexeme} {m : Lexeme} {cs rest : List Char}
    (h : counted? f cs = some (m, rest)) : rest <:+ cs := by
  cases cs with
  | nil => simp [counted?] at h
  | cons c cs =>
    rw [counted?] at h
    split at h
    · simp only [Option.some.injEq, Prod.mk.injEq] at h
      exact h.2 ▸ List.suffix_cons c cs
    · exact bounded?_eq h ▸ List.suffix_refl _

/-- The row of characters of names that a text begins with is not empty. -/
theorem word?_suffix {c : Char} {cs rest : List Char} {l : Lexeme}
    (h : word? (c :: cs) = some (l, rest)) : rest <:+ cs := by
  by_cases hc : isWordChar c
  · have hd : (c :: cs).dropWhile isWordChar <:+ cs := by
      rw [List.dropWhile_cons_of_pos hc]
      exact List.dropWhile_suffix _
    rw [word?] at h
    split at h
    · exact (counted?_suffix h).trans hd
    · split at h
      · simp at h
      · exact bounded?_eq h ▸ hd
  · simp [word?, List.takeWhile_cons_of_neg hc, QName.ofWord?, List.splitOnP_nil, isName] at h

theorem lexeme?_suffix_tail {c : Char} {cs rest : List Char} {l : Lexeme}
    (h : lexeme? (c :: cs) = some (l, rest)) : rest <:+ cs := by
  rw [lexeme?] at h
  split at h
  · simp only [Option.some.injEq, Prod.mk.injEq] at h
    exact h.2 ▸ List.suffix_refl _
  split at h
  · exact counted?_suffix h
  split at h
  · simp only [Option.some.injEq, Prod.mk.injEq] at h
    exact h.2 ▸ List.suffix_refl _
  split at h
  · exact bounded?_eq h ▸ List.suffix_refl _
  split at h
  · obtain ⟨_, hn, hb⟩ := Option.bind_eq_some_iff.1 h
    exact bounded?_eq hb ▸ name?_suffix hn
  split at h
  · next hq => exact bounded?_eq h ▸ quoted?_suffix_tail hq
  · exact word?_suffix h

theorem lexeme?_suffix {cs rest : List Char} {l : Lexeme} (h : lexeme? cs = some (l, rest)) :
    rest <:+ cs := by
  cases cs with
  | nil => simp [lexeme?] at h
  | cons c cs => exact (lexeme?_suffix_tail h).trans (List.suffix_cons c cs)

theorem length_lexeme?_lt {cs rest : List Char} {l : Lexeme} (h : lexeme? cs = some (l, rest)) :
    rest.length < cs.length := by
  cases cs with
  | nil => simp [lexeme?] at h
  | cons c cs => exact Nat.lt_succ_of_le (lexeme?_suffix_tail h).length_le

/-- Reads the lexemes of a declaration and the angle bracket that ends it. -/
def lexemes? (cs : List Char) : Option (List Lexeme × List Char) :=
  match _hs : skipSpace cs with
  | '>' :: rest => some ([], rest)
  | start =>
    match _hl : lexeme? start with
    | none => none
    | some (l, rest) => (lexemes? rest).map fun read => (l :: read.1, read.2)
termination_by cs.length
decreasing_by
  exact Nat.lt_of_lt_of_le (length_lexeme?_lt _hl) (_hs ▸ (skipSpace_suffix cs).length_le)

theorem lexemes?_suffix {cs rest : List Char} {ls : List Lexeme}
    (h : lexemes? cs = some (ls, rest)) : rest <:+ cs := by
  fun_induction lexemes? cs generalizing ls with
  | case1 cs rest' hs =>
    simp only [Option.some.injEq, Prod.mk.injEq] at h
    exact h.2 ▸ (List.suffix_cons _ _).trans (hs ▸ skipSpace_suffix cs)
  | case2 => simp at h
  | case3 cs _ l rest' hl ih =>
    obtain ⟨read, hr, he⟩ := Option.map_eq_some_iff.1 h
    simp only [Prod.mk.injEq] at he
    exact ((ih (hr.trans (by rw [← he.2]))).trans (lexeme?_suffix hl)).trans
      (skipSpace_suffix cs)

end KeyMacro.Xml
