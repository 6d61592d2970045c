import KeyMacro.Proofs.Script.Progress
import KeyMacro.Proofs.Text.Split

/-!
# Names to the letter

A line that begins with the word for the name sets the name, and does nothing else
(`GivesName.step_eq`). If it has other fields, the name is what stands behind the word and
the blanks after it, with all its blanks. If it has none, the name is the one that macros
have by default.

For this the line is split once, while words and arguments are told by splitting it all
over. The two never differ in where the word ends, nor in whether anything follows it
(`step_nameLine`).
-/

namespace KeyMacro.Script

/-- Whether a line begins with the word for the name. -/
def IsNameLine (line : List Char) : Prop :=
  ∃ word args, Text.fields (Text.chomp line) = word :: args ∧ word ∈ Word.name.spellings

/-- The name that a line gives to the macro. -/
inductive GivesName (line : List Char) : List Char → Prop
  /-- There is nothing behind the word. -/
  | usual {word : List Char} : word ∈ Word.name.spellings →
      Text.fields (Text.chomp line) = [word] → GivesName line Macro.usualName
  /-- The name is written behind the word. -/
  | verbatim {parts : Text.Split} : parts.word ∈ Word.name.spellings →
      parts.IsOf (Text.chomp line) → GivesName line parts.rest

variable {line text word : List Char} {args : List (List Char)}

theorem directive_nameLine (hword : word ∈ Word.name.spellings)
    (hfields : Text.fields (Text.chomp line) = word :: args) :
    directive line = .name (Text.splitOnce (Text.chomp line))[1]? :=
  directive_of_fields hfields hword

theorem GivesName.exists_directive (h : GivesName line text) :
    ∃ given, directive line = .name given ∧ given.getD Macro.usualName = text := by
  cases h with
  | usual hword hfields =>
    refine ⟨_, directive_nameLine hword hfields, ?_⟩
    rw [Text.splitOnce_eq hfields]
    rfl
  | verbatim hword hparts =>
    refine ⟨_, directive_nameLine hword hparts.fields_eq, ?_⟩
    rw [hparts.splitOnce_eq]
    rfl

/-- Every line that begins with the word gives a name. -/
theorem IsNameLine.exists_givesName (h : IsNameLine line) : ∃ text, GivesName line text := by
  obtain ⟨word, args, hfields, hword⟩ := h
  cases args with
  | nil => exact ⟨_, .usual hword hfields⟩
  | cons arg args =>
    have hparts := Text.isOf_split hfields
    have hsame : (Text.split (Text.chomp line)).word = word :=
      (List.cons.inj (hparts.fields_eq.symm.trans hfields)).1
    exact ⟨_, .verbatim (hsame.symm ▸ hword) hparts⟩

/-- Only a line that begins with the word gives a name. -/
theorem isNameLine_of_directive {given : Option (List Char)} (h : directive line = .name given) :
    IsNameLine line := by
  have hline : nameLine? line = some given := by rw [nameLine?_eq, h]; rfl
  unfold nameLine? at hline
  split at hline
  · cases hline
  next word args hfields => exact ⟨word, args, hfields, (Option.ite_none_right_eq_some.1 hline).1⟩

/-- A line that gives a name does nothing else. -/
theorem GivesName.step_eq (h : GivesName line text) (p : Progress) (number : Nat) :
    p.step number line = { p with name := text } := by
  obtain ⟨given, hdirective, rfl⟩ := h.exists_directive
  rw [Progress.step, hdirective]
  simp [Draft.advance, Draft.emit, Directive.notes]

/-- Behind the word for the name, splitting a line once and splitting it all over come to
    the same. If the word is the only field, there are no parts behind it, and the macro
    is given its usual name. If not, there is one way to write the line as four parts, the
    last of which is the name to the letter, and has the other fields. -/
theorem step_nameLine (p : Progress) (number : Nat) (hword : word ∈ Word.name.spellings)
    (hfields : Text.fields (Text.chomp line) = word :: args) :
    (args = [] ∧ Text.splitOnce (Text.chomp line) = [word] ∧
        (¬ ∃ parts : Text.Split, parts.IsOf (Text.chomp line)) ∧
        p.step number line = { p with name := Macro.usualName }) ∨
      (args ≠ [] ∧ ∃ parts : Text.Split, parts.IsOf (Text.chomp line) ∧
        (∀ other : Text.Split, other.IsOf (Text.chomp line) → other = parts) ∧
        parts.word = word ∧ Text.fields parts.rest = args ∧
        Text.splitOnce (Text.chomp line) = [word, parts.rest] ∧
        p.step number line = { p with name := parts.rest }) := by
  cases args with
  | nil =>
    refine .inl ⟨rfl, Text.splitOnce_eq hfields, ?_, (GivesName.usual hword hfields).step_eq p _⟩
    rw [Text.exists_isOf_iff, hfields]
    simp
  | cons arg args =>
    have hparts := Text.isOf_split hfields
    have hcut := hparts.fields_eq
    rw [hfields, List.cons.injEq] at hcut
    obtain ⟨hfirst, hrest⟩ := hcut
    have honce := hparts.splitOnce_eq
    rw [← hfirst] at honce
    rw [hfirst] at hword
    exact .inr ⟨List.cons_ne_nil _ _, _, hparts, fun other hother => hother.eq_split, hfirst.symm,
      hrest.symm, honce, (GivesName.verbatim hword hparts).step_eq p _⟩

/-- A name line with blanks of several kinds, some of them in the name. -/
def wideLine : List Char := "\t name\u3000\u00a0My \u2003 Macro\t \r\n".toList

/-- The blanks in the name and behind it are kept. -/
theorem step_wideLine : "name".toList ∈ Word.name.spellings ∧
    Text.fields (Text.chomp wideLine) = ["name".toList, "My".toList, "Macro".toList] ∧
    ({} : Progress).step 1 wideLine = { name := "My \u2003 Macro\t ".toList } := by
  have hword : "name".toList ∈ Word.name.spellings := by decide
  have hfields : Text.fields (Text.chomp wideLine) =
      ["name".toList, "My".toList, "Macro".toList] := by cbv
  refine ⟨hword, hfields, ?_⟩
  rcases step_nameLine {} 1 hword hfields with
    ⟨hnone, -⟩ | ⟨-, parts, -, -, -, -, honce, hstep⟩
  · cases hnone
  · have hsplit : Text.splitOnce (Text.chomp wideLine) =
        ["name".toList, "My \u2003 Macro\t ".toList] := by cbv
    rw [hsplit, List.cons.injEq, List.cons.injEq] at honce
    rw [hstep, ← honce.2.1]

end KeyMacro.Script
