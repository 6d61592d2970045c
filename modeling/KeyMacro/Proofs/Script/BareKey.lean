import Mathlib
import KeyMacro.Proofs.Script.Progress

/-!
# Lines that are just a key

A line that is nothing but a token of a key does what it does to press the key: the token
may stand alone, without the word for pressing (`step_token_iff`). Two tokens are words
at the same time, `up` and `down`. A line that begins with a word is never read as a key,
and so these two keys can be pressed by the word for pressing only.
-/

namespace KeyMacro.Script

variable {token : List Char} {code : KeyCode}

/-- The line with the word for pressing and a token. -/
def pressLine (token : List Char) : List Char := Text.joined ["press".toList, token]

/-- The macro in which a key has just been pressed for the default delay. -/
def Progress.pressed (p : Progress) (code : KeyCode) : Progress :=
  { p with owed := true, events := p.events ++ (p.due ++ [.keyTap code p.defaultDelay]) }

/-! ## Tokens that are words -/

/-- Among the words, there are two tokens of keys. -/
theorem words_table : ∀ word ∈ wordSpellings, (Key.resolve? word).isSome →
    word ∈ Word.up.spellings ∧ word = "up".toList ∨
      word ∈ Word.down.spellings ∧ word = "down".toList := by
  decide +kernel

theorem isField_of_resolve? (hblank : ∀ c ∈ token, Text.isBlank c = false)
    (hkey : Key.resolve? token = some code) : Text.IsField token := by
  refine ⟨?_, hblank⟩
  rintro rfl
  have hnone : Key.resolve? [] = none := by decide +kernel
  rw [hnone] at hkey
  cases hkey

/-! ## Directives -/

theorem directive_pressLine (hfield : Text.IsField token) (hkey : Key.resolve? token = some code) :
    directive (pressLine token) = .key (.press none) code := by
  have hargs : ∀ arg ∈ [token], Text.IsField arg := List.forall_mem_singleton.2 hfield
  have hword : "press".toList ∈ Word.press.spellings := by decide
  rw [pressLine, directive_joined hword hargs]
  simp [Directive.ofWord, Directive.ofKey, hkey]

theorem fields_token (hfield : Text.IsField token) : Text.fields (Text.chomp token) = [token] := by
  have hfields := Text.fields_joined (List.forall_mem_singleton.2 hfield)
  rwa [Text.joined, List.intercalate_singleton, ← Text.fields_chomp] at hfields

/-- A token that is no word is read as a key to press. -/
theorem directive_token (hfield : Text.IsField token) (hkey : Key.resolve? token = some code)
    (hword : token ∉ wordSpellings) : directive token = .key (.press none) code := by
  rw [← Word.isSome_ofField?_iff, Option.not_isSome_iff_eq_none] at hword
  rw [directive_eq, fields_token hfield]
  simp [hword, Directive.ofKey, hkey]

/-- The words for a key going down or up want another token behind them. -/
theorem directive_word {word : Word} (hword : token ∈ word.spellings)
    (hstroke : word = .up ∨ word = .down) : directive token = .rejected .malformed := by
  rw [directive_of_fields (fields_token (isField_of_mem_spellings hword)) hword]
  rcases hstroke with rfl | rfl <;> rfl

/-! ## Macros under construction -/

theorem step_of_press (p : Progress) (number : Nat) {line : List Char}
    (h : directive line = .key (.press none) code) : p.step number line = p.pressed code := by
  rw [Progress.step, h]
  simp [Progress.pressed, Draft.advance, Draft.emit, Stroke.event, Directive.notes]

/-- To whatever macro, a line that is a token of a key does the same as the line that has
    the word for pressing in front of the token, if the token is not `up` or `down`, and
    only then. -/
theorem step_token_iff (hblank : ∀ c ∈ token, Text.isBlank c = false)
    (hkey : Key.resolve? token = some code) (p : Progress) (number : Nat) :
    p.step number (pressLine token) = p.pressed code ∧
      (p.step number token = p.step number (pressLine token) ↔
        token ≠ "up".toList ∧ token ≠ "down".toList) := by
  have hfield := isField_of_resolve? hblank hkey
  have hpress := step_of_press p number (directive_pressLine hfield hkey)
  refine ⟨hpress, ?_⟩
  rw [hpress]
  by_cases hword : token ∈ wordSpellings
  · -- The line is noted, which the other one is not.
    have hrejected : directive token = .rejected .malformed := by
      rcases words_table token hword (by rw [hkey]; rfl) with ⟨h, -⟩ | ⟨h, -⟩
      · exact directive_word h (.inl rfl)
      · exact directive_word h (.inr rfl)
    refine iff_of_false (fun heq => ?_) fun hne => ?_
    · have hlog := congrArg Progress.log heq
      rw [Progress.step, hrejected] at hlog
      simp [Progress.pressed, Directive.notes] at hlog
    · rcases words_table token hword (by rw [hkey]; rfl) with ⟨-, h⟩ | ⟨-, h⟩
      · exact hne.1 h
      · exact hne.2 h
  · refine iff_of_true (step_of_press p number (directive_token hfield hkey hword)) ⟨?_, ?_⟩
    · rintro rfl
      exact hword (by decide)
    · rintro rfl
      exact hword (by decide)

/-- A key whose token is a mark, behind another key and with a default delay of its
    own. -/
theorem step_backtick :
    (∀ c ∈ "`".toList, Text.isBlank c = false) ∧ Key.resolve? "`".toList = some 192 ∧
      ({ defaultDelay := 40, owed := true } : Progress).step 7 "`".toList =
        ({ defaultDelay := 40, owed := true } : Progress).step 7 (pressLine "`".toList) ∧
      ({ defaultDelay := 40, owed := true } : Progress).step 7 "`".toList =
        { defaultDelay := 40, owed := true, events := [.delay 40, .keyTap 192 40] } := by
  have hblank : ∀ c ∈ "`".toList, Text.isBlank c = false :=
    (show Text.IsField "`".toList by decide).2
  have hkey : Key.resolve? "`".toList = some 192 := by decide +kernel
  obtain ⟨hpressed, hsame⟩ :=
    step_token_iff hblank hkey ({ defaultDelay := 40, owed := true } : Progress) 7
  have hstep := hsame.2 ⟨by decide, by decide⟩
  exact ⟨hblank, hkey, hstep, hstep.trans hpressed⟩

/-- A token that is a word at the same time is rejected when it stands alone. -/
theorem step_up_ne_press :
    ¬ ∀ (token : List Char) (code : KeyCode), (∀ c ∈ token, Text.isBlank c = false) →
      Key.resolve? token = some code →
      ∀ (p : Progress) (number : Nat), p.step number token = p.step number (pressLine token) := by
  intro h
  have hblank : ∀ c ∈ "up".toList, Text.isBlank c = false :=
    (show Text.IsField "up".toList by decide).2
  have hkey : Key.resolve? "up".toList = some 38 := by decide +kernel
  have hup := congrArg Progress.log (h "up".toList 38 hblank hkey {} 1)
  have hnoted : (Progress.step {} 1 "up".toList).log = [.malformed 1 "up".toList] := by cbv
  have hpressed : (Progress.step {} 1 (pressLine "up".toList)).log = [] := by cbv
  rw [hnoted, hpressed] at hup
  cases hup

end KeyMacro.Script
