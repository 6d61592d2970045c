import KeyMacro.Proofs.Script.Note
import KeyMacro.Proofs.Script.Sound

/-!
# The log of a script

Every line of a script either leaves one record in the log, or is blank, or is carried
out. Which of these it is can be told from its fields (`IsRecordOf`):

* a line is reported as *malformed* if it begins with a word, and the word does not
  admit the fields behind it (`IsMalformed`);
* a token is reported if it stands where a line names its key (`IsKeyToken`), and there
  is no such key.

These are all the records, in the order of the lines and with their numbers. A line
without a record is carried out to the letter (`IsCarriedOut`): it adds its event to
the macro, or sets the default delay or the name, or waives the delay of the next key.
Such a log is *exact* (`IsExactLog`), and the log of every script is
(`notes_isExactLog`).
-/

namespace KeyMacro.Script

/-! ## Lines that are reported -/

/-- Whether a word is for something that is done with a key. -/
def Word.isStroke : Word → Bool
  | press | down | up => true
  | delay | defaultDelay | noDelay | name => false

/-- Whether a word admits the fields behind it. -/
def Word.Admits : Word → List (List Char) → Prop
  | defaultDelay, args =>
    ∃ field n, args = [field] ∧ Numeral.integer? field = some n ∧ 1 ≤ n ∧ n ≤ 999
  | press, args => args.length = 1 ∨ args.length = 2
  | down, args => args.length = 1
  | up, args => args.length = 1
  | delay, _ => True
  | noDelay, _ => True
  | name, _ => True

/-- Whether a line begins with a word that does not admit the other fields. -/
def IsMalformed (line : List Char) : Prop :=
  ∃ (word : Word) (field : List Char) (args : List (List Char)),
    Text.fields (Text.chomp line) = field :: args ∧ field ∈ word.spellings ∧ ¬ word.Admits args

/-- Whether a token stands where a line names its key. -/
inductive IsKeyToken (line token : List Char) : Prop
  /-- Behind a word for something that is done with a key. -/
  | behind {word : Word} {field : List Char} {more : List (List Char)} :
      Text.fields (Text.chomp line) = field :: token :: more → word.isStroke = true →
      field ∈ word.spellings → word.Admits (token :: more) → IsKeyToken line token
  /-- In front of a line that has no word. -/
  | front {args : List (List Char)} :
      Text.fields (Text.chomp line) = token :: args → token ∉ wordSpellings →
      IsKeyToken line token

/-- What is reported about the line of a number. -/
inductive IsRecordOf (number : Nat) (line : List Char) : String → Prop
  | malformed : IsMalformed line → IsRecordOf number line
      s!"line {number}: ignoring malformed line '{String.ofList (Text.chomp line)}'"
  | unknownKey {token : List Char} : IsKeyToken line token → Key.resolve? token = none →
      IsRecordOf number line s!"could not parse key name '{String.ofList token}', ignoring"

/-! ### Rejected directives -/

theorem Directive.ofKey_ne_malformed (stroke : Stroke) (token : List Char) :
    ofKey stroke token ≠ rejected .malformed := by
  rw [ofKey]
  split <;> simp

theorem Directive.ofKey_eq_unknownKey_iff {stroke : Stroke} {field token : List Char} :
    ofKey stroke field = rejected (.unknownKey token) ↔
      field = token ∧ Key.resolve? token = none := by
  rw [ofKey]
  split
  · next code h =>
    simp only [reduceCtorEq, false_iff, not_and]
    rintro rfl hnone
    rw [h] at hnone
    cases hnone
  · next h =>
    simp only [rejected.injEq, Rejection.unknownKey.injEq, iff_self_and]
    rintro rfl
    exact h

theorem isSome_defaultDelayOf?_iff {field : List Char} : (defaultDelayOf? field).isSome ↔
    ∃ n, Numeral.integer? field = some n ∧ 1 ≤ n ∧ n ≤ 999 := by
  simp only [Option.isSome_iff_exists, defaultDelayOf?_eq_some_iff]
  constructor
  · rintro ⟨time, hfield, hlow, hhigh⟩
    exact ⟨time.val, hfield, by omega, by omega⟩
  · rintro ⟨n, hfield, hlow, hhigh⟩
    obtain ⟨time, rfl⟩ : ∃ time : Duration, n = (time.val : Int) :=
      ⟨⟨n.toNat, by omega⟩, (Int.toNat_of_nonneg (by omega)).symm⟩
    exact ⟨time, hfield, by omega, by omega⟩

theorem Directive.ofWord_eq_malformed_iff {word : Word} {args : List (List Char)}
    {line : List Char} : ofWord word args line = rejected .malformed ↔ ¬ word.Admits args := by
  -- Each word counts its arguments before it looks at any of them.
  cases word with
  | delay => rcases args with _ | ⟨a, _ | ⟨b, more⟩⟩ <;> simp [ofWord, Word.Admits]
  | defaultDelay =>
    rcases args with _ | ⟨a, _ | ⟨b, more⟩⟩
    · simp [ofWord, Word.Admits]
    · have hadmits : Word.Admits .defaultDelay [a] ↔ (defaultDelayOf? a).isSome := by
        simp [isSome_defaultDelayOf?_iff, Word.Admits]
      rw [hadmits, ofWord]
      cases defaultDelayOf? a <;> simp
    · simp [ofWord, Word.Admits]
  | noDelay => simp [ofWord, Word.Admits]
  | name => cases args <;> simp [ofWord, Word.Admits]
  | press =>
    rcases args with _ | ⟨a, _ | ⟨b, _ | ⟨c, more⟩⟩⟩ <;>
      simp [ofWord, Word.Admits, ofKey_ne_malformed]
  | down | up =>
    rcases args with _ | ⟨a, _ | ⟨b, more⟩⟩ <;> simp [ofWord, Word.Admits, ofKey_ne_malformed]

theorem Directive.ofWord_eq_unknownKey_iff {word : Word} {args : List (List Char)}
    {line token : List Char} : ofWord word args line = rejected (.unknownKey token) ↔
      word.isStroke = true ∧ word.Admits args ∧ args.head? = some token ∧
        Key.resolve? token = none := by
  cases word with
  | delay => rcases args with _ | ⟨a, _ | ⟨b, more⟩⟩ <;> simp [ofWord, Word.isStroke]
  | defaultDelay =>
    rcases args with _ | ⟨a, _ | ⟨b, more⟩⟩ <;> simp [ofWord, Word.isStroke]
    split <;> simp
  | noDelay => simp [ofWord, Word.isStroke]
  | name => cases args <;> simp [ofWord, Word.isStroke]
  | press =>
    rcases args with _ | ⟨a, _ | ⟨b, _ | ⟨c, more⟩⟩⟩ <;>
      simp [ofWord, Word.Admits, Word.isStroke, ofKey_eq_unknownKey_iff]
  | down | up =>
    rcases args with _ | ⟨a, _ | ⟨b, more⟩⟩ <;>
      simp [ofWord, Word.Admits, Word.isStroke, ofKey_eq_unknownKey_iff]

/-- The malformed lines are those that are rejected as such. -/
theorem directive_eq_malformed_iff {line : List Char} :
    directive line = .rejected .malformed ↔ IsMalformed line := by
  rw [directive_eq, IsMalformed]
  cases Text.fields (Text.chomp line) with
  | nil => simp
  | cons field args =>
    cases hword : Word.ofField? field with
    | none =>
      -- A line without a word is never malformed.
      have hnot : ∀ word : Word, field ∉ word.spellings := by
        intro word hfield
        rw [← Word.ofField?_eq_some_iff, hword] at hfield
        cases hfield
      simp [hnot, Directive.ofKey_ne_malformed, hword]
    | some word =>
      simp only [hword, Directive.ofWord_eq_malformed_iff, List.cons.injEq]
      constructor
      · intro h
        exact ⟨word, field, args, ⟨rfl, rfl⟩, Word.ofField?_eq_some_iff.1 hword, h⟩
      · rintro ⟨other, _, _, ⟨rfl, rfl⟩, hother, h⟩
        rw [← Word.ofField?_eq_some_iff, hword] at hother
        cases hother
        exact h

/-- The lines that are rejected for a token are those whose key token names no key. -/
theorem directive_eq_unknownKey_iff {line token : List Char} :
    directive line = .rejected (.unknownKey token) ↔
      IsKeyToken line token ∧ Key.resolve? token = none := by
  constructor
  · intro h
    rw [directive_eq] at h
    cases hfields : Text.fields (Text.chomp line) with
    | nil =>
      rw [hfields] at h
      cases h
    | cons field args =>
      rw [hfields] at h
      cases hword : Word.ofField? field with
      | none =>
        simp only [hword, Directive.ofKey_eq_unknownKey_iff] at h
        obtain ⟨rfl, hkey⟩ := h
        refine ⟨.front hfields ?_, hkey⟩
        rw [← Word.isSome_ofField?_iff, hword]
        exact Bool.false_ne_true
      | some word =>
        simp only [hword, Directive.ofWord_eq_unknownKey_iff, List.head?_eq_some_iff] at h
        obtain ⟨hstroke, hadmits, ⟨more, rfl⟩, hkey⟩ := h
        exact ⟨.behind hfields hstroke (Word.ofField?_eq_some_iff.1 hword) hadmits, hkey⟩
  · rintro ⟨htoken, hkey⟩
    cases htoken with
    | behind hfields hstroke hfield hadmits =>
      rw [directive_of_fields hfields hfield, Directive.ofWord_eq_unknownKey_iff]
      exact ⟨hstroke, hadmits, rfl, hkey⟩
    | front hfields hfield =>
      rw [← Word.isSome_ofField?_iff, Option.not_isSome_iff_eq_none] at hfield
      rw [directive_eq]
      simp only [hfields, hfield, Directive.ofKey_eq_unknownKey_iff]
      exact ⟨trivial, hkey⟩

/-! ## Records -/

/-- The record that the line of a number leaves in the log, if any. -/
def record? (number : Nat) (line : List Char) : Option String :=
  ((directive line).notes number (Text.chomp line)).head?.map Note.message

theorem record?_eq_some_iff {number : Nat} {line : List Char} {text : String} :
    record? number line = some text ↔ IsRecordOf number line text := by
  rw [record?]
  constructor
  · intro h
    match hd : directive line with
    | .rejected .malformed =>
      rw [hd] at h
      cases h
      exact .malformed (directive_eq_malformed_iff.1 hd)
    | .rejected (.unknownKey token) =>
      rw [hd] at h
      cases h
      obtain ⟨htoken, hkey⟩ := directive_eq_unknownKey_iff.1 hd
      exact .unknownKey htoken hkey
    | .blank | .delay _ | .defaultDelay _ | .noDelay | .name _ | .key _ _ =>
      rw [hd] at h
      cases h
  · rintro (hmalformed | ⟨htoken, hkey⟩)
    · rw [directive_eq_malformed_iff.2 hmalformed]
      rfl
    · rw [directive_eq_unknownKey_iff.2 ⟨htoken, hkey⟩]
      rfl

/-- A line is noted once at most. -/
theorem Directive.map_message_notes (d : Directive) (number : Nat) (line : List Char) :
    (d.notes number line).map Note.message =
      ((d.notes number line).head?.map Note.message).toList := by
  cases d with
  | rejected cause => cases cause <;> rfl
  | blank | delay | defaultDelay | noDelay | name | key => rfl

/-- The notes on lines are worded as their records, one line after the other. -/
theorem map_message_notesFrom (number : Nat) (lines : List (List Char)) :
    (notesFrom number lines).map Note.message =
      (lines.zipIdx number).filterMap fun entry => record? entry.2 entry.1 := by
  induction lines generalizing number with
  | nil => rfl
  | cons line lines ih =>
    rw [notesFrom_cons, List.map_append, Directive.map_message_notes, ih, List.zipIdx_cons,
      List.filterMap_cons, ← record?]
    cases record? number line <;> rfl

/-! ## Lines that are carried out -/

/-- What a line that is carried out adds to the macro of the lines before it, or changes
    in it, and whether a delay is owed then. -/
inductive IsCarriedOut (before : List (List Char)) (line : List Char) : Prop
  /-- A key line adds its event, behind the delay that is owed. -/
  | key {stroke : Stroke} {code : KeyCode} : keyLine? line = some (stroke, code) →
      compile (before ++ [line]) = { compile before with
        events := (compile before).events ++
          ((draftAfter before).due ++ [stroke.event code (inForce before)]) } →
      (draftAfter (before ++ [line])).owed = true → IsCarriedOut before line
  /-- A delay line adds its delay. -/
  | delay {time : Option Duration} : delayLine? line = some time →
      compile (before ++ [line]) = { compile before with
        events := (compile before).events ++ [.delay (time.getD (inForce before))] } →
      (draftAfter (before ++ [line])).owed = false → IsCarriedOut before line
  /-- A waiving line adds nothing, and no delay is owed any more. -/
  | waiver : isWaivingLine line = true → compile (before ++ [line]) = compile before →
      (draftAfter (before ++ [line])).owed = false → IsCarriedOut before line
  /-- A default delay line sets the default delay. -/
  | defaultDelay {time : Duration} : defaultDelayLine? line = some time →
      compile (before ++ [line]) = { compile before with defaultDelay := (time.val : Int) } →
      (draftAfter (before ++ [line])).owed = (draftAfter before).owed → IsCarriedOut before line
  /-- A name line sets the name. -/
  | name {text : Option (List Char)} : nameLine? line = some text →
      compile (before ++ [line]) = { compile before with
        name := text.getD Macro.usualName } →
      (draftAfter (before ++ [line])).owed = (draftAfter before).owed → IsCarriedOut before line

/-- The macro of a script with another line. -/
theorem compile_concat (before : List (List Char)) (line : List Char) :
    compile (before ++ [line]) =
      { name := ((draftAfter before).advance (directive line)).name
        defaultDelay := (((draftAfter before).advance (directive line)).defaultDelay.val : Int)
        events := (compile before).events ++ (draftAfter before).emit (directive line) } := by
  rw [compile_eq, compile_events, draftAfter_concat, eventsAfter_append, List.nil_append,
    eventsAfter_cons, eventsAfter_nil, List.append_nil]

/-- A line whose directive is to do something is carried out. -/
theorem isCarriedOut_of_directive (before : List (List Char)) {line : List Char}
    (hblank : directive line ≠ .blank) (hrejected : (directive line).isRejected = false) :
    IsCarriedOut before line := by
  have hadded := compile_concat before line
  have hdraft := draftAfter_concat before line
  cases hd : directive line with
  | blank => exact absurd hd hblank
  | rejected cause =>
    rw [hd] at hrejected
    cases hrejected
  | key stroke code =>
    refine .key (by rw [keyLine?_eq, hd]; rfl) ?_ (by rw [hdraft, hd]; rfl)
    rw [hadded, hd, ← defaultDelay_draftAfter]
    rfl
  | delay time =>
    refine .delay (by rw [delayLine?_eq, hd]; rfl) ?_ (by rw [hdraft, hd]; rfl)
    rw [hadded, hd, ← defaultDelay_draftAfter]
    rfl
  | noDelay =>
    refine .waiver (by rw [isWaivingLine_eq, hd]; rfl) ?_ (by rw [hdraft, hd]; rfl)
    rw [hadded, hd]
    simp [compile_eq, Draft.advance, Draft.emit]
  | defaultDelay time =>
    refine .defaultDelay (by rw [defaultDelayLine?_eq, hd]; rfl) ?_ (by rw [hdraft, hd]; rfl)
    rw [hadded, hd]
    simp [compile_eq, Draft.advance, Draft.emit]
  | name text =>
    refine .name (by rw [nameLine?_eq, hd]; rfl) ?_ (by rw [hdraft, hd]; rfl)
    rw [hadded, hd]
    simp [compile_eq, Draft.advance, Draft.emit]

theorem Directive.ofKey_ne_blank (stroke : Stroke) (token : List Char) :
    ofKey stroke token ≠ blank := by
  rw [ofKey]
  split <;> simp

theorem Directive.ofWord_ne_blank (word : Word) (args : List (List Char)) (line : List Char) :
    ofWord word args line ≠ blank := by
  rw [ofWord.eq_def]
  repeat' split
  all_goals simp [ofKey_ne_blank]

theorem directive_ne_blank {line : List Char} (h : Text.fields (Text.chomp line) ≠ []) :
    directive line ≠ .blank := by
  obtain ⟨field, args, hfields⟩ := List.exists_cons_of_ne_nil h
  rw [directive_eq, hfields]
  cases hword : Word.ofField? field with
  | none => simpa only [hword] using Directive.ofKey_ne_blank _ _
  | some word => simpa only [hword] using Directive.ofWord_ne_blank _ _ _

/-! ## Exact logs -/

/-- A log that says of each line what there is to say, and nothing else. -/
structure IsExactLog (log : List String) (lines : List (List Char)) : Prop where
  /-- It has the records of the lines in their order, and one at most of each. -/
  records : log = (lines.zipIdx 1).filterMap fun entry => record? entry.2 entry.1
  /-- The record of a line says that it is malformed or that its token names no key,
      and there is one whenever that is so. -/
  causes : ∀ {before after : List (List Char)} {line : List Char} {text : String},
    lines = before ++ line :: after →
      (record? (before.length + 1) line = some text ↔ IsRecordOf (before.length + 1) line text)
  /-- A line without a record is blank or carried out. -/
  others : ∀ {before after : List (List Char)} {line : List Char},
    lines = before ++ line :: after → record? (before.length + 1) line = none →
      Text.fields (Text.chomp line) = [] ∨ IsCarriedOut before line

theorem isRejected_of_record?_eq_none {number : Nat} {line : List Char}
    (h : record? number line = none) : (directive line).isRejected = false := by
  rw [record?] at h
  match hd : directive line with
  | .rejected .malformed | .rejected (.unknownKey token) =>
    rw [hd] at h
    cases h
  | .blank | .delay _ | .defaultDelay _ | .noDelay | .name _ | .key _ _ => rfl

/-- The log of a script is exact. -/
theorem notes_isExactLog (lines : List (List Char)) :
    IsExactLog ((notes lines).map Note.message) lines where
  records := map_message_notesFrom 1 lines
  causes _ := record?_eq_some_iff
  others := by
    intro before after line _ hrecord
    refine or_iff_not_imp_left.2 fun hfields => ?_
    exact isCarriedOut_of_directive before (directive_ne_blank hfields)
      (isRejected_of_record?_eq_none hrecord)

example : notes ["defaultdelay 0".toList, "nodelay".toList, "press a b c\n".toList, "".toList,
    "down nokey".toList] =
    [.malformed 1 "defaultdelay 0".toList, .malformed 3 "press a b c".toList,
      .unknownKey "nokey".toList] := by
  cbv

end KeyMacro.Script
