import KeyMacro.Proofs.Text.Field
import KeyMacro.Script

/-!
# Kinds of lines

What a line of a script does is settled by its fields, and the fields by the
line without the newlines at its end. Five kinds of lines do something:

* *key lines* (`keyLine?`), each of which makes one key event: those that begin
  with a word for a stroke, with an admitted number of fields and a token that
  names a key, and those that begin with the name of a key and no word;
* *delay lines* (`delayLine?`), which begin with `delay`;
* *waiving lines* (`isWaivingLine`), which begin with `nodelay`;
* *default delay lines* (`defaultDelayLine?`), which have a number from 1 to 999
  behind their word, and nothing else;
* *name lines* (`nameLine?`), which begin with `name`.

A line is read as a directive, and these are the lines of five kinds of
directives (`keyLine?_eq` and so on). A line that is written from a word and its
arguments is read as these (`directive_joined`).
-/

namespace KeyMacro.Script

/-! ## Words -/

/-- The spellings of a word. -/
def Word.spellings : Word → List (List Char)
  | delay => ["delay".toList]
  | defaultDelay => ["defaultdelay".toList, "default_delay".toList]
  | noDelay => ["nodelay".toList]
  | name => ["name".toList]
  | press => ["press".toList, "keypress".toList]
  | down => ["down".toList, "keydown".toList]
  | up => ["up".toList, "keyup".toList]

/-- The fields that are words, eleven in all. -/
def wordSpellings : List (List Char) :=
  Word.delay.spellings ++ Word.defaultDelay.spellings ++ Word.noDelay.spellings ++
    Word.name.spellings ++ Word.press.spellings ++ Word.down.spellings ++ Word.up.spellings

theorem Word.ofField?_eq_some_iff {field : List Char} {word : Word} :
    Word.ofField? field = some word ↔ field ∈ word.spellings := by
  obtain ⟨s, rfl⟩ : ∃ s : String, s.toList = field := ⟨String.ofList field, by simp⟩
  unfold Word.ofField?
  rw [String.ofList_toList]
  split
  -- A field that is none of the eleven words is no spelling of any.
  case h_12 =>
    cases word <;>
      simp only [Word.spellings, List.mem_cons, List.not_mem_nil, or_false, String.toList_inj,
        reduceCtorEq, false_iff, not_or] <;>
      simp_all
  all_goals cases word <;> decide

theorem mem_wordSpellings {field : List Char} :
    field ∈ wordSpellings ↔ ∃ word : Word, field ∈ word.spellings := by
  constructor
  · simp only [wordSpellings, List.mem_append]
    rintro ((((((h | h) | h) | h) | h) | h) | h)
    all_goals exact ⟨_, h⟩
  · rintro ⟨word, h⟩
    cases word <;> simp [wordSpellings, h]

theorem Word.isSome_ofField?_iff {field : List Char} :
    (Word.ofField? field).isSome ↔ field ∈ wordSpellings := by
  simp [Option.isSome_iff_exists, mem_wordSpellings, Word.ofField?_eq_some_iff]

/-! ## Lines -/

/-- The stroke and the key of a key line. -/
def keyLine? (line : List Char) : Option (Stroke × KeyCode) :=
  match Text.fields (Text.chomp line) with
  | [] => none
  | word :: args =>
    if word ∈ Word.press.spellings then
      match args with
      | [token] => (Key.resolve? token).map fun code => (.press none, code)
      | [token, field] => (Key.resolve? token).map fun code => (.press (durationOf? field), code)
      | _ => none
    else if word ∈ Word.down.spellings then
      match args with
      | [token] => (Key.resolve? token).map fun code => (.down, code)
      | _ => none
    else if word ∈ Word.up.spellings then
      match args with
      | [token] => (Key.resolve? token).map fun code => (.up, code)
      | _ => none
    else if word ∈ wordSpellings then none
    else (Key.resolve? word).map fun code => (.press none, code)

/-- The time that a delay line gives, if it gives any. -/
def delayLine? (line : List Char) : Option (Option Duration) :=
  match Text.fields (Text.chomp line) with
  | [] => none
  | word :: args =>
    if word ∈ Word.delay.spellings then
      some (match args with | [field] => durationOf? field | _ => none)
    else none

/-- Whether a line is a waiving line. -/
def isWaivingLine (line : List Char) : Bool :=
  match Text.fields (Text.chomp line) with
  | [] => false
  | word :: _ => word ∈ Word.noDelay.spellings

/-- The time of a default delay line. -/
def defaultDelayLine? (line : List Char) : Option Duration :=
  match Text.fields (Text.chomp line) with
  | [word, field] => if word ∈ Word.defaultDelay.spellings then defaultDelayOf? field else none
  | _ => none

/-- The name that a name line gives, if it gives any. -/
def nameLine? (line : List Char) : Option (Option (List Char)) :=
  match Text.fields (Text.chomp line) with
  | [] => none
  | word :: args =>
    if word ∈ Word.name.spellings then
      some (if args = [] then none else some (Text.afterFirst (Text.chomp line)))
    else none

/-! ## Directives of lines -/

/-- The directive of a line with newlines at its end. -/
def directive (line : List Char) : Directive := Directive.ofLine (Text.chomp line)

theorem directives_cons (line : List Char) (rest : List (List Char)) :
    directives (line :: rest) = directive line :: directives rest := rfl

theorem directives_append (first second : List (List Char)) :
    directives (first ++ second) = directives first ++ directives second :=
  List.map_append

namespace Directive

/-- The stroke and the key of a key event. -/
def key? : Directive → Option (Stroke × KeyCode)
  | key stroke code => some (stroke, code)
  | _ => none

/-- The time of a delay. -/
def delay? : Directive → Option (Option Duration)
  | delay time => some time
  | _ => none

/-- Whether a directive waives the delay before the next key event. -/
def isWaiver : Directive → Bool
  | noDelay => true
  | _ => false

/-- The default delay that a directive sets. -/
def defaultDelay? : Directive → Option Duration
  | defaultDelay time => some time
  | _ => none

/-- The name that a directive gives, if it gives any. -/
def name? : Directive → Option (Option (List Char))
  | name text => some text
  | _ => none

/-- A key token gives a key event or nothing. -/
theorem kinds_ofKey (stroke : Stroke) (token : List Char) :
    (ofKey stroke token).key? = (Key.resolve? token).map (fun code => (stroke, code)) ∧
      (ofKey stroke token).delay? = none ∧ (ofKey stroke token).isWaiver = false ∧
      (ofKey stroke token).defaultDelay? = none ∧ (ofKey stroke token).name? = none := by
  rw [ofKey]
  cases Key.resolve? token <;> exact ⟨rfl, rfl, rfl, rfl, rfl⟩

end Directive

/-- The directive of a line by its fields: there is none in front of the word,
    and a first field that is no word is taken for a key. -/
theorem directive_eq (line : List Char) : directive line =
    match Text.fields (Text.chomp line) with
    | [] => .blank
    | field :: args =>
      match Word.ofField? field with
      | some word => .ofWord word args (Text.chomp line)
      | none => .ofKey (.press none) field := rfl

/-- A line that begins with a word is read as the word and its arguments. -/
theorem directive_of_fields {line field : List Char} {word : Word} {args : List (List Char)}
    (hfields : Text.fields (Text.chomp line) = field :: args) (hfield : field ∈ word.spellings) :
    directive line = .ofWord word args (Text.chomp line) := by
  rw [directive_eq, hfields]
  simp only [Word.ofField?_eq_some_iff.2 hfield]

/-- The kinds of a line are those of its directive. -/
theorem kinds_eq (line : List Char) :
    keyLine? line = (directive line).key? ∧ delayLine? line = (directive line).delay? ∧
      isWaivingLine line = (directive line).isWaiver ∧
      defaultDelayLine? line = (directive line).defaultDelay? ∧
      nameLine? line = (directive line).name? := by
  rw [keyLine?, delayLine?, isWaivingLine, defaultDelayLine?, nameLine?, directive_eq]
  cases hfields : Text.fields (Text.chomp line) with
  | nil => exact ⟨rfl, rfl, rfl, rfl, rfl⟩
  | cons word args =>
    have hsplit := Text.splitOnce_eq hfields
    simp only [← Word.ofField?_eq_some_iff, ← Word.isSome_ofField?_iff]
    cases h : Word.ofField? word with
    | none =>
      rcases args with _ | ⟨a, _ | ⟨b, rest⟩⟩ <;> simp [h, Directive.kinds_ofKey]
    | some w =>
      -- A word looks at no more than its first two arguments and whether there are others.
      rcases args with _ | ⟨a, _ | ⟨b, _ | ⟨c, rest⟩⟩⟩ <;> cases w <;>
        simp only [Directive.ofWord, h, Directive.kinds_ofKey]
      case cons.nil.defaultDelay =>
        cases defaultDelayOf? a <;> exact ⟨rfl, rfl, rfl, rfl, rfl⟩
      all_goals
        simp [Directive.key?, Directive.delay?, Directive.isWaiver, Directive.defaultDelay?,
          Directive.name?, hsplit]

/-- Key lines are the lines that make a key event. -/
theorem keyLine?_eq (line : List Char) : keyLine? line = (directive line).key? :=
  (kinds_eq line).1

/-- Delay lines are the lines that make a delay by themselves. -/
theorem delayLine?_eq (line : List Char) : delayLine? line = (directive line).delay? :=
  (kinds_eq line).2.1

theorem isWaivingLine_eq (line : List Char) : isWaivingLine line = (directive line).isWaiver :=
  (kinds_eq line).2.2.1

theorem defaultDelayLine?_eq (line : List Char) :
    defaultDelayLine? line = (directive line).defaultDelay? :=
  (kinds_eq line).2.2.2.1

theorem nameLine?_eq (line : List Char) : nameLine? line = (directive line).name? :=
  (kinds_eq line).2.2.2.2

/-! ## Lines written from words -/

theorem isField_of_mem_spellings {word : Word} {field : List Char} (h : field ∈ word.spellings) :
    Text.IsField field := by
  revert field
  cases word <;> decide

/-- A line that is written from a word and its arguments is read as these. -/
theorem directive_joined {word : Word} {field : List Char} {args : List (List Char)}
    (hfield : field ∈ word.spellings) (hargs : ∀ arg ∈ args, Text.IsField arg) :
    directive (Text.joined (field :: args)) =
      .ofWord word args (Text.chomp (Text.joined (field :: args))) := by
  have hfields : Text.fields (Text.chomp (Text.joined (field :: args))) = field :: args := by
    rw [Text.fields_chomp, Text.fields_joined]
    rw [List.forall_mem_cons]
    exact ⟨isField_of_mem_spellings hfield, hargs⟩
  exact directive_of_fields hfields hfield

end KeyMacro.Script
