import KeyMacro.Proofs.Listing
import KeyMacro.Proofs.Script.Note

/-!
# Listings as scripts

A listing can be made a script again (`Listing.toScript`), by what its lines show: a
pause becomes a delay line, and a key that goes down or up a line for it. In front of
each of the latter is a line that waives the delay, since all delays that there are to
be have lines of their own. Padding becomes nothing.

From the listing of a script comes a script in which nothing is rejected, and whose
payload is the one that was listed (`compile_toScript`). For this the keys of the
listing must have names, and their names must be tokens of them, as they are for
all keys that a script can name.
-/

namespace KeyMacro

/-! ## Digits -/

/-- The digits of a number are no blanks, in either case of letters. -/
theorem isBlank_of_mem_toDigits {base n : Nat} (hlow : 1 < base) (hhigh : base ≤ 16) {c : Char}
    (h : c ∈ Nat.toDigits base n) : Text.isBlank c = false ∧ Text.isBlank c.toUpper = false := by
  have all : ∀ d < 16, Text.isBlank (Nat.digitChar d) = false ∧
      Text.isBlank (Nat.digitChar d).toUpper = false := by decide
  obtain ⟨d, hd, rfl⟩ := Numeral.exists_digitChar_of_mem_toDigits hlow h
  exact all d (Nat.lt_of_lt_of_le hd hhigh)

/-! ## Opcodes -/

namespace Opcode

/-- Whether an opcode has no key but one of the table. -/
def IsNamed (op : Opcode) : Prop := ∀ code ∈ op.key?, Key.IsNamed code

/-- The lines of a script for an opcode. -/
def scriptLines : Opcode → List (List Char)
  | delay time => [Text.joined ["delay".toList, Nat.toDigits 10 time]]
  | keyDown key => ["nodelay".toList, Text.joined ["down".toList, Key.nameOf key]]
  | keyUp key => ["nodelay".toList, Text.joined ["up".toList, Key.nameOf key]]

/-- What the lines of a script for an opcode say. -/
def directives : Opcode → List Script.Directive
  | delay time => [.delay (some time)]
  | keyDown key => [.noDelay, .key .down key]
  | keyUp key => [.noDelay, .key .up key]

theorem durationOf?_toDigits (time : Duration) :
    Script.durationOf? (Nat.toDigits 10 time) = some time := by
  have hlength : (Nat.toDigits 10 time).length ≤ 5 :=
    (Nat.length_toDigits_le_iff (by decide) (by decide)).2
      (Nat.lt_of_lt_of_le time.isLt (by decide))
  exact Script.durationOf?_eq_some_iff.2 (Numeral.integer?_toDigits (hlength.trans (by decide)))

theorem isField_toDigits (n : Nat) : Text.IsField (Nat.toDigits 10 n) :=
  ⟨Nat.toDigits_ne_nil, fun _ hc => (isBlank_of_mem_toDigits (by decide) (by decide) hc).1⟩

theorem directive_nodelay : Script.directive "nodelay".toList = .noDelay := by cbv

/-- A line with the name of a key is for a stroke of this key, without a delay if one
    is waived before. -/
theorem directives_stroke {word : Script.Word} {field : List Char} {stroke : Script.Stroke}
    (hfield : field ∈ word.spellings)
    (hword : ∀ token line, Script.Directive.ofWord word [token] line = .ofKey stroke token)
    {code : KeyCode} (h : Key.IsNamed code) :
    Script.directives ["nodelay".toList, Text.joined [field, Key.nameOf code.val]] =
      [.noDelay, .key stroke code] := by
  have hline : Script.directive (Text.joined [field, Key.nameOf code.val]) = .key stroke code := by
    rw [Script.directive_joined hfield (List.forall_mem_singleton.2 (Key.isField_nameOf h)), hword,
      Script.Directive.ofKey, Key.resolve?_nameOf h]
  rw [Script.directives_cons, Script.directives_cons, directive_nodelay, hline]
  rfl

theorem directives_delay (time : Duration) :
    Script.directives [Text.joined ["delay".toList, Nat.toDigits 10 time]] =
      [.delay (some time)] := by
  have hline := Script.directive_joined
    (show "delay".toList ∈ Script.Word.delay.spellings by decide)
    (List.forall_mem_singleton.2 (isField_toDigits time))
  rw [Script.directives_cons, hline, Script.Directive.ofWord, durationOf?_toDigits]
  rfl

theorem directives_scriptLines {op : Opcode} (h : op.IsNamed) :
    Script.directives op.scriptLines = op.directives := by
  cases op with
  | delay time => exact directives_delay time
  | keyDown key =>
    exact directives_stroke (show "down".toList ∈ Script.Word.down.spellings by decide)
      (fun _ _ => rfl) (h key rfl)
  | keyUp key =>
    exact directives_stroke (show "up".toList ∈ Script.Word.up.spellings by decide)
      (fun _ _ => rfl) (h key rfl)

theorem isRejected_of_mem_directives {op : Opcode} {d : Script.Directive}
    (h : d ∈ op.directives) : d.isRejected = false := by
  revert d
  cases op <;> simp [directives, Script.Directive.isRejected]

/-- Opcodes that are carried out as a script come out as they are: nothing is owed
    to a key, whatever the draft. -/
theorem opcodes_run_directives (draft : Script.Draft) (ops : List Opcode) :
    Payload.opcodes (draft.run (ops.flatMap directives)).2 = ops := by
  induction ops generalizing draft with
  | nil => rfl
  | cons op ops ih =>
    rw [List.flatMap_cons, Script.Draft.run_append, Payload.opcodes, List.flatMap_append,
      ← Payload.opcodes, ← Payload.opcodes, ih]
    cases op <;> rfl

end Opcode

namespace Listing

/-! ## Lines -/

/-- The lines of a script for what a line of a listing shows, which is of some kind
    and has an argument. -/
def linesFor (kind argument : List Char) : List (List Char) :=
  if kind = "KEYDOWN".toList then ["nodelay".toList, Text.joined ["down".toList, argument]]
  else if kind = "KEYUP".toList then ["nodelay".toList, Text.joined ["up".toList, argument]]
  else if kind = "DELAY".toList then [Text.joined ["delay".toList, argument]]
  else []

/-- The lines of a script for a line of a listing, of which the address is left
    out. -/
def scriptLines (line : List Char) : List (List Char) :=
  match Text.fields line with
  | [_, kind, argument] => linesFor kind argument
  | _ => []

/-- The script that a listing is made. -/
def toScript (listing : List (List Char)) : List (List Char) := listing.flatMap scriptLines

/-- The address at the beginning of a line. -/
def address (i : Nat) : List Char := "0x".toList ++ Numeral.hexPadded 4 (3 * i) ++ [':']

theorem isField_address (i : Nat) : Text.IsField (address i) := by
  refine ⟨by simp [address], fun c hc => ?_⟩
  rw [address, List.mem_append, List.mem_append, Numeral.hexPadded, List.mem_append, List.mem_map,
    List.mem_singleton] at hc
  rcases hc with (hc | hc | ⟨d, hd, rfl⟩) | rfl
  · have hfront : ∀ c ∈ ['0', 'x'], Text.isBlank c = false := by simp [Text.isBlank]
    exact hfront c hc
  · rw [List.eq_of_mem_replicate hc]
    decide
  · exact (isBlank_of_mem_toDigits (by decide) (by decide) hd).2
  · decide

/-- Of a line in a listing, what stands behind the address counts. -/
theorem scriptLines_lineAt (i : Nat) {kind argument : List Char} (hkind : Text.IsField kind)
    (hargument : Text.IsField argument) :
    scriptLines (lineAt i (kind ++ ' ' :: argument)) = linesFor kind argument := by
  have hline : lineAt i (kind ++ ' ' :: argument) =
      Text.joined [address i, kind, argument] := by
    simp [lineAt, address, Text.joined, List.intercalate_cons_cons, List.intercalate_singleton]
  rw [scriptLines, hline, Text.fields_joined]
  rw [List.forall_mem_cons, List.forall_mem_cons, List.forall_mem_singleton]
  exact ⟨isField_address i, hkind, hargument⟩

theorem scriptLines_text (i : Nat) {op : Opcode} (h : op.IsNamed) :
    scriptLines (lineAt i op.text) = op.scriptLines := by
  cases op with
  | delay time =>
    exact scriptLines_lineAt i (show Text.IsField "DELAY".toList by decide)
      (Opcode.isField_toDigits time)
  | keyDown key =>
    exact scriptLines_lineAt i (show Text.IsField "KEYDOWN".toList by decide)
      (Key.isField_nameOf (h key rfl))
  | keyUp key =>
    exact scriptLines_lineAt i (show Text.IsField "KEYUP".toList by decide)
      (Key.isField_nameOf (h key rfl))

theorem scriptLines_padding (i count : Nat) :
    scriptLines (lineAt i ("PADDING ".toList ++ Nat.toDigits 10 count)) = [] :=
  scriptLines_lineAt i (show Text.IsField "PADDING".toList by decide)
    (Opcode.isField_toDigits count)

/-! ## Scripts -/

/-- The script of the listing of opcodes has the lines for these, and no others. -/
theorem toScript_ofOpcodes {ops : List Opcode} (h : ∀ op ∈ ops, op.IsNamed) :
    toScript (ofOpcodes ops) = ops.flatMap Opcode.scriptLines := by
  have hlines : (ops.mapIdx fun i op => lineAt i op.text).flatMap scriptLines =
      ops.flatMap Opcode.scriptLines := by
    rw [List.flatMap_def, List.flatMap_def]
    congr 1
    refine List.ext_getElem (by simp) fun i hi hi' => ?_
    rw [List.getElem_map, List.getElem_mapIdx, List.getElem_map]
    exact scriptLines_text i (h _ (List.getElem_mem _))
  rw [toScript, ofOpcodes, List.flatMap_append, hlines]
  split
  · rw [List.flatMap_singleton, scriptLines_padding, List.append_nil]
  · rw [List.flatMap_nil, List.append_nil]

theorem directives_flatMap {ops : List Opcode} (h : ∀ op ∈ ops, op.IsNamed) :
    Script.directives (ops.flatMap Opcode.scriptLines) = ops.flatMap Opcode.directives := by
  rw [Script.directives, List.map_flatMap]
  exact List.flatMap_congr fun op hop => Opcode.directives_scriptLines (h op hop)

theorem isNamed_of_mem_opcodes (lines : List (List Char)) :
    ∀ op ∈ Payload.opcodes (Script.compile lines).events, op.IsNamed := by
  intro op hop code hcode
  obtain ⟨e, he, hop⟩ := List.mem_flatMap.1 hop
  exact ((Script.isSound_compile lines).keys e he code (Event.key?_of_mem_opcodes hop hcode)).1

/-- The listing of a script can be compiled again: nothing is rejected, and the
    payload is the same. -/
theorem compile_toScript (source : Script.Source) :
    ∃ listing, disassemble (Payload.encode (Script.compile source.toLines).events) = .ok listing ∧
      Script.notes (toScript listing) = [] ∧
      Payload.encode (Script.compile (toScript listing)).events =
        Payload.encode (Script.compile source.toLines).events := by
  have hnamed := isNamed_of_mem_opcodes source.toLines
  refine ⟨_, disassemble_encode (isOrdinary_compile source.toLines), ?_, ?_⟩
  · rw [toScript_ofOpcodes hnamed]
    refine Script.notesFrom_eq_nil ?_ 1
    rw [directives_flatMap hnamed]
    intro d hd
    obtain ⟨op, -, hd⟩ := List.mem_flatMap.1 hd
    exact Opcode.isRejected_of_mem_directives hd
  · refine Payload.encode_congr ?_
    rw [toScript_ofOpcodes hnamed]
    show Payload.opcodes (Script.Draft.run {} (Script.directives _)).2 = _
    rw [directives_flatMap hnamed, Opcode.opcodes_run_directives]

example : toScript ["0x0000: KEYDOWN A".toList, "0x0003: DELAY 30".toList,
      "0x0006: KEYUP A".toList, "0x0009: PADDING 1357".toList] =
    ["nodelay", "down A", "delay 30", "nodelay", "up A"].map String.toList := by
  decide +kernel

end Listing

end KeyMacro
