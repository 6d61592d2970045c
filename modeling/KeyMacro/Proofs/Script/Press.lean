import KeyMacro.Proofs.Payload
import KeyMacro.Proofs.Script.Note
import KeyMacro.Proofs.Script.Run

/-!
# Presses spelled out

To press a key is short for three things: the key goes down, there is a delay, and
it goes up. A line with the word for it may be replaced by a line for each of these
(`spelledOut?`), and so may any number of such lines in a script (`spellOut`). The
events are not the same then, as a tap is a single event, but everything else is
(`compile_spellOut`): the payload, the name, the default delay, whether a delay is owed
in the end, and the notes on the script and its payload, but for the numbers of lines.

It matters that the three lines stand together. The delay that is owed to the key
stands before it in either case, and the delay line settles the one that would be
owed to the key going up.
-/

namespace KeyMacro.Script

/-! ## Directives that come to the same -/

/-- Whether two rows of directives do the same to every draft, and add events with
    the same opcodes. -/
def Agree (ds es : List Directive) : Prop :=
  ∀ draft : Draft, (draft.run ds).1 = (draft.run es).1 ∧
    Payload.opcodes (draft.run ds).2 = Payload.opcodes (draft.run es).2

theorem Agree.refl (ds : List Directive) : Agree ds ds := fun _ => ⟨rfl, rfl⟩

theorem Agree.append {ds es ds' es' : List Directive} (h : Agree ds es) (h' : Agree ds' es') :
    Agree (ds ++ ds') (es ++ es') := by
  intro draft
  obtain ⟨hdraft, hevents⟩ := h draft
  obtain ⟨hdraft', hevents'⟩ := h' (draft.run ds).1
  simp only [Draft.run_append, Payload.opcodes, List.flatMap_append] at hevents hevents' ⊢
  rw [← hdraft, hevents, hevents']
  exact ⟨hdraft', rfl⟩

/-- Pressing a key is the same as the key going down, a delay and the key going up. -/
theorem agree_press (hold : Option Duration) (code : KeyCode) :
    Agree [.key .down code, .delay hold, .key .up code] [.key (.press hold) code] := by
  intro draft
  simp [Draft.run, Draft.emit, Draft.advance, Draft.due, Stroke.event, Payload.opcodes,
    Event.opcodes]

/-! ## Press lines -/

/-- The three lines that say what a line with a word for pressing a key says, if the
    line has such a word, a token that names a key, and at most one further field. -/
def spelledOut? (line : List Char) : Option (List (List Char)) :=
  match Text.fields (Text.chomp line) with
  | word :: token :: times =>
    if Word.ofField? word = some .press ∧ (Key.resolve? token).isSome ∧ times.length ≤ 1 then
      some [Text.joined ["down".toList, token], Text.joined ("delay".toList :: times),
        Text.joined ["up".toList, token]]
    else none
  | _ => none

/-- A script in which the press lines at some places, counted from zero, are spelled
    out. -/
def spellOut (chosen : Nat → Bool) : List (List Char) → List (List Char)
  | [] => []
  | line :: rest =>
    (if chosen 0 then (spelledOut? line).getD [line] else [line]) ++
      spellOut (fun i => chosen (i + 1)) rest

/-- What a press line and the lines that it is spelled out as say. -/
theorem directives_spelledOut? {line : List Char} {long : List (List Char)}
    (h : spelledOut? line = some long) :
    ∃ hold code, directive line = .key (.press hold) code ∧
      directives long = [.key .down code, .delay hold, .key .up code] := by
  unfold spelledOut? at h
  split at h
  case h_2 => cases h
  next word token times hfields =>
    obtain ⟨⟨hword, hresolve, htimes⟩, hlong⟩ := Option.ite_none_right_eq_some.1 h
    obtain rfl := Option.some.inj hlong
    obtain ⟨code, hcode⟩ := Option.isSome_iff_exists.1 hresolve
    -- The arguments are written as they were read.
    have hargs : ∀ arg ∈ token :: times, Text.IsField arg := fun arg harg =>
      Text.isField_of_mem_fields (hfields ▸ List.mem_cons_of_mem _ harg)
    rw [List.forall_mem_cons] at hargs
    have hkey : ∀ arg ∈ [token], Text.IsField arg := List.forall_mem_singleton.2 hargs.1
    have hdown := directive_joined (show "down".toList ∈ Word.down.spellings by decide) hkey
    have hup := directive_joined (show "up".toList ∈ Word.up.spellings by decide) hkey
    have hdelay :=
      directive_joined (show "delay".toList ∈ Word.delay.spellings by decide) hargs.2
    have hpress : directive line = .ofWord .press (token :: times) (Text.chomp line) :=
      directive_of_fields hfields (Word.ofField?_eq_some_iff.1 hword)
    rw [directives_cons, directives_cons, directives_cons, hdown, hdelay, hup, hpress]
    rcases times with _ | ⟨time, _ | ⟨other, more⟩⟩
    · exact ⟨none, code, by simp [Directive.ofWord, Directive.ofKey, hcode, directives]⟩
    · exact ⟨durationOf? time, code, by simp [Directive.ofWord, Directive.ofKey, hcode, directives]⟩
    · simp at htimes

/-! ## Scripts -/

/-- What stands for a line, chosen or not, says what the line says. -/
theorem agree_line (chosen : Bool) (line : List Char) :
    Agree (directives (if chosen then (spelledOut? line).getD [line] else [line]))
      [directive line] := by
  split
  · cases h : spelledOut? line with
    | none => exact Agree.refl _
    | some long =>
      obtain ⟨hold, code, hline, hlong⟩ := directives_spelledOut? h
      rw [Option.getD_some, hlong, hline]
      exact agree_press hold code
  · exact Agree.refl _

theorem agree_spellOut (chosen : Nat → Bool) (lines : List (List Char)) :
    Agree (directives (spellOut chosen lines)) (directives lines) := by
  induction lines generalizing chosen with
  | nil => exact Agree.refl []
  | cons line rest ih =>
    rw [spellOut, directives_append, directives_cons]
    exact (agree_line (chosen 0) line).append (ih _)

/-- Neither a press line that can be spelled out nor any of the lines that stand for
    it is noted. -/
theorem notesFrom_line (chosen : Bool) (number : Nat) (line : List Char) :
    notesFrom number (if chosen then (spelledOut? line).getD [line] else [line]) =
      notesFrom number [line] := by
  split
  · cases h : spelledOut? line with
    | none => rfl
    | some long =>
      obtain ⟨hold, code, hline, hlong⟩ := directives_spelledOut? h
      rw [Option.getD_some, notesFrom_eq_nil, notesFrom_eq_nil]
      · rw [directives_cons, hline]
        simp [directives, Directive.isRejected]
      · rw [hlong]
        simp [Directive.isRejected]
  · rfl

theorem map_unnumbered_spellOut (chosen : Nat → Bool) (number : Nat)
    (lines : List (List Char)) :
    (notesFrom number (spellOut chosen lines)).map Note.unnumbered =
      (notesFrom number lines).map Note.unnumbered := by
  induction lines generalizing chosen number with
  | nil => rfl
  | cons line rest ih =>
    have hline : notesFrom number (line :: rest) =
        notesFrom number [line] ++ notesFrom (number + 1) rest :=
      notesFrom_append number [line] rest
    rw [spellOut, notesFrom_append, notesFrom_line, hline, List.map_append, List.map_append, ih]
    congr 1
    -- The later lines have other numbers now.
    exact map_unnumbered_notesFrom _ _ rest

/-- Any of the press lines of a script may be spelled out: the payload, the name, the
    default delay and the delay that is owed stay the same, and so do the notes on the
    script, but for the numbers of their lines, and on the payload. -/
theorem compile_spellOut (chosen : Nat → Bool) (lines : List (List Char)) :
    Payload.encode (compile (spellOut chosen lines)).events =
        Payload.encode (compile lines).events ∧
      (compile (spellOut chosen lines)).name = (compile lines).name ∧
      (compile (spellOut chosen lines)).defaultDelay = (compile lines).defaultDelay ∧
      (draftAfter (spellOut chosen lines)).owed = (draftAfter lines).owed ∧
      (notes (spellOut chosen lines)).map Note.unnumbered =
        (notes lines).map Note.unnumbered ∧
      Payload.notes (compile (spellOut chosen lines)).events =
        Payload.notes (compile lines).events := by
  obtain ⟨hdraft, hopcodes⟩ := agree_spellOut chosen lines {}
  have hafter : draftAfter (spellOut chosen lines) = draftAfter lines := hdraft
  refine ⟨Payload.encode_congr hopcodes, ?_, ?_, ?_, map_unnumbered_spellOut chosen 1 lines,
    Payload.notes_congr hopcodes⟩
  · rw [compile_eq, compile_eq, hafter]
  · rw [compile_eq, compile_eq, hafter]
  · rw [hafter]

example : spellOut (fun _ => true) ["press a 30".toList, "b".toList, "keypress enter".toList] =
    ["down a", "delay 30", "up a", "b", "down enter", "delay", "up enter"].map String.toList := by
  cbv

end KeyMacro.Script
