import KeyMacro.Proofs.Profile.File
import KeyMacro.Proofs.Script.File
import KeyMacro.Proofs.Script.Setting
import KeyMacro.Proofs.Script.String
import KeyMacro.Proofs.Text.Cut

/-!
# The layout of profiles

The profile of a script is a document of fifteen lines: the declaration, the tag that opens
the root element, a line for each of the twelve fields, and the tag that closes the root
element (`document_isLaidOut`). A name that had a newline in it would break the line of its
field. But a script is cut into lines before there are names, and all ends of lines are lost
on the way (`isOneLine_name`).

What stands between the tags of a field is its text with the escapes, and these can be undone.
So the name can be told from its line, whatever it looks like, but for surrogates: these are
written as references, which are left as they are (`unescape_escapePoints`). Only a script that
is held as a string may have surrogates in its name.
-/

namespace KeyMacro

open Text (CodePoint)

/-! ## Names of scripts -/

namespace Script

/-- The macros that are compiled from a whole text, and those that are compiled from a file. -/
inductive IsCompiled : Macro → Prop
  | text (cs : List Char) : IsCompiled (compile (ofText cs))
  | file {bytes : List UInt8} {notes : List Note} {made : Macro} :
      compileFile bytes = (notes, .ok made) → IsCompiled made

variable {made : Macro} {lines : List (List Char)} {line name : List Char}

theorem isOneLine_of_givesName (hline : Text.IsOneLine line) (h : GivesName line name) :
    Text.IsOneLine name := by
  cases h with
  | usual => decide
  | verbatim _ hparts =>
    intro c hc
    have hchomp : c ∈ Text.chomp line := by
      rw [hparts.text]
      exact List.mem_append_right _ hc
    exact hline c (Text.mem_of_mem_chomp hchomp)

/-- Where no line has ends of lines in it, the name has none. -/
theorem isOneLine_name (h : ∀ line ∈ lines, Text.IsOneLine line) :
    Text.IsOneLine (compile lines).name := by
  have hset := isLastSet_name lines
  generalize (compile lines).name = name at hset
  cases hset with
  | usual => decide
  | last hgives =>
    exact isOneLine_of_givesName (h _ (List.mem_append_right _ List.mem_cons_self)) hgives

theorem isOneLine_of_mem_pointLines {string line : List CodePoint}
    (h : line ∈ Text.pointLines string) : Text.IsOneLine (Text.kinds line) := by
  have hmem : Text.kinds line ∈ Text.lines (Text.kinds string) := by
    rw [← Text.map_kinds_pointLines]
    exact List.mem_map_of_mem h
  exact Text.isOneLine_of_mem_lines hmem

/-- Whichever way a script is compiled, its lines have been cut at their ends. -/
theorem IsCompiled.exists_lines (h : IsCompiled made) :
    ∃ lines, made.toStringMacro = compileStrings lines ∧
      ∀ line ∈ lines, Text.IsOneLine (Text.kinds line) := by
  cases h with
  | text cs =>
    exact ⟨_, (compileString_points cs).symm, fun _ => isOneLine_of_mem_pointLines⟩
  | file hfile =>
    obtain ⟨cs, rfl⟩ := exists_of_compileFile hfile
    rw [compileFile_encode] at hfile
    cases hfile
    refine ⟨_, (compileStrings_points _).symm, List.forall_mem_map.2 fun line hline => ?_⟩
    rw [Text.kinds_points]
    exact Text.isOneLine_of_mem_fileLines hline

end Script

namespace Profile

/-! ## Escapes undone -/

/-- A text of a document with its escapes undone. -/
def unescape : List Char → List Char
  | '&' :: 'a' :: 'm' :: 'p' :: ';' :: cs => '&' :: unescape cs
  | '&' :: 'l' :: 't' :: ';' :: cs => '<' :: unescape cs
  | '&' :: 'g' :: 't' :: ';' :: cs => '>' :: unescape cs
  | c :: cs => c :: unescape cs
  | [] => []

theorem unescape_cons {c : Char} (h : c ≠ '&') (cs : List Char) :
    unescape (c :: cs) = c :: unescape cs := by
  rw [unescape]
  all_goals
    rintro _ rfl
    exact absurd rfl h

theorem unescape_append_of_notMem {front : List Char} (h : '&' ∉ front) (cs : List Char) :
    unescape (front ++ cs) = front ++ unescape cs := by
  induction front with
  | nil => rfl
  | cons c front ih =>
    rw [List.mem_cons, not_or] at h
    rw [List.cons_append, unescape_cons (Ne.symm h.1), ih h.2, List.cons_append]

theorem unescape_escapeChar (c : Char) (cs : List Char) :
    unescape (escapeChar c ++ cs) = c :: unescape cs := by
  by_cases hc : IsMarkup c
  · rcases hc with rfl | rfl | rfl
    all_goals rfl
  · rw [escapeChar_eq hc, List.singleton_append, unescape_cons fun hand => hc (.inl hand)]

/-- A reference is no escape. -/
theorem unescape_reference (index : Fin 2048) (cs : List Char) :
    unescape (escapePoint (.surrogate index) ++ cs) =
      escapePoint (.surrogate index) ++ unescape cs := by
  have hhand : '&' ∉ '#' :: Nat.toDigits 10 (CodePoint.firstSurrogate + index) ++ [';'] := by
    simp only [List.mem_append, List.mem_cons, List.not_mem_nil, or_false, not_or]
    exact ⟨⟨by decide, fun h => absurd (Numeral.isDigit_of_mem_toDigits h) (by decide)⟩,
      by decide⟩
  have htail (rest : List Char) :
      unescape ('&' :: '#' :: rest) = '&' :: unescape ('#' :: rest) := by
    rw [unescape]
    all_goals simp
  simp only [escapePoint, List.cons_append, htail]
  exact congrArg ('&' :: ·) (unescape_append_of_notMem hhand cs)

/-- The characters of a string, with a reference for each surrogate. -/
def withReferences (ps : List CodePoint) : List Char :=
  ps.flatMap fun p =>
    match p with
    | .char c => [c]
    | .surrogate index => escapePoint (.surrogate index)

theorem withReferences_points (cs : List Char) : withReferences (Text.points cs) = cs := by
  rw [withReferences, Text.points, List.flatMap_map]
  exact List.flatMap_singleton' cs

/-- A string can be told from what a document has for it, but for the surrogates. -/
theorem unescape_escapePoints (ps : List CodePoint) :
    unescape (escapePoints ps) = withReferences ps := by
  induction ps with
  | nil => rfl
  | cons p ps ih =>
    rw [escapePoints, withReferences, List.flatMap_cons, List.flatMap_cons]
    cases p with
    | char c => exact (unescape_escapeChar c _).trans (congrArg (c :: ·) ih)
    | surrogate index => exact (unescape_reference index _).trans (congrArg _ ih)

/-! ## Strings written down -/

/-- A text without markup is written as it is. -/
theorem escape_eq_self {cs : List Char} (h : ∀ c ∈ cs, ¬ IsMarkup c) : escape cs = cs := by
  induction cs with
  | nil => rfl
  | cons c cs ih =>
    rw [List.forall_mem_cons] at h
    rw [escape_cons, escapeChar_eq h.1, ih h.2, List.singleton_append]

variable {ps : List CodePoint}

theorem escapePoints_points (cs : List Char) : escapePoints (Text.points cs) = escape cs := by
  rw [escapePoints, Text.points, List.flatMap_map]
  rfl

/-- A macro whose name is a text has the same document if the name is held as a string. -/
theorem stringDocument_toStringMacro (made : Macro) :
    stringDocument made.toStringMacro = document (ofMacro made) := by
  have hfields : ofStringMacro made.toStringMacro =
      (ofMacro made).map fun field => (field.1, Text.points field.2) := rfl
  rw [stringDocument, hfields, List.map_map, document, documentWith]
  simp only [Function.comp_def, escapePoints_points]

theorem stringBytes?_toStringMacro (made : Macro) :
    stringBytes? made.toStringMacro = bytes? made := by
  rw [stringBytes?, stringDocument_toStringMacro]
  rfl

/-- What is written for a string has the characters of it that are no markup, and those
    that are written for markup and for surrogates. -/
theorem of_mem_escapePoints {c : Char} (h : c ∈ escapePoints ps) :
    c ∈ Text.kinds ps ∧ ¬ IsMarkup c ∨ c ∈ "&#ampltg;".toList ∨ c.isDigit = true := by
  obtain ⟨p, hp, h⟩ := List.mem_flatMap.1 h
  cases p with
  | char d =>
    have hescape : c ∈ escape [d] := by rwa [escape, List.flatMap_singleton]
    rcases of_mem_escape hescape with ⟨hmem, hmarkup⟩ | hwritten
    · obtain rfl := List.mem_singleton.1 hmem
      exact .inl ⟨List.mem_map_of_mem hp, hmarkup⟩
    · have hsub : "&ampltg;".toList ⊆ "&#ampltg;".toList := by decide
      exact .inr (.inl (hsub hwritten))
  | surrogate index =>
    simp only [escapePoint, List.mem_append, List.mem_cons, List.not_mem_nil, or_false] at h
    rcases h with (rfl | rfl | hdigit) | rfl
    · exact .inr (.inl (by decide))
    · exact .inr (.inl (by decide))
    · exact .inr (.inr (Numeral.isDigit_of_mem_toDigits hdigit))
    · exact .inr (.inl (by decide))

/-- What is not written for markup and surrogates stands in what is written only if it stands
    in the string and is no markup. -/
theorem notMem_escapePoints {c : Char} (hwritten : ¬ (c ∈ "&#ampltg;".toList ∨ c.isDigit = true))
    (h : c ∈ Text.kinds ps → IsMarkup c) : c ∉ escapePoints ps := by
  intro hmem
  rcases of_mem_escapePoints hmem with ⟨hkinds, hmarkup⟩ | hspecial
  · exact hmarkup (h hkinds)
  · exact hwritten hspecial

/-- There is nothing like a tag in what is written for a string. -/
theorem angle_notMem_escapePoints (ps : List CodePoint) :
    '<' ∉ escapePoints ps ∧ '>' ∉ escapePoints ps :=
  ⟨notMem_escapePoints (by decide) fun _ => .inr (.inl rfl),
    notMem_escapePoints (by decide) fun _ => .inr (.inr rfl)⟩

theorem isOneLine_escapePoints (h : Text.IsOneLine (Text.kinds ps)) :
    Text.IsOneLine (escapePoints ps) := by
  rw [Text.isOneLine_iff] at h ⊢
  exact ⟨notMem_escapePoints (by decide) fun hreturn => absurd hreturn h.1,
    notMem_escapePoints (by decide) fun hnewline => absurd hnewline h.2⟩

/-! ## Lines of documents -/

variable {fields : List (List Char × List Char)} {tag written : List Char}

/-- The line of a field, given what stands between its tags. -/
def fieldLine (tag written : List Char) : List Char :=
  '<' :: tag ++ '>' :: written ++ '<' :: '/' :: tag ++ ['>']

/-- The first lines of a document. -/
def headLines : List (List Char) :=
  ["<?xml version='1.0' encoding='utf-8'?>".toList, "<GKEYINFO>".toList]

/-- The last line of a document. -/
def lastLine : List Char := "</GKEYINFO>".toList

/-- The lines of a document in front of the last one. -/
def frontLines (fields : List (List Char × List Char)) : List (List Char) :=
  headLines ++ fields.map fun field => fieldLine field.1 field.2

/-- Every line of a document but the last one has a newline behind it. -/
theorem layOut_eq_flatMap (h : fields ≠ []) :
    layOut [] fields = (frontLines fields).flatMap (· ++ ['\n']) ++ lastLine := by
  have hdeclaration : declaration = "<?xml version='1.0' encoding='utf-8'?>".toList ++ ['\n'] :=
    rfl
  have hopen : openTag (rootTag ++ []) = "<GKEYINFO>".toList := by decide
  have hclose : closeTag rootTag = lastLine := by decide
  have helement (field : List Char × List Char) :
      elementOf field.1 field.2 = fieldLine field.1 field.2 ++ ['\n'] := by
    simp [elementOf, openTag, closeTag, fieldLine]
  rw [layOut, if_neg h, hdeclaration, hopen, hclose, frontLines, headLines, List.flatMap_append,
    List.flatMap_map]
  simp only [helement, List.flatMap_cons, List.flatMap_nil, List.append_assoc, List.cons_append,
    List.nil_append]

theorem isOneLine_fieldLine (htag : Text.IsOneLine tag) (hwritten : Text.IsOneLine written) :
    Text.IsOneLine (fieldLine tag written) := by
  rw [Text.isOneLine_iff] at htag hwritten ⊢
  simp [fieldLine, htag, hwritten]

/-- Where tags and what is between them are on one line, all lines are. -/
theorem isOneLine_of_mem_frontLines
    (h : ∀ field ∈ fields, Text.IsOneLine field.1 ∧ Text.IsOneLine field.2) :
    ∀ line ∈ frontLines fields, Text.IsOneLine line := by
  rw [frontLines, List.forall_mem_append, List.forall_mem_map]
  exact ⟨by decide +kernel, fun field hfield =>
    isOneLine_fieldLine (h field hfield).1 (h field hfield).2⟩

theorem intercalate_concat {α : Type} (a : α) (rows : List (List α)) (last : List α) :
    [a].intercalate (rows ++ [last]) = rows.flatMap (· ++ [a]) ++ last := by
  induction rows with
  | nil => exact List.intercalate_singleton
  | cons row rows ih =>
    have hne : rows ++ [last] ≠ [] := List.append_ne_nil_of_right_ne_nil _ (List.cons_ne_nil _ _)
    obtain ⟨next, more, hrows⟩ := List.exists_cons_of_ne_nil hne
    rw [List.cons_append, hrows, List.intercalate_cons_cons, ← hrows, ih, List.flatMap_cons]
    simp only [List.append_assoc]

section OneLine

variable (hne : fields ≠ [])
  (hone : ∀ field ∈ fields, Text.IsOneLine field.1 ∧ Text.IsOneLine field.2)
include hne hone

/-- Cut at its newlines, a document gives back its lines. -/
theorem splitOn_layOut : (layOut [] fields).splitOn '\n' = frontLines fields ++ [lastLine] := by
  have hlast : '\n' ∉ lastLine := by decide
  have hlines : ∀ line ∈ frontLines fields ++ [lastLine], '\n' ∉ line := by
    rw [List.forall_mem_append, List.forall_mem_singleton]
    exact ⟨fun line hline =>
      (Text.isOneLine_iff.1 (isOneLine_of_mem_frontLines hone line hline)).2, hlast⟩
  rw [layOut_eq_flatMap hne, ← intercalate_concat,
    List.splitOn_intercalate _ hlines (List.append_ne_nil_of_right_ne_nil _ (List.cons_ne_nil _ _))]

/-- There is a newline behind each line but the last one. -/
theorem count_layOut : (layOut [] fields).count '\n' = fields.length + 2 := by
  have hlast : lastLine.count '\n' = 0 := by decide
  have hcount : (frontLines fields).map (List.count '\n' ∘ (· ++ ['\n'])) =
      List.replicate (frontLines fields).length 1 := by
    refine List.map_eq_replicate_iff.2 fun line hline => ?_
    have hnone := (Text.isOneLine_iff.1 (isOneLine_of_mem_frontLines hone line hline)).2
    simp [List.count_eq_zero_of_not_mem hnone]
  have hlength : (frontLines fields).length = fields.length + 2 := by
    rw [frontLines, List.length_append, List.length_map, Nat.add_comm]
    rfl
  rw [layOut_eq_flatMap hne, List.count_append, hlast, List.count_flatMap, hcount,
    List.sum_replicate, hlength]
  simp

theorem return_notMem_layOut : '\r' ∉ layOut [] fields := by
  have hlast : '\r' ∉ lastLine := by decide
  rw [layOut_eq_flatMap hne, List.mem_append, List.mem_flatMap, or_iff_left hlast]
  rintro ⟨line, hline, hreturn⟩
  rcases List.mem_append.1 hreturn with hreturn | hreturn
  · exact (Text.isOneLine_iff.1 (isOneLine_of_mem_frontLines hone line hline)).1 hreturn
  · exact absurd hreturn (by decide)

end OneLine

/-! ## Profiles of macros -/

/-- The tags of the profile of a macro, in order. -/
def fieldTags : List (List Char) :=
  ["Info", "LoopType", "ButtonFunction", "ButtonID", "DefaultDelayTime", "DelayType",
    "FixMacroDelay", "LaunchPath", "LoopNumber", "MacroName", "RandomDelayTime",
    "MacroInfo"].map String.toList

variable {made : StringMacro}

theorem isOneLine_toDigits (n : Nat) : Text.IsOneLine (Nat.toDigits 10 n) :=
  Text.isOneLine_iff.2 ⟨fun h => absurd (Numeral.isDigit_of_mem_toDigits h) (by decide),
    fun h => absurd (Numeral.isDigit_of_mem_toDigits h) (by decide)⟩

theorem isOneLine_encode (events : List Event) : Text.IsOneLine (Payload.encode events) :=
  Text.isOneLine_iff.2 ⟨fun h => absurd (Payload.isHex_of_mem_encode h) (by decide),
    fun h => absurd (Payload.isHex_of_mem_encode h) (by decide)⟩

theorem isOneLine_decimal (n : Int) : Text.IsOneLine (Numeral.decimal n) := by
  rw [Numeral.decimal]
  split
  · exact List.forall_mem_cons.2 ⟨by decide, isOneLine_toDigits n.natAbs⟩
  · exact isOneLine_toDigits n.natAbs

/-- The fields of a macro as its document holds them. -/
def writtenFields (made : StringMacro) : List (List Char × List Char) :=
  (ofStringMacro made).map fun field => (field.1, escapePoints field.2)

/-- Of the texts of a profile, only the name could have a newline or a carriage return. -/
theorem isOneLine_writtenFields (hname : Text.IsOneLine (Text.kinds made.name)) :
    ∀ field ∈ writtenFields made, Text.IsOneLine field.1 ∧ Text.IsOneLine field.2 := by
  have htags : ∀ tag ∈ fieldTags, Text.IsOneLine tag := by decide +kernel
  have htexts : ∀ field ∈ ofStringMacro made, Text.IsOneLine (Text.kinds field.2) :=
    (forall_text_fieldsOf (p := fun ps => Text.IsOneLine (Text.kinds ps)) (by decide)
      (by rw [Text.kinds_points]; exact isOneLine_decimal _)
      (by rw [Text.kinds_points]; exact isOneLine_encode _)).2 hname
  refine List.forall_mem_map.2 fun field hfield => ?_
  exact ⟨htags _ (List.mem_map_of_mem hfield : field.1 ∈ (ofStringMacro made).map Prod.fst),
    isOneLine_escapePoints (htexts field hfield)⟩

/-- How a document with a default delay and a name in it is laid out, given what stands
    between the tags of each field. -/
structure IsLaidOut (defaultDelay : Int) (name cs : List Char) (text : List Char → List Char) :
    Prop where
  noReturn : '\r' ∉ cs
  newlines : cs.count '\n' = 14
  /-- Cut at the newlines, there is a line for each field, between the first two and the
      last one. -/
  lines : cs.splitOn '\n' =
    headLines ++ fieldTags.map (fun tag => fieldLine tag (text tag)) ++ [lastLine]
  /-- There is nothing like a tag between the tags of a field. -/
  noTag : ∀ tag ∈ fieldTags, '<' ∉ text tag ∧ '>' ∉ text tag
  /-- Both delays are the numeral of the default delay. -/
  delays : ∃ ms : Nat, defaultDelay = ms ∧ 1 ≤ ms ∧ ms ≤ 999 ∧
    text "DefaultDelayTime".toList = Nat.toDigits 10 ms ∧
    text "FixMacroDelay".toList = Nat.toDigits 10 ms
  name : unescape (text "MacroName".toList) = name

/-- What a document has between the tags of a field. -/
def writtenText (made : StringMacro) (tag : List Char) : List Char :=
  escapePoints (((ofStringMacro made).lookup tag).getD [])

/-- What stands between the tags of each field, by its tag. -/
theorem frontLines_writtenFields (made : StringMacro) : frontLines (writtenFields made) =
    headLines ++ fieldTags.map fun tag => fieldLine tag (writtenText made tag) :=
  rfl

theorem writtenText_delays {ms : Nat} (h : made.defaultDelay = ms) :
    writtenText made "DefaultDelayTime".toList = Nat.toDigits 10 ms ∧
      writtenText made "FixMacroDelay".toList = Nat.toDigits 10 ms := by
  have hdecimal : Numeral.decimal made.defaultDelay = Nat.toDigits 10 ms := by
    rw [h, Numeral.decimal, if_neg (by omega)]
    rfl
  have hescape : escapePoints (Text.points (Numeral.decimal made.defaultDelay)) =
      Nat.toDigits 10 ms := by
    rw [escapePoints_points, hdecimal]
    refine escape_eq_self fun c hc hmarkup => ?_
    have hdigit := Numeral.isDigit_of_mem_toDigits hc
    rcases hmarkup with rfl | rfl | rfl <;> exact absurd hdigit (by decide)
  exact ⟨hescape, hescape⟩

/-- Cut at its newlines, the document of a macro with a name on one line gives back its
    lines. -/
theorem splitOn_stringDocument (hname : Text.IsOneLine (Text.kinds made.name)) :
    (stringDocument made).splitOn '\n' =
      headLines ++ fieldTags.map (fun tag => fieldLine tag (writtenText made tag)) ++
        [lastLine] := by
  rw [← frontLines_writtenFields]
  exact splitOn_layOut (List.cons_ne_nil _ _) (isOneLine_writtenFields hname)

/-- The profile of a macro with a name on one line and a default delay as scripts set it is
    laid out in fifteen lines. -/
theorem isLaidOut (hname : Text.IsOneLine (Text.kinds made.name))
    (hdelay : 1 ≤ made.defaultDelay ∧ made.defaultDelay ≤ 999) :
    IsLaidOut made.defaultDelay (withReferences made.name) (stringDocument made)
      (writtenText made) := by
  have hne : writtenFields made ≠ [] := List.cons_ne_nil _ _
  have hone := isOneLine_writtenFields hname
  obtain ⟨ms, hms⟩ := Int.eq_ofNat_of_zero_le (show 0 ≤ made.defaultDelay by omega)
  exact {
    noReturn := return_notMem_layOut hne hone
    newlines := count_layOut hne hone
    lines := splitOn_stringDocument hname
    noTag := fun tag _ => angle_notMem_escapePoints _
    delays := ⟨ms, hms, by omega, by omega, writtenText_delays hms⟩
    name := unescape_escapePoints made.name }

/-! ## Profiles of scripts -/

/-- The profile of a script whose lines have been cut at their ends. -/
theorem isLaidOut_compileStrings {lines : List (List CodePoint)}
    (h : ∀ line ∈ lines, Text.IsOneLine (Text.kinds line)) :
    stringBytes? (Script.compileStrings lines) =
        some (Utf8.encode (stringDocument (Script.compileStrings lines))) ∧
      IsLaidOut (Script.compileStrings lines).defaultDelay
        (withReferences (Script.compileStrings lines).name)
        (stringDocument (Script.compileStrings lines))
        (writtenText (Script.compileStrings lines)) := by
  have hname : Text.IsOneLine (Text.kinds (Script.compileStrings lines).name) := by
    rw [Script.kinds_name_compileStrings]
    exact Script.isOneLine_name (List.forall_mem_map.2 h)
  exact ⟨if_pos (digitCount_compile _), isLaidOut hname (Script.isSound_compile _).defaultDelay⟩

/-- However a script is compiled, its profile can be written, and has the layout of one. The
    name can be told from its line, but for the surrogates, each of which is told by a
    reference. Only a script that is held as a string has any. -/
theorem document_isLaidOut :
    (∀ string, stringBytes? (Script.compileString string) =
        some (Utf8.encode (stringDocument (Script.compileString string))) ∧
      ∃ text, IsLaidOut (Script.compileString string).defaultDelay
        (withReferences (Script.compileString string).name)
        (stringDocument (Script.compileString string)) text) ∧
    ∀ made, Script.IsCompiled made →
      bytes? made = some (Utf8.encode (document (ofMacro made))) ∧
        ∃ text, IsLaidOut made.defaultDelay made.name (document (ofMacro made)) text := by
  constructor
  · intro string
    have hlines : ∀ line ∈ Text.pointLines string, Text.IsOneLine (Text.kinds line) :=
      fun _ => Script.isOneLine_of_mem_pointLines
    obtain ⟨hbytes, hlayout⟩ := isLaidOut_compileStrings hlines
    exact ⟨hbytes, _, hlayout⟩
  · intro made h
    obtain ⟨lines, hmade, hlines⟩ := h.exists_lines
    obtain ⟨hbytes, hlayout⟩ := isLaidOut_compileStrings hlines
    rw [← hmade, stringDocument_toStringMacro] at hbytes hlayout
    rw [stringBytes?_toStringMacro] at hbytes
    rw [Macro.toStringMacro, withReferences_points] at hlayout
    exact ⟨hbytes, _, hlayout⟩

/-- A script file whose name looks like markup, and has line boundaries at which no file is
    cut. -/
def boundaryScript : List Char :=
  "name a</MacroName>\u000b&lt;\u2028&amp;lt;\u0085\r\ndefaultdelay 40\r".toList

/-- The macro of this file. -/
def boundaryMacro : Macro where
  name := "a</MacroName>\u000b&lt;\u2028&amp;lt;\u0085".toList
  defaultDelay := 40

theorem document_boundaryMacro :
    Script.compileFile (Utf8.encode boundaryScript) = ([], .ok boundaryMacro) ∧
      (document (ofMacro boundaryMacro)).count '\n' = 14 ∧
      ∃ text, IsLaidOut 40 boundaryMacro.name (document (ofMacro boundaryMacro)) text ∧
        text "FixMacroDelay".toList = "40".toList := by
  have hfile : Script.compileFile (Utf8.encode boundaryScript) = ([], .ok boundaryMacro) := by
    rw [Script.compileFile_encode]
    cbv
  obtain ⟨-, text, hlayout⟩ := document_isLaidOut.2 boundaryMacro (.file hfile)
  refine ⟨hfile, hlayout.newlines, text, hlayout, ?_⟩
  obtain ⟨ms, hms, -, -, -, htext⟩ := hlayout.delays
  obtain rfl : 40 = ms := Int.ofNat.inj hms
  exact htext

/-- A script with a surrogate in the name. -/
def surrogateScript : List CodePoint :=
  Text.points "name a".toList ++ [.surrogate (Fin.last 2047), .char 'b']

/-- The name is not what its line gives when the escapes are undone: the reference to the
    surrogate is left as it is. -/
theorem unescape_ne_surrogateName :
    (Script.compileString surrogateScript).name =
        [.char 'a', .surrogate (Fin.last 2047), .char 'b'] ∧
      fieldLine "MacroName".toList "a&#57343;b".toList ∈
        (stringDocument (Script.compileString surrogateScript)).splitOn '\n' ∧
      Text.points (unescape "a&#57343;b".toList) ≠ (Script.compileString surrogateScript).name := by
  have hname : (Script.compileString surrogateScript).name =
      [.char 'a', .surrogate (Fin.last 2047), .char 'b'] := by
    cbv
  have hwritten : writtenText (Script.compileString surrogateScript) "MacroName".toList =
      "a&#57343;b".toList := by
    show escapePoints (Script.compileString surrogateScript).name = _
    rw [hname]
    decide
  refine ⟨hname, ?_, ?_⟩
  · have hone : Text.IsOneLine (Text.kinds (Script.compileString surrogateScript).name) := by
      rw [hname]
      decide
    have htag : "MacroName".toList ∈ fieldTags := by simp [fieldTags]
    rw [splitOn_stringDocument hone, ← hwritten]
    exact List.mem_append_left _ (List.mem_append_right _ (List.mem_map_of_mem htag))
  · rw [hname]
    decide

end Profile

end KeyMacro
