import KeyMacro.Profile.Tag
import KeyMacro.Proofs.Profile.File

/-!
# Profiles with any fields

A profile need not be that of a macro: its fields may have any tags that are *plain*
(`isPlainTag`), in any order, and any texts that a document may hold. Such a profile can
be written wherever a file may be, and what is loaded from it is the text of the payload
field (`load_document`), whatever the other fields have in them. Only the line ends are
not kept, as a document has uniform ones. If there is no such field, nothing is loaded,
and nothing else keeps a payload from being loaded.
-/

namespace KeyMacro.Profile

open Xml

/-! ## Plain tags -/

/-- Whether a tag is plain: a letter or a low line, and behind it letters, digits, low
    lines, dots and hyphens, all of them ASCII characters. -/
def isPlainTag : List Char → Bool
  | [] => false
  | c :: cs =>
    (c.isAlpha || c == '_') && cs.all fun d => d.isAlphanum || d == '_' || d == '.' || d == '-'

theorem isNameStart_of_isAlpha {c : Char} (h : c.isAlpha = true) : isNameStart c = true := by
  simp only [Char.isAlpha, Char.isUpper, Char.isLower, Bool.or_eq_true, Bool.and_eq_true,
    decide_eq_true_eq, ge_iff_le, UInt32.le_iff_toNat_le] at h
  rw [isNameStart, Bool.or_eq_true]
  right
  rcases h with hupper | hlower
  · exact Text.inRanges_of_mem (show (0x41, 0x5A) ∈ letters from List.mem_cons_self) hupper
  · exact Text.inRanges_of_mem
      (show (0x61, 0x7A) ∈ letters from List.mem_cons_of_mem _ List.mem_cons_self) hlower

theorem isNameChar_of_isAlphanum {c : Char} (h : c.isAlphanum = true) : isNameChar c = true := by
  rw [Char.isAlphanum, Bool.or_eq_true] at h
  rcases h with halpha | hdigit
  · exact isNameChar_of_isNameStart (isNameStart_of_isAlpha halpha)
  · simp only [Char.isDigit, Bool.and_eq_true, decide_eq_true_eq, ge_iff_le,
      UInt32.le_iff_toNat_le] at hdigit
    rw [isNameChar, Bool.or_eq_true]
    right
    exact Text.inRanges_of_mem (show (0x30, 0x39) ∈ nameMarks from List.mem_cons_self) hdigit

/-- A plain tag is a name. -/
theorem isName_of_isPlainTag {tag : List Char} (h : isPlainTag tag = true) :
    isName tag = true := by
  cases tag with
  | nil => cases h
  | cons c cs =>
    simp only [isPlainTag, Bool.and_eq_true, Bool.or_eq_true, beq_iff_eq, List.all_eq_true] at h
    obtain ⟨hfirst, hothers⟩ := h
    rw [isName, Bool.and_eq_true, List.all_eq_true]
    refine ⟨?_, fun d hd => ?_⟩
    · rcases hfirst with halpha | rfl
      · exact isNameStart_of_isAlpha halpha
      · decide
    · rcases hothers d hd with ((halphanum | rfl) | rfl) | rfl
      · exact isNameChar_of_isAlphanum halphanum
      all_goals decide

/-- A plain tag has no namespace. -/
theorem head?_ne_of_isPlainTag {tag : List Char} (h : isPlainTag tag = true) :
    tag.head? ≠ some '{' := by
  cases tag with
  | nil => cases h
  | cons c cs =>
    rintro ⟨⟩
    simp [isPlainTag] at h

/-! ## Writing and loading -/

/-- What is loaded from a profile with plain tags, wherever it is written, is the text of
    its payload field with uniform line ends, and only without such a field is there no
    payload. -/
theorem load_document {wording : List UInt8 → String} {tree : FileTree} {path : Path}
    {fields : Fields} (hpath : tree.Admits path)
    (htags : ∀ field ∈ fields, isPlainTag field.1 = true)
    (htexts : ∀ field ∈ fields, field.2.all isChar = true) :
    ∃ written next, document? fields = .ok written ∧
      (FileTree.files.write path (Utf8.encode written)).run tree = pure (.ok (), next) ∧
      (load FileTree.files wording path).run next =
        pure (match fields.lookup payloadTag with
          | some text => .ok (Text.unifyNewlines text)
          | none => .error (.content .noPayload), next) ∧
      (LoadError.content .noPayload).message path.text =
        s!"{String.ofList path.text} has no MacroInfo element" := by
  obtain ⟨next, hwrite, hread⟩ := FileTree.write_of_admits hpath (Utf8.encode (document fields))
  have hdocument : document? fields = .ok (document fields) :=
    document?_eq_document fun field hfield => head?_ne_of_isPlainTag (htags field hfield)
  have hnames : ∀ field ∈ fields, isName field.1 = true :=
    fun field hfield => isName_of_isPlainTag (htags field hfield)
  refine ⟨document fields, next, hdocument, FileTree.run_write_ok hwrite, ?_, rfl⟩
  rw [run_load hread, payload?_document hnames, if_pos (List.all_eq_true.2 htexts)]
  cases fields.lookup payloadTag <;> rfl

/-- Fields with markup in a text in front of the payload, which has line ends of all
    kinds. -/
def markedFields : Fields :=
  [("_a.b-1".toList, "</_a.b-1>]]><MacroInfo>ff</MacroInfo>&lt;<!-- \r".toList),
    (payloadTag, " \r\n\r41\r\r\n".toList), ("GKEYINFO".toList, "".toList)]

/-- The same fields without that of the payload. -/
def unloadedFields : Fields := markedFields.filter (·.1 ≠ payloadTag)

/-- The text of the payload field is loaded, and none of the markup in front. -/
theorem load_markedFields :
    emptyTree.Admits plainPath ∧ (∀ field ∈ markedFields, isPlainTag field.1 = true) ∧
      (∀ field ∈ markedFields, field.2.all isChar = true) ∧
      (∃ written next, document? markedFields = .ok written ∧
        (FileTree.files.write plainPath (Utf8.encode written)).run emptyTree =
          pure (.ok (), next) ∧
        (load FileTree.files (fun _ => "") plainPath).run next =
          pure (.ok " \n\n41\n\n".toList, next)) ∧
      ∃ written next, document? unloadedFields = .ok written ∧
        (FileTree.files.write plainPath (Utf8.encode written)).run emptyTree =
          pure (.ok (), next) ∧
        (load FileTree.files (fun _ => "") plainPath).run next =
          pure (.error (.content .noPayload), next) := by
  have hpath : emptyTree.Admits plainPath := ⟨["a.xml".toList], rfl, by decide⟩
  have htags : ∀ field ∈ markedFields, isPlainTag field.1 = true := by decide
  have htexts : ∀ field ∈ markedFields, field.2.all isChar = true := by decide
  obtain ⟨written, next, hdocument, hwrite, hload, -⟩ := load_document hpath htags htexts
  -- What holds of the fields holds of those that are left.
  have htags' : ∀ field ∈ unloadedFields, isPlainTag field.1 = true :=
    fun field hfield => htags field (List.mem_filter.1 hfield).1
  have htexts' : ∀ field ∈ unloadedFields, field.2.all isChar = true :=
    fun field hfield => htexts field (List.mem_filter.1 hfield).1
  obtain ⟨written', next', hdocument', hwrite', hload', -⟩ := load_document hpath htags' htexts'
  exact ⟨hpath, htags, htexts, ⟨written, next, hdocument, hwrite, hload⟩,
    written', next', hdocument', hwrite', hload'⟩

end KeyMacro.Profile
