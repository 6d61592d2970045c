import KeyMacro.Profile.Document
import KeyMacro.Xml.Document
import KeyMacro.Proofs.Text.Line
import KeyMacro.Proofs.Text.Utf8
import KeyMacro.Proofs.Xml.Content
import KeyMacro.Proofs.Xml.Name

/-!
# Profile documents read back

A document that is written for some fields is read as an element that holds them
as leaves (`document?_encode`). On the way from one to the other,

* the bytes are those of UTF-8, which the document itself declares;
* the texts are escaped, and so none of their characters is taken for markup
  (`tokens?_escape`);
* line ends are made uniform, in the texts as everywhere else, which escaping does
  not hinder (`unifyNewlines_escape`).

All this takes tags that are names. The texts may be any, except that a document
may not hold all characters: with one that it may not hold, in whichever field,
what is written is no document.
-/

namespace KeyMacro.Profile

open Xml

/-! ## Escaped texts -/

theorem escape_cons (c : Char) (cs : List Char) : escape (c :: cs) = escapeChar c ++ escape cs :=
  rfl

/-- The characters that are escaped. -/
def IsMarkup (c : Char) : Prop := c = '&' ∨ c = '<' ∨ c = '>'

instance (c : Char) : Decidable (IsMarkup c) := inferInstanceAs (Decidable (_ ∨ _))

theorem escapeChar_eq {c : Char} (h : ¬ IsMarkup c) : escapeChar c = [c] := by
  simp only [IsMarkup, not_or] at h
  rw [escapeChar, if_neg h.1, if_neg h.2.1, if_neg h.2.2]

theorem ofChar_eq {c : Char} (h : ¬ IsMarkup c) : Token.ofChar c = .char c := by
  simp only [IsMarkup, not_or] at h
  rw [Token.ofChar, if_neg h.1, if_neg h.2.1, if_neg h.2.2]

/-- An escaped text has the characters of the text that are no markup, and those that are
    written for markup. -/
theorem of_mem_escape {c : Char} {cs : List Char} (h : c ∈ escape cs) :
    c ∈ cs ∧ ¬ IsMarkup c ∨ c ∈ "&ampltg;".toList := by
  obtain ⟨d, hd, h⟩ := List.mem_flatMap.1 h
  by_cases hmarkup : IsMarkup d
  · have hwritten : ∀ c ∈ escapeChar d, c ∈ "&ampltg;".toList := by
      rcases hmarkup with rfl | rfl | rfl
      all_goals simp [escapeChar]
    exact .inr (hwritten c h)
  · rw [escapeChar_eq hmarkup, List.mem_singleton] at h
    exact .inl (h ▸ ⟨hd, hmarkup⟩)

/-- No escaped text has angle brackets. -/
theorem angle_notMem_escape (cs : List Char) : '<' ∉ escape cs ∧ '>' ∉ escape cs := by
  constructor
  · intro h
    rcases of_mem_escape h with ⟨-, hmarkup⟩ | hwritten
    · exact hmarkup (.inr (.inl rfl))
    · exact absurd hwritten (by decide)
  · intro h
    rcases of_mem_escape h with ⟨-, hmarkup⟩ | hwritten
    · exact hmarkup (.inr (.inr rfl))
    · exact absurd hwritten (by decide)

/-- An escaped text is never read as the end of verbatim characters. -/
theorem escape_append_ne {cs rest : List Char} (c : Char) (tail : List Char) :
    c :: (escape cs ++ '<' :: rest) ≠ ']' :: ']' :: '>' :: tail := by
  intro h
  obtain ⟨-, h⟩ := List.cons.inj h
  have hmem := (angle_notMem_escape cs).2
  -- The third character is a part of the text, unless the text has ended by then.
  match hcs : escape cs with
  | [] => simp [hcs] at h
  | [a] => simp [hcs] at h
  | a :: b :: more =>
    simp only [hcs, List.cons_append, List.cons.injEq] at h
    exact hmem (by simp [hcs, h.2.1])

/-- A character is read as the token of it, wherever it is not taken for the end
    of verbatim characters. -/
theorem tokens?_escapeChar {c : Char} {rest : List Char}
    (h : ∀ tail, c :: rest ≠ ']' :: ']' :: '>' :: tail) :
    tokens? (escapeChar c ++ rest) = (tokens? rest).map (Token.ofChar c :: ·) := by
  by_cases hc : IsMarkup c
  · rcases hc with rfl | rfl | rfl
    all_goals exact tokens?_ampersand _
  · rw [escapeChar_eq hc, ofChar_eq hc]
    simp only [IsMarkup, not_or] at hc
    exact tokens?_char hc.2.1 hc.1 h

theorem tokens?_escape (cs rest : List Char) :
    tokens? (escape cs ++ '<' :: rest) =
      (tokens? ('<' :: rest)).map (cs.map Token.ofChar ++ ·) := by
  induction cs with
  | nil => simp [escape]
  | cons c cs ih =>
    rw [escape_cons, List.append_assoc, tokens?_escapeChar (escape_append_ne c), ih, Option.map_map]
    rfl

/-! ## Elements -/

theorem markup?_name {name : List Char} (h : isName name = true) (rest : List Char) :
    markup? (name ++ '>' :: rest) =
      some (.opening { name := { base := name }, attributes := [], empty := false }, rest) := by
  have hread := openingTag?_name h rest
  cases name with
  | nil => cases h
  | cons d ds =>
    have hd : isNameStart d = true := by
      rw [isName, Bool.and_eq_true] at h
      exact h.1
    rw [List.cons_append] at hread ⊢
    rw [markup?, hread]
    · rfl
    -- A name begins with none of the marks of other kinds of markup.
    all_goals
      intro cs heq
      obtain rfl := (List.cons.inj heq).1
      exact absurd hd (by decide)

theorem tokens?_openTag {tag : List Char} (h : isName tag = true) (rest : List Char) :
    tokens? (openTag tag ++ rest) = (tokens? rest).map
      (.opening { name := { base := tag }, attributes := [], empty := false } :: ·) := by
  have hcs : openTag tag ++ rest = '<' :: (tag ++ '>' :: rest) := by simp [openTag]
  rw [hcs, tokens?_angle, markup?_name h]
  rfl

theorem tokens?_closeTag {tag : List Char} (h : isName tag = true) (rest : List Char) :
    tokens? (closeTag tag ++ rest) = (tokens? rest).map (.closing { base := tag } :: ·) := by
  have hcs : closeTag tag ++ rest = '<' :: '/' :: (tag ++ '>' :: rest) := by simp [closeTag]
  rw [hcs, tokens?_angle, markup?, closingTag?_name h]
  rfl

theorem tokens?_newline (rest : List Char) :
    tokens? ('\n' :: rest) = (tokens? rest).map (.char '\n' :: ·) :=
  tokens?_char (by decide) (by decide) (by rintro _ ⟨⟩)

/-- The line of a field is read as a leaf. -/
theorem tokens?_element {tag : List Char} (h : isName tag = true) (text rest : List Char) :
    tokens? (element tag text ++ rest) =
      (tokens? rest).map (leafTokens tag text ++ [.char '\n'] ++ ·) := by
  have hcs : element tag text ++ rest =
      openTag tag ++ (escape text ++ '<' :: '/' :: (tag ++ '>' :: '\n' :: rest)) := by
    simp [element, elementOf, closeTag]
  have hclose : '<' :: '/' :: (tag ++ '>' :: '\n' :: rest) = closeTag tag ++ '\n' :: rest := by
    simp [closeTag]
  rw [hcs, tokens?_openTag h, tokens?_escape, hclose, tokens?_closeTag h, tokens?_newline]
  cases tokens? rest with
  | none => rfl
  | some tokens => simp [leafTokens]

theorem tokens?_elements {fields : Fields} (h : ∀ field ∈ fields, isName field.1 = true)
    (rest : List Char) :
    tokens? (fields.flatMap (fun field => element field.1 field.2) ++ rest) =
      (tokens? rest).map (lineTokens fields ++ ·) := by
  induction fields with
  | nil => simp [lineTokens]
  | cons field fields ih =>
    rw [List.forall_mem_cons] at h
    rw [List.flatMap_cons, List.append_assoc, tokens?_element h.1, ih h.2, Option.map_map]
    cases tokens? rest with
    | none => rfl
    | some tokens => simp [lineTokens]

/-! ## Documents -/

/-- What stands behind the declaration of a document, from the end of its line. -/
def body (fields : Fields) : List Char :=
  '\n' :: (openTag rootTag ++ (if fields = [] then [] else ['\n']) ++
    fields.flatMap (fun field => element field.1 field.2) ++ closeTag rootTag)

theorem isName_rootTag : isName rootTag = true := by decide

theorem tokens?_body {fields : Fields} (h : ∀ field ∈ fields, isName field.1 = true) :
    tokens? (body fields) = some (rootTokens rootTag fields) := by
  have hclose : tokens? (closeTag rootTag) = some [.closing { base := rootTag }] := by
    have := tokens?_closeTag isName_rootTag []
    rwa [List.append_nil, tokens?_nil] at this
  rw [body, tokens?_newline, List.append_assoc, List.append_assoc, tokens?_openTag isName_rootTag,
    rootTokens]
  split
  · next hf => simp [hf, hclose, lineTokens]
  · rw [List.singleton_append, tokens?_newline, tokens?_elements h, hclose]
    simp

/-- A document is the declaration with its body behind, and its declaration is
    read as that of a document in UTF-8. -/
theorem document_eq (fields : Fields) :
    document fields = "<?xml version='1.0' encoding='utf-8'?>".toList ++ body fields := by
  have hdeclaration : declaration = "<?xml version='1.0' encoding='utf-8'?>".toList ++ ['\n'] :=
    rfl
  rw [document, documentWith, layOut, hdeclaration, List.append_nil, body, List.flatMap_map]
  simp only [List.map_eq_nil_iff, element, List.append_assoc, List.cons_append, List.nil_append]

theorem declaration?_append (rest : List Char) :
    declaration? ("<?xml version='1.0' encoding='utf-8'?>".toList ++ rest) =
      some ({ encoding := some "utf-8".toList, standalone := false }, rest) := by
  rfl

/-! ## Line ends -/

theorem return_notMem_escapeChar {c : Char} (h : c ≠ '\r') : '\r' ∉ escapeChar c := by
  by_cases hc : IsMarkup c
  · rcases hc with rfl | rfl | rfl
    all_goals decide
  · rw [escapeChar_eq hc, List.mem_singleton]
    exact Ne.symm h

/-- An escaped text begins with a newline only if the text does. -/
theorem newline_of_escape {cs tail : List Char} (h : escape cs = '\n' :: tail) :
    ∃ rest, cs = '\n' :: rest := by
  cases cs with
  | nil => cases h
  | cons c cs =>
    rw [escape_cons] at h
    by_cases hc : IsMarkup c
    · rcases hc with rfl | rfl | rfl
      all_goals cases h
    · rw [escapeChar_eq hc] at h
      exact ⟨cs, by rw [(List.cons.inj h).1]⟩

theorem unifyNewlines_escape (cs : List Char) :
    Text.unifyNewlines (escape cs) = escape (Text.unifyNewlines cs) := by
  fun_induction Text.unifyNewlines cs with
  | case1 cs ih =>
    -- Neither a carriage return nor its newline is escaped.
    rw [escape_cons, escape_cons, escape_cons, ← ih]
    rfl
  | case2 c cs h ih =>
    rw [escape_cons, escape_cons, ← ih]
    by_cases hc : c = '\r'
    · -- The carriage return is followed by a newline neither before nor after escaping.
      subst hc
      rw [if_pos rfl]
      show Text.unifyNewlines ('\r' :: escape cs) = '\n' :: _
      rw [Text.unifyNewlines, if_pos rfl]
      · rfl
      · intro tail _ htail
        obtain ⟨rest, hrest⟩ := newline_of_escape htail
        exact h rest rfl hrest
    · rw [if_neg hc, Text.unifyNewlines_append_of_notMem (return_notMem_escapeChar hc)]
  | case3 => rfl

/-- Fields with the line ends of their texts made uniform. -/
def uniform (fields : Fields) : Fields :=
  fields.map fun field => (field.1, Text.unifyNewlines field.2)

theorem return_notMem_of_isName {name : List Char} (h : isName name = true) : '\r' ∉ name :=
  fun hm => absurd (isNameChar_of_mem h hm) (by decide)

theorem unifyNewlines_tag {tag : List Char} (h : isName tag = true) (rest : List Char) :
    Text.unifyNewlines (openTag tag ++ rest) = openTag tag ++ Text.unifyNewlines rest ∧
      Text.unifyNewlines (closeTag tag ++ rest) = closeTag tag ++ Text.unifyNewlines rest := by
  have hr := return_notMem_of_isName h
  constructor
  · exact Text.unifyNewlines_append_of_notMem (by simp [openTag, hr]) rest
  · exact Text.unifyNewlines_append_of_notMem (by simp [closeTag, hr]) rest

theorem unifyNewlines_element {tag : List Char} (h : isName tag = true) (text rest : List Char) :
    Text.unifyNewlines (element tag text ++ rest) =
      element tag (Text.unifyNewlines text) ++ Text.unifyNewlines rest := by
  have hclose : closeTag tag ++ '\n' :: rest = '<' :: ('/' :: tag ++ '>' :: '\n' :: rest) := by
    simp [closeTag]
  have hcs : element tag text ++ rest =
      openTag tag ++ (escape text ++ (closeTag tag ++ '\n' :: rest)) := by
    simp [element, elementOf]
  rw [hcs, (unifyNewlines_tag h _).1, hclose, Text.unifyNewlines_append_cons (by decide), ← hclose,
    (unifyNewlines_tag h _).2, unifyNewlines_escape, Text.unifyNewlines_cons (by decide)]
  simp [element, elementOf]

theorem unifyNewlines_elements {fields : Fields} (h : ∀ field ∈ fields, isName field.1 = true)
    (rest : List Char) :
    Text.unifyNewlines (fields.flatMap (fun field => element field.1 field.2) ++ rest) =
      (uniform fields).flatMap (fun field => element field.1 field.2) ++
        Text.unifyNewlines rest := by
  induction fields with
  | nil => rfl
  | cons field fields ih =>
    rw [List.forall_mem_cons] at h
    rw [List.flatMap_cons, List.append_assoc, unifyNewlines_element h.1, ih h.2]
    simp [uniform]

/-- The line ends of a document are those of its texts. -/
theorem unifyNewlines_body {fields : Fields} (h : ∀ field ∈ fields, isName field.1 = true) :
    Text.unifyNewlines (body fields) = body (uniform fields) := by
  have hclose : Text.unifyNewlines (closeTag rootTag) = closeTag rootTag := by
    have := (unifyNewlines_tag isName_rootTag []).2
    rwa [List.append_nil] at this
  rw [body, body, Text.unifyNewlines_cons (by decide), List.append_assoc, List.append_assoc,
    (unifyNewlines_tag isName_rootTag _).1]
  by_cases hf : fields = []
  · subst hf
    simp [uniform, hclose]
  · have hu : uniform fields ≠ [] := by simpa [uniform] using hf
    rw [if_neg hf, if_neg hu, List.singleton_append, Text.unifyNewlines_cons (by decide),
      unifyNewlines_elements h, hclose]
    simp

/-! ## Characters -/

theorem all_isChar_escape (cs : List Char) : (escape cs).all isChar = cs.all isChar := by
  have hchar : ∀ c, (escapeChar c).all isChar = isChar c := by
    intro c
    by_cases hc : IsMarkup c
    · rcases hc with rfl | rfl | rfl
      all_goals decide
    · simp [escapeChar_eq hc]
  rw [escape, List.all_flatMap]
  simp only [hchar]

theorem all_isChar_of_isName {name : List Char} (h : isName name = true) :
    name.all isChar = true :=
  List.all_eq_true.2 fun _ hc => isChar_of_isNameChar (isNameChar_of_mem h hc)

theorem all_isChar_tag {tag : List Char} (h : isName tag = true) :
    (openTag tag).all isChar = true ∧ (closeTag tag).all isChar = true := by
  have htag := all_isChar_of_isName h
  have hmarkup : isChar '<' = true ∧ isChar '/' = true ∧ isChar '>' = true := by decide
  constructor
  · simp [openTag, htag, hmarkup]
  · simp [closeTag, htag, hmarkup]

theorem all_isChar_element {tag : List Char} (h : isName tag = true) (text : List Char) :
    (element tag text).all isChar = text.all isChar := by
  have hnewline : isChar '\n' = true := by decide
  simp [element, elementOf, List.all_append, all_isChar_tag h, all_isChar_escape, hnewline]

theorem all_isChar_elements {fields : Fields} (h : ∀ field ∈ fields, isName field.1 = true) :
    (fields.flatMap fun field => element field.1 field.2).all isChar =
      fields.all fun field => field.2.all isChar := by
  induction fields with
  | nil => rfl
  | cons field fields ih =>
    rw [List.forall_mem_cons] at h
    rw [List.flatMap_cons, List.all_append, all_isChar_element h.1, ih h.2, List.all_cons]

/-- All that a document holds besides its texts it may hold. -/
theorem all_isChar_document {fields : Fields} (h : ∀ field ∈ fields, isName field.1 = true) :
    (document fields).all isChar = fields.all fun field => field.2.all isChar := by
  have hfront : "<?xml version='1.0' encoding='utf-8'?>".toList.all isChar = true := by decide
  have hnewline : isChar '\n' = true := by decide
  have hline : (if fields = [] then [] else ['\n']).all isChar = true := by split <;> decide
  rw [document_eq, body]
  simp only [List.all_append, List.all_cons, hfront, hnewline, hline, all_isChar_tag isName_rootTag,
    all_isChar_elements h, Bool.true_and, Bool.and_true]

/-! ## Reading -/

theorem detect_document (fields : Fields) : Family.detect (Utf8.encode (document fields)) =
    (.bytes, Utf8.encode (document fields)) := by
  rw [document_eq, Utf8.encode_append]
  rfl

/-- A document declares the encoding that it is in. -/
theorem encodingOf_document (fields : Fields) :
    encodingOf .bytes (Utf8.encode (document fields)) = .ok .utf8 := by
  -- The declaration has ASCII characters only, which all encodings of bytes share.
  have hpreview : preview .bytes (Utf8.encode (document fields)) =
      "<?xml version='1.0' encoding='utf-8'?>".toList ++
        preview .bytes (Utf8.encode (body fields)) := by
    rw [document_eq, Utf8.encode_append, preview, List.map_append]
    rfl
  rw [encodingOf, hpreview, declaration?_append]
  rfl

theorem elementOf?_document {fields : Fields} (h : ∀ field ∈ fields, isName field.1 = true)
    (size : Nat) : elementOf? size (document fields) = some (Xml.root rootTag (uniform fields)) := by
  have hu : ∀ field ∈ uniform fields, isName field.1 = true := by
    intro field hf
    obtain ⟨original, hm, rfl⟩ := List.mem_map.1 hf
    exact h original hm
  -- The line ends are uniform before the document is cut into tokens.
  have hcut : Text.unifyNewlines (document fields) =
      "<?xml version='1.0' encoding='utf-8'?>".toList ++ body (uniform fields) := by
    rw [document_eq, Text.unifyNewlines_append_of_notMem (by decide), unifyNewlines_body h]
  rw [elementOf?, hcut, declaration?_append]
  simp only [Option.bind_eq_bind, Option.bind_some, tokens?_body hu,
    items?_eq false size fun _ => isPlain_of_mem_rootTokens, element?_root]

/-- A document is read as the leaves that it was written for, but for the line
    ends, if it may hold the characters of their texts, and else not at all. -/
theorem document?_encode {fields : Fields} (h : ∀ field ∈ fields, isName field.1 = true) :
    Xml.document? (Utf8.encode (document fields)) =
      if fields.all fun field => field.2.all isChar then .ok (Xml.root rootTag (uniform fields))
      else .error .malformed := by
  have hdecode : Encoding.decode? (Utf8.encode (document fields)) .utf8 = some (document fields) := by
    rw [Encoding.decode?, Utf8.decode_encode]
    rfl
  rw [Xml.document?, detect_document]
  simp only [encodingOf_document, bind, Except.bind, hdecode, Option.bind_some,
    all_isChar_document h, elementOf?_document h]
  cases fields.all fun field => field.2.all isChar <;> rfl

end KeyMacro.Profile
