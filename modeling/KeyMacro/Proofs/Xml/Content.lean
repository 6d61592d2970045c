import KeyMacro.Xml.Element

/-!
# Plain content

A document that declares nothing may still be made of tags without attributes,
characters and references to the entities that every document has. Such a token
is *plain* (`Token.IsPlain`): what it stands for does not depend on the document,
and takes no room in which text may be inserted (`items?_eq`).

An element that holds characters only is a *leaf*. Read within another element it
becomes a child of that element, with the text that its characters make up
(`advance_leaf`).
-/

namespace KeyMacro.Xml

/-! ## Plain tokens -/

/-- Whether a token means the same in all documents without a type. -/
def Token.IsPlain : Token → Prop
  | .opening tag => tag.attributes = []
  | .closing _ => True
  | .char _ => True
  | .reference (.entity name) => (predefined? name).isSome
  | _ => False

/-- The items that a plain token stands for. -/
def Token.items : Token → List Item
  | .opening tag => [.opening { name := tag.name, attributes := [], empty := tag.empty }]
  | .closing name => [.closing name]
  | .char c => [.char c]
  | .reference (.entity name) => (predefined? name).toList.map fun c => .text [c]
  | _ => []

theorem tokenItems_eq {dtd : Dtd} (hrules : dtd.rules = []) {token : Token} (h : token.IsPlain)
    (expand : List Token → Expansion (List Item)) :
    dtd.tokenItems expand token = pure token.items := by
  cases token with
  | opening tag =>
    obtain ⟨name, attributes, empty⟩ := tag
    obtain rfl : attributes = [] := h
    simp [Dtd.tokenItems, Dtd.expandTag, Dtd.writtenAttributes, Dtd.defaultAttributes, hrules,
      Token.items]
  | closing name => rfl
  | char c => rfl
  | reference r =>
    cases r with
    | char c => exact h.elim
    | entity name =>
      obtain ⟨c, hc⟩ := Option.isSome_iff_exists.1 h
      simp [Dtd.tokenItems, Dtd.entityItems, Token.items, hc]
  | verbatim | aside | doctype => exact h.elim

theorem mapM_tokenItems {dtd : Dtd} (hrules : dtd.rules = []) {tokens : List Token}
    (h : ∀ token ∈ tokens, token.IsPlain) (expand : List Token → Expansion (List Item)) :
    tokens.mapM (dtd.tokenItems expand) = pure (tokens.map Token.items) := by
  induction tokens with
  | nil => rfl
  | cons token tokens ih =>
    rw [List.forall_mem_cons] at h
    rw [List.mapM_cons, tokenItems_eq hrules h.1, ih h.2]
    rfl

/-- Plain tokens stand for the same in all documents, whatever their size. -/
theorem items?_eq (standalone : Bool) (size : Nat) {tokens : List Token}
    (h : ∀ token ∈ tokens, token.IsPlain) :
    items? standalone size tokens = some (tokens.flatMap Token.items) := by
  -- No plain token is a document type, and so there are no definitions.
  have hnone : tokens.findSome? Token.doctype? = none := by
    rw [List.findSome?_eq_none_iff]
    intro token ht
    cases token with
    | doctype => exact (h _ ht).elim
    | _ => rfl
  have hitems : Dtd.expandTokens { standalone } 0 tokens =
      pure (tokens.map Token.items).flatten := by
    rw [Dtd.expandTokens, mapM_tokenItems rfl h]
    rfl
  rw [items?, hnone, List.flatMap_def]
  -- As nothing is inserted, it does not matter how much could be.
  show StateT.run' (Dtd.expandTokens { standalone } 0 tokens) (allowance size) = _
  rw [hitems]
  rfl

/-! ## Texts -/

/-- The token of a character of a text. Those that would be taken for markup are
    referred to. -/
def Token.ofChar (c : Char) : Token :=
  if c = '&' then .reference (.entity "amp".toList)
  else if c = '<' then .reference (.entity "lt".toList)
  else if c = '>' then .reference (.entity "gt".toList)
  else .char c

theorem isPlain_ofChar (c : Char) : (Token.ofChar c).IsPlain := by
  unfold Token.ofChar
  split
  · exact (rfl : (predefined? "amp".toList).isSome = true)
  split
  · exact (rfl : (predefined? "lt".toList).isSome = true)
  split
  · exact (rfl : (predefined? "gt".toList).isSome = true)
  · trivial

/-- Where there is an open element, a character of a text is added to it. -/
theorem advance_ofChar (c : Char) (inner : OpenElement) (outer : List OpenElement) :
    (Token.ofChar c).items.foldlM Progress.advance? (.within inner outer) =
      some (.within (inner.addChar c) outer) := by
  unfold Token.ofChar
  split
  · next h => rw [h]; rfl
  split
  · next h => rw [h]; rfl
  split
  · next h => rw [h]; rfl
  · rfl

/-- What an open element of its text is, with some more characters. -/
def OpenElement.addText (o : OpenElement) (cs : List Char) : OpenElement :=
  cs.foldl OpenElement.addChar o

theorem advance_text (cs : List Char) (inner : OpenElement) (outer : List OpenElement) :
    ((cs.map Token.ofChar).flatMap Token.items).foldlM Progress.advance? (.within inner outer) =
      some (.within (inner.addText cs) outer) := by
  induction cs generalizing inner with
  | nil => rfl
  | cons c cs ih =>
    rw [List.map_cons, List.flatMap_cons, List.foldlM_append, advance_ofChar]
    exact ih (inner.addChar c)

theorem addText_eq {o : OpenElement} (h : o.element.children = []) (cs : List Char) :
    o.addText cs = { o with element := { o.element with text := cs.reverse ++ o.element.text } } := by
  obtain ⟨name, scope, tag, text, children⟩ := o
  obtain rfl : children = [] := h
  induction cs generalizing text with
  | nil => rfl
  | cons c cs ih =>
    rw [OpenElement.addText, List.foldl_cons]
    refine (ih (c :: text)).trans ?_
    simp

/-! ## Leaves -/

/-- The tokens of an element that holds nothing but a text. -/
def leafTokens (tag text : List Char) : List Token :=
  .opening { name := { base := tag }, attributes := [], empty := false } ::
    text.map Token.ofChar ++ [.closing { base := tag }]

/-- An element that holds nothing but a text. -/
def leaf (tag text : List Char) : Element := ⟨tag, text, []⟩

theorem isPlain_of_mem_leafTokens {tag text : List Char} {token : Token}
    (h : token ∈ leafTokens tag text) : token.IsPlain := by
  simp only [leafTokens, List.cons_append, List.mem_cons, List.mem_append, List.mem_map,
    List.not_mem_nil, or_false] at h
  rcases h with rfl | ⟨c, -, rfl⟩ | rfl
  · rfl
  · exact isPlain_ofChar c
  · trivial

/-- An open element that has no attributes and holds a text, where no namespaces
    are declared. -/
def OpenElement.plain (tag text : List Char) : OpenElement where
  name := { base := tag }
  scope := Scope.initial
  element := ⟨tag, text.reverse, []⟩

theorem start?_initial (tag : List Char) :
    OpenElement.start? Scope.initial { name := { base := tag }, attributes := [], empty := false } =
      some (OpenElement.plain tag []) := rfl

theorem advance?_opening (tag : OpeningTag (List Char)) (inner : OpenElement)
    (outer : List OpenElement) : Progress.advance? (.within inner outer) (.opening tag) =
      Progress.opened? inner.scope tag (inner :: outer) := rfl

theorem advance?_closing (name : QName) (inner : OpenElement) (outer : List OpenElement) :
    Progress.advance? (.within inner outer) (.closing name) =
      if name = inner.name then some (Progress.close inner.finish outer) else none := rfl

/-- An element ends with a tag of its name. -/
theorem advance_closing {name : QName} {inner : OpenElement} {outer : List OpenElement}
    (h : inner.name = name) :
    ([Token.closing name].flatMap Token.items).foldlM Progress.advance? (.within inner outer) =
      some (Progress.close inner.finish outer) := by
  simp [Token.items, advance?_closing, h]

/-- Within an element, a leaf becomes a child. -/
theorem advance_leaf (tag text : List Char) {inner : OpenElement} (outer : List OpenElement)
    (h : inner.scope = Scope.initial) :
    ((leafTokens tag text).flatMap Token.items).foldlM Progress.advance? (.within inner outer) =
      some (.within (inner.addChild (leaf tag text)) outer) := by
  have hopen : Progress.advance? (.within inner outer)
      (.opening { name := { base := tag }, attributes := [], empty := false }) =
      some (.within (OpenElement.plain tag []) (inner :: outer)) := by
    rw [advance?_opening, h, Progress.opened?, start?_initial]
    rfl
  rw [leafTokens, List.cons_append, List.flatMap_cons, List.flatMap_append, Token.items,
    List.singleton_append, List.foldlM_cons, hopen]
  show List.foldlM _ _ _ = _
  rw [List.foldlM_append, advance_text, addText_eq rfl]
  refine (advance_closing rfl).trans ?_
  simp [Progress.close, OpenElement.finish, OpenElement.plain, leaf]

/-! ## Rows of leaves -/

/-- The tokens of leaves, each on a line of its own. -/
def lineTokens (leaves : List (List Char × List Char)) : List Token :=
  leaves.flatMap fun entry => leafTokens entry.1 entry.2 ++ [.char '\n']

/-- An open element with leaves behind the children that it has. -/
def OpenElement.addLeaves (o : OpenElement) (leaves : List (List Char × List Char)) : OpenElement :=
  { o with
    element := { o.element with
      children := (leaves.map fun entry => leaf entry.1 entry.2).reverse ++ o.element.children } }

theorem advance_lines (leaves : List (List Char × List Char)) {inner : OpenElement}
    (outer : List OpenElement) (h : inner.scope = Scope.initial) :
    ((lineTokens leaves).flatMap Token.items).foldlM Progress.advance? (.within inner outer) =
      some (.within (inner.addLeaves leaves) outer) := by
  induction leaves generalizing inner with
  | nil =>
    obtain ⟨name, scope, tag, text, children⟩ := inner
    rfl
  | cons entry leaves ih =>
    have hscope : (inner.addChild (leaf entry.1 entry.2)).scope = Scope.initial := h
    -- Behind the leaf the end of its line is not part of the text any more.
    have hnewline : (inner.addChild (leaf entry.1 entry.2)).addChar '\n' =
        inner.addChild (leaf entry.1 entry.2) := rfl
    rw [lineTokens, List.flatMap_cons, List.flatMap_append, List.flatMap_append, List.foldlM_append,
      List.foldlM_append, advance_leaf _ _ _ h]
    show List.foldlM _ (Progress.within ((inner.addChild _).addChar '\n') outer) _ = _
    rw [hnewline]
    refine (ih hscope).trans ?_
    simp [OpenElement.addLeaves, OpenElement.addChild]

theorem isPlain_of_mem_lineTokens {leaves : List (List Char × List Char)} {token : Token}
    (h : token ∈ lineTokens leaves) : token.IsPlain := by
  obtain ⟨entry, -, h⟩ := List.mem_flatMap.1 h
  rcases List.mem_append.1 h with h | h
  · exact isPlain_of_mem_leafTokens h
  · rw [List.mem_singleton.1 h]
    trivial

/-- The tokens of an element that holds leaves, each on a line of its own, behind
    the end of the line of the declaration. -/
def rootTokens (tag : List Char) (leaves : List (List Char × List Char)) : List Token :=
  .char '\n' :: .opening { name := { base := tag }, attributes := [], empty := false } ::
    ((if leaves = [] then [] else [.char '\n']) ++ lineTokens leaves ++ [.closing { base := tag }])

theorem isPlain_of_mem_rootTokens {tag : List Char} {leaves : List (List Char × List Char)}
    {token : Token} (h : token ∈ rootTokens tag leaves) : token.IsPlain := by
  simp only [rootTokens, List.mem_cons, List.mem_append, List.not_mem_nil, or_false] at h
  rcases h with rfl | rfl | (h | h) | rfl
  · trivial
  · rfl
  · split at h
    · cases h
    · rw [List.mem_singleton.1 h]
      trivial
  · exact isPlain_of_mem_lineTokens h
  · trivial

/-- The element that holds leaves, each on a line of its own. -/
def root (tag : List Char) (leaves : List (List Char × List Char)) : Element where
  tag := tag
  text := if leaves = [] then [] else ['\n']
  children := leaves.map fun entry => leaf entry.1 entry.2

theorem element?_root (tag : List Char) (leaves : List (List Char × List Char)) :
    element? ((rootTokens tag leaves).flatMap Token.items) = some (root tag leaves) := by
  have hbegin : ((rootTokens tag leaves).flatMap Token.items).foldlM Progress.advance?
      (.before false) =
        ((lineTokens leaves ++ [Token.closing { base := tag }]).flatMap Token.items).foldlM
          Progress.advance? (.within (OpenElement.plain tag (root tag leaves).text) []) := by
    rw [rootTokens, root]
    by_cases h : leaves = []
    · rw [if_pos h, if_pos h]
      rfl
    · rw [if_neg h, if_neg h]
      rfl
  have hend : ([Token.closing { base := tag }].flatMap Token.items).foldlM Progress.advance?
      (.within ((OpenElement.plain tag (root tag leaves).text).addLeaves leaves) []) =
        some (.after (root tag leaves)) := by
    refine (advance_closing rfl).trans ?_
    simp [Progress.close, OpenElement.addLeaves, OpenElement.finish, OpenElement.plain, root]
  rw [element?, hbegin, List.flatMap_append, List.foldlM_append, advance_lines _ _ rfl]
  simp only [Option.bind_eq_bind, Option.bind_some, hend]

end KeyMacro.Xml
