import KeyMacro.Profile.Document
import KeyMacro.Xml.Namespace

/-!
# Tags with namespaces

The tag of a field may have the name of a namespace between braces in front, as
the tags of a document that is read have. A document has no braces in its names:
there an element has a qualifier for its namespace, and the root element
declares what the qualifiers mean. Some namespaces have a usual qualifier, the
others get numbered ones, in the order in which the fields come.

* `document?`: the document of a profile with such tags.
* `document?_eq_document`: tags without braces are written as they are.
-/

namespace KeyMacro.Profile

/-- What is wrong with a tag. -/
inductive TagError where
  /-- The brace that it begins with is not closed. -/
  | unclosed
  deriving DecidableEq, Repr

/-- The wording of a `TagError`. -/
def TagError.message : TagError → String
  | unclosed => "not enough values to unpack (expected 2, got 1)"

/-- The namespace of a tag, if it has one, and its base name. The last closing
    brace divides them. -/
def splitTag : List Char → Except TagError (Option (List Char) × List Char)
  | '{' :: tag =>
    match tag.reverse.dropWhile (· ≠ '}') with
    | [] => .error .unclosed
    | _ :: space => .ok (some space.reverse, (tag.reverse.takeWhile (· ≠ '}')).reverse)
  | tag => .ok (none, tag)

/-! ### Qualifiers -/

/-- The namespaces that have a usual qualifier. -/
def usualQualifiers : List (List Char × List Char) :=
  [(Xml.xmlNamespace, "xml".toList),
    (Xml.pageNamespace "www.w3.org" "1999/xhtml", "html".toList),
    (Xml.pageNamespace "www.w3.org" "1999/02/22-rdf-syntax-ns#", "rdf".toList),
    (Xml.pageNamespace "schemas.xmlsoap.org" "wsdl/", "wsdl".toList),
    (Xml.pageNamespace "www.w3.org" "2001/XMLSchema", "xs".toList),
    (Xml.pageNamespace "www.w3.org" "2001/XMLSchema-instance", "xsi".toList),
    (Xml.pageNamespace "purl.org" "dc/elements/1.1/", "dc".toList)]

/-- The namespaces that are declared, each with its qualifier. -/
abbrev Declarations := List (List Char × List Char)

/-- The qualifier of a namespace: the one that is declared, else the usual one,
    else a new one. -/
def qualifier (declared : Declarations) (space : List Char) : List Char :=
  ((declared.lookup space).or (usualQualifiers.lookup space)).getD
    ("ns".toList ++ Nat.toDigits 10 declared.length)

/-- The declarations with one for a namespace. The one namespace whose qualifier
    always means it needs none. -/
def declare (declared : Declarations) (space : List Char) : Declarations :=
  if (declared.lookup space).isSome ∨ space = Xml.xmlNamespace then declared
  else declared ++ [(space, qualifier declared space)]

/-- The fields with the names that their elements have, and the declarations that
    these need, given those there are. -/
def nameElements (declared : Declarations) : Fields → Except TagError (Declarations × Fields)
  | [] => .ok (declared, [])
  | (tag, text) :: rest => do
    match ← splitTag tag with
    | (none, name) =>
      let (all, elements) ← nameElements declared rest
      return (all, (name, text) :: elements)
    | (some space, base) =>
      let next := declare declared space
      let (all, elements) ← nameElements next rest
      return (all, (qualifier next space ++ ':' :: base, text) :: elements)

/-! ### Documents -/

/-- A character of the value of an attribute, as a document holds it. -/
def escapeValueChar (c : Char) : List Char :=
  if c = '"' then "&quot;".toList
  else if c = '\t' then "&#09;".toList
  else if c = '\n' then "&#10;".toList
  else if c = '\r' then "&#13;".toList
  else escapeChar c

/-- The attribute that declares a namespace. -/
def declareAttribute (space qualifier : List Char) : List Char :=
  " xmlns:".toList ++ qualifier ++ '=' :: '"' :: space.flatMap escapeValueChar ++ ['"']

/-- Whether a qualifier comes before another one. -/
def precedes (a b : List Char) : Bool := List.lex a b fun c d => c.toNat < d.toNat

/-- The attributes of the root element, in the order of the qualifiers. -/
def declareAttributes (declared : Declarations) : List Char :=
  (declared.mergeSort fun a b => !precedes b.2 a.2).flatMap fun entry =>
    declareAttribute entry.1 entry.2

/-- The document of a profile. -/
def document? (fields : Fields) : Except TagError (List Char) := do
  let (declared, elements) ← nameElements [] fields
  return documentWith (declareAttributes declared) elements

theorem splitTag_eq {tag : List Char} (h : tag.head? ≠ some '{') :
    splitTag tag = .ok (none, tag) := by
  cases tag with
  | nil => rfl
  | cons c cs =>
    rw [splitTag]
    rintro rest ⟨⟩
    exact h rfl

theorem nameElements_eq (declared : Declarations) {fields : Fields}
    (h : ∀ field ∈ fields, field.1.head? ≠ some '{') :
    nameElements declared fields = .ok (declared, fields) := by
  induction fields with
  | nil => rfl
  | cons field rest ih =>
    simp [nameElements, splitTag_eq (h field List.mem_cons_self),
      ih fun f hf => h f (List.mem_cons_of_mem _ hf), bind, Except.bind, pure, Except.pure]

theorem document?_eq_document {fields : Fields}
    (h : ∀ field ∈ fields, field.1.head? ≠ some '{') :
    document? fields = .ok (document fields) := by
  simp [document?, nameElements_eq [] h, document, declareAttributes, bind, Except.bind, pure,
    Except.pure]

end KeyMacro.Profile
