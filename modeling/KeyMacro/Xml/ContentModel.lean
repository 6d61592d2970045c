import KeyMacro.Xml.Lexeme

/-!
# Content models

A document type may declare of an element what it holds: nothing, anything,
characters with some elements among them, or other elements in groups. The
members of a group are either all in sequence or all alternatives, and may be
groups themselves.

Documents are not held to these declarations, but the declarations are held to
their form (`isContentModel`). The groups that are open make a stack, with the
connector of each, once it is known (`ModelState`).
-/

namespace KeyMacro.Xml

/-- How far the groups of a content model have been read. -/
inductive ModelState where
  /-- A member of the innermost group comes next. -/
  | member (connectors : List (Option Char))
  /-- A connector comes next, or the end of the innermost group. -/
  | follow (connectors : List (Option Char))
  /-- All groups have ended. -/
  | complete
  deriving DecidableEq, Repr

/-- What the next lexeme leads to. -/
def ModelState.advance? : ModelState → Lexeme → Option ModelState
  | member connectors, .opening => some (member (none :: connectors))
  | member connectors, .name _ _ => some (follow connectors)
  | follow (connector :: outer), .connector sign =>
    if connector.all (· = sign) then some (member (some sign :: outer)) else none
  | follow (_ :: outer), .closing _ => some (if outer = [] then complete else follow outer)
  | _, _ => none

/-- Whether some lexemes are a group of elements, behind its first sign. -/
def isGroup (ls : List Lexeme) : Bool :=
  ls.foldlM ModelState.advance? (.member [none]) = some .complete

/-- Whether some lexemes are the elements that come among characters, each
    behind its connector, and the end of their group. -/
def areAlternatives : List Lexeme → Bool
  | [.closing (some '*')] => true
  | .connector '|' :: .name _ none :: ls => areAlternatives ls
  | _ => false

/-- Whether some lexemes tell what an element holds. -/
def isContentModel : List Lexeme → Bool
  | [.name word none] => word = { base := "EMPTY".toList } ∨ word = { base := "ANY".toList }
  | .opening :: .keyword word :: ls =>
    word = "PCDATA".toList && (ls = [.closing none] || areAlternatives ls)
  | .opening :: ls => isGroup ls
  | _ => false

end KeyMacro.Xml
