import KeyMacro.Macro
import KeyMacro.Payload
import KeyMacro.Text.Numeral

/-!
# Profile fields

A *profile* is a row of fields, each a tag and a text. The profile of a macro
has twelve (`ofMacro`): three depend on the default delay and the name, the last
is the payload, and the others are always the same.
-/

namespace KeyMacro.Profile

/-- The fields of a profile: tags with texts, in order, and no tag twice. -/
abbrev Fields := List (List Char × List Char)

/-- The tag of the payload. -/
def payloadTag : List Char := "MacroInfo".toList

/-- The fields of the profile of a macro with a name of some kind, given what texts
    are among the names of that kind. -/
def fieldsOf {α : Type} (plain : List Char → α) (name : α) (defaultDelay : Int)
    (events : List Event) : List (List Char × α) :=
  [("Info".toList, plain "LaverGKey".toList),
    ("LoopType".toList, plain "0".toList),
    ("ButtonFunction".toList, plain "48".toList),
    ("ButtonID".toList, plain "1".toList),
    ("DefaultDelayTime".toList, plain (Numeral.decimal defaultDelay)),
    ("DelayType".toList, plain "2".toList),
    ("FixMacroDelay".toList, plain (Numeral.decimal defaultDelay)),
    ("LaunchPath".toList, plain "".toList),
    ("LoopNumber".toList, plain "1".toList),
    ("MacroName".toList, name),
    ("RandomDelayTime".toList, plain "1000".toList),
    (payloadTag, plain (Payload.encode events))]

/-- The fields of the profile of a macro. -/
def ofMacro (m : Macro) : Fields :=
  fieldsOf (fun cs => cs) m.name m.defaultDelay m.events

/-- The fields of the profile of a macro with a string as its name. -/
def ofStringMacro (m : StringMacro) : List (List Char × List Text.CodePoint) :=
  fieldsOf Text.points m.name m.defaultDelay m.events

end KeyMacro.Profile
