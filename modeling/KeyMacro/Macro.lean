import KeyMacro.Event
import KeyMacro.Text.CodePoint

/-!
# Macros

A *macro* is a named row of events. It also remembers the default delay of its
script, which profiles show. Its name is a text, or a string if the script was one
(`StringMacro`).
-/

namespace KeyMacro

/-- The name of a macro that is given no other. -/
def Macro.usualName : List Char := "NewMacro".toList

/-- The default delay of a script that gives no other. -/
def Macro.usualDelay : Duration := 15

/-- A macro, as a profile holds it. -/
structure Macro where
  /-- The name. -/
  name : List Char := Macro.usualName
  /-- The default delay in milliseconds. -/
  defaultDelay : Int := (Macro.usualDelay.val : Int)
  /-- The events, first to last. -/
  events : List Event := []
  deriving DecidableEq, Repr

/-- A macro with a string as its name. -/
structure StringMacro where
  /-- The name. -/
  name : List Text.CodePoint
  /-- The default delay in milliseconds. -/
  defaultDelay : Int
  /-- The events, first to last. -/
  events : List Event
  deriving DecidableEq, Repr

/-- A macro whose name is a text is one with a string as its name. -/
def Macro.toStringMacro (made : Macro) : StringMacro where
  name := Text.points made.name
  defaultDelay := made.defaultDelay
  events := made.events

end KeyMacro
