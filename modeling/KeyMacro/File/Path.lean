/-!
# Paths

A *path* names a file by the directories to go through. Directories that lead
nowhere (`.`) and superfluous slashes are dropped when a path is read, steps up
(`..`) are kept. The *suffix* of a path is what its last name has from its last
dot on, provided that the dot is neither the first nor the last character.

* `Path.verbatim`: the path that a text is with nothing dropped, which may lead
  elsewhere: a slash at its end asks for a directory.
* `Path.withSuffix?`: the path with another suffix, which a path without a name
  does not have.
-/

namespace KeyMacro

/-- A path. -/
structure Path where
  /-- The number of slashes that it begins with. Without any it starts from the
      working directory, and else from the root. -/
  slashes : Nat
  /-- The names of the directories to go through, and of the file. -/
  names : List (List Char)
  deriving DecidableEq, Repr

namespace Path

/-- The number of leading slashes that is kept. -/
def keptSlashes (n : Nat) : Nat := if n = 0 then 0 else if n = 2 then 2 else 1

/-- The path that a text is. -/
def ofText (cs : List Char) : Path where
  slashes := keptSlashes (cs.takeWhile (· == '/')).length
  names := (cs.splitOnP (· == '/')).filter fun name => name ≠ [] ∧ name ≠ ['.']

/-- The path that a text is, with all its names: there is an empty one wherever a
    slash is followed by a slash or by nothing. -/
def verbatim (cs : List Char) : Path where
  slashes := (cs.takeWhile (· == '/')).length
  names := (cs.dropWhile (· == '/')).splitOnP (· == '/')

/-- The text of a path. -/
def text (path : Path) : List Char :=
  match List.replicate path.slashes '/' ++ ['/'].intercalate path.names with
  | [] => ['.']
  | cs => cs

/-- A name before its suffix, and its suffix. -/
def splitName (name : List Char) : List Char × List Char :=
  let ending := (name.reverse.takeWhile (· ≠ '.')).reverse
  match name.reverse.dropWhile (· ≠ '.') with
  | dot :: s :: tem => if ending = [] then (name, []) else ((s :: tem).reverse, dot :: ending)
  | _ => (name, [])

/-- The suffix of a path. -/
def suffix (path : Path) : List Char :=
  match path.names.getLast? with
  | some name => (splitName name).2
  | none => []

/-- The path with another suffix. -/
def withSuffix? (path : Path) (ending : List Char) : Option Path :=
  match path.names.getLast? with
  | some name => some { path with names := path.names.dropLast ++ [(splitName name).1 ++ ending] }
  | none => none

end Path

end KeyMacro
