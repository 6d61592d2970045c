import KeyMacro.File.Access

/-!
# File trees

A *file tree* holds files and directories at *locations*: the names that lead to
them from the root. One of its directories is the working directory, where
paths without a leading slash start; it and those around it are always there.

A path is followed name by name. An empty name and a dot lead nowhere and two
dots lead up, but like all names they can only be followed from a directory.

* `FileTree.locate`: the location that a path leads to.
* `FileTree.files`: the tree as the files of a command.
-/

namespace KeyMacro

/-- What a location holds. -/
inductive Node where
  | file (bytes : List UInt8)
  | directory
  deriving DecidableEq, Repr

/-- The names from the root to a file or directory. -/
abbrev Location := List (List Char)

/-- A file tree. -/
structure FileTree where
  /-- The working directory. -/
  home : Location
  /-- What locations hold; the first entry for a location counts. -/
  nodes : List (Location × Node) := []

/-- The number of bytes of a text. -/
def byteCount (cs : List Char) : Nat := (cs.flatMap String.utf8EncodeChar).length

/-- The greatest number of bytes in a name. -/
def maxNameBytes : Nat := 255

/-- The greatest number of bytes in a path. -/
def maxPathBytes : Nat := 4095

/-- Asks of a path what does not depend on any files. -/
def Path.check (path : Path) : Except FileError Unit :=
  if path.names.any (·.contains '\x00') then .error .nulInName
  else if path.slashes = 0 ∧ path.names = [[]] then .error .noSuchFile
  else if byteCount path.text > maxPathBytes then .error .nameTooLong
  else .ok ()

namespace FileTree

variable (tree : FileTree)

/-- What a location holds, if anything. -/
def node? (place : Location) : Option Node :=
  if place.isPrefixOf tree.home then some .directory else tree.nodes.lookup place

/-- The tree with a location holding something else. -/
def put (place : Location) (node : Node) : FileTree :=
  { tree with nodes := (place, node) :: tree.nodes.filter (·.1 ≠ place) }

/-- The location one name further on, which asks that this one is a directory. -/
def enter (place : Location) (name : List Char) : Except FileError Location :=
  match tree.node? place with
  | none => .error .noSuchFile
  | some (.file _) => .error .notDirectory
  | some .directory =>
    if name = [] ∨ name = ['.'] then .ok place
    else if name = ['.', '.'] then .ok place.dropLast
    else if byteCount name > maxNameBytes then .error .nameTooLong
    else .ok (place ++ [name])

/-- Where a path starts. -/
def start (path : Path) : Location := if path.slashes = 0 then tree.home else []

/-- The location that a path leads to. -/
def locate (path : Path) : Except FileError Location := do
  path.check
  path.names.foldlM tree.enter (tree.start path)

/-- The location of a file to be written. A path with a slash at its end is taken
    for that of a directory, whether there is one or not. -/
def locateOutput (path : Path) : Except FileError Location := do
  path.check
  match path.names.reverse with
  | [] :: names => do
    let around := (names.dropWhile (· = [])).tail.reverse
    let _ ← (around ++ [[]]).foldlM tree.enter (tree.start path)
    throw .isDirectory
  | _ => path.names.foldlM tree.enter (tree.start path)

/-- The bytes of the file at a path. -/
def read (path : Path) : Except FileError (List UInt8) := do
  match tree.node? (← tree.locate path) with
  | some (.file bytes) => .ok bytes
  | some .directory => .error .isDirectory
  | none => .error .noSuchFile

/-- The tree after a file is written at a path. -/
def write (path : Path) (bytes : List UInt8) : Except FileError FileTree := do
  let place ← tree.locateOutput path
  match tree.node? place with
  | some .directory => .error .isDirectory
  | _ => .ok (tree.put place (.file bytes))

end FileTree

/-- A file tree as the files of a command. -/
def FileTree.files : Files (StateM FileTree) where
  read path := do return (← get).read path
  write path bytes := do
    match (← get).write path bytes with
    | .ok tree => set tree; return .ok ()
    | .error e => return .error e

end KeyMacro
