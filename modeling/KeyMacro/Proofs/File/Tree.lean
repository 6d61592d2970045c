import KeyMacro.File.Tree

/-!
# Files that are written

Writing a file changes what one location holds (`node?_put_self`) and nothing else
(`node?_put_of_ne`). That location was no directory, so that all paths lead where
they led before, and the path that was written is read as what was written to it
(`read_of_write`). Whether a path can be written does not depend on what is written
(`Admits`).
-/

namespace KeyMacro.FileTree

variable {tree : FileTree} {place other : Location} {node : Node}

/-! ## Locations -/

theorem lookup_filter_of_ne (nodes : List (Location × Node)) (h : other ≠ place) :
    (nodes.filter (·.1 ≠ place)).lookup other = nodes.lookup other := by
  induction nodes with
  | nil => rfl
  | cons entry nodes ih =>
    obtain ⟨q, held⟩ := entry
    by_cases hq : q = place
    · subst hq
      rw [List.filter_cons_of_neg (by simp), ih, List.lookup_cons, beq_false_of_ne h]
    · rw [List.filter_cons_of_pos (by simpa using hq), List.lookup_cons, List.lookup_cons, ih]

theorem home_put : (tree.put place node).home = tree.home := rfl

/-- A location that is no directory holds what is put there. -/
theorem node?_put_self (h : tree.node? place ≠ some .directory) :
    (tree.put place node).node? place = some node := by
  -- The way to the working directory has directories only.
  have hhome : ¬ place.isPrefixOf tree.home = true := by
    intro hp
    rw [node?, if_pos hp] at h
    exact h rfl
  rw [node?, put, if_neg hhome, List.lookup_cons_self]

/-- All other locations hold what they held. -/
theorem node?_put_of_ne (h : other ≠ place) :
    (tree.put place node).node? other = tree.node? other := by
  rw [node?, node?, put]
  simp only [List.lookup_cons, beq_false_of_ne h, lookup_filter_of_ne _ h]

/-! ## Paths -/

/-- A name is followed from a directory only. -/
theorem node?_of_enter {next : Location} {name : List Char}
    (h : tree.enter place name = .ok next) : tree.node? place = some .directory := by
  rw [enter] at h
  split at h
  · cases h
  · cases h
  · assumption

/-- Another tree with the directories of this one has the same ways through them. -/
theorem enter_mono {other : FileTree} {start found : Location} {name : List Char}
    (hdir : ∀ around, tree.node? around = some .directory → other.node? around = some .directory)
    (h : tree.enter start name = .ok found) : other.enter start name = .ok found := by
  have hstart := node?_of_enter h
  rw [← h, enter, enter, hstart, hdir start hstart]

theorem foldlM_enter_mono {other : FileTree} {start found : Location} {names : List (List Char)}
    (hdir : ∀ around, tree.node? around = some .directory → other.node? around = some .directory)
    (h : names.foldlM tree.enter start = .ok found) :
    names.foldlM other.enter start = .ok found := by
  induction names generalizing start with
  | nil => exact h
  | cons name names ih =>
    rw [List.foldlM_cons] at h ⊢
    cases he : tree.enter start name with
    | error e =>
      rw [he] at h
      cases h
    | ok middle =>
      rw [he] at h
      rw [enter_mono hdir he]
      exact ih h

theorem locate_eq_ok_iff {path : Path} {found : Location} : tree.locate path = .ok found ↔
    path.check = .ok () ∧ path.names.foldlM tree.enter (tree.start path) = .ok found := by
  rw [locate]
  cases path.check <;> simp [bind, Except.bind]

/-- A path leads to the same location in another tree with the same working
    directory and the directories of this one. -/
theorem locate_mono {other : FileTree} {path : Path} {found : Location}
    (hhome : other.home = tree.home)
    (hdir : ∀ around, tree.node? around = some .directory → other.node? around = some .directory)
    (h : tree.locate path = .ok found) : other.locate path = .ok found := by
  obtain ⟨hcheck, hnames⟩ := locate_eq_ok_iff.1 h
  have hstart : other.start path = tree.start path := by rw [start, start, hhome]
  exact locate_eq_ok_iff.2 ⟨hcheck, hstart ▸ foldlM_enter_mono hdir hnames⟩

/-- Where something is put that was no directory, no way led through it. -/
theorem locate_put {path : Path} {found : Location}
    (hplace : tree.node? place ≠ some .directory) (h : tree.locate path = .ok found) :
    (tree.put place node).locate path = .ok found := by
  have hdir : ∀ around, tree.node? around = some .directory →
      (tree.put place node).node? around = some .directory := by
    intro around haround
    have hne : around ≠ place := fun he => hplace (he ▸ haround)
    rw [node?_put_of_ne hne, haround]
  exact locate_mono home_put hdir h

/-! ## Files -/

/-- A path whose last name is not empty leads to the same location for reading and
    for writing. -/
theorem locateOutput_eq {path : Path} (h : path.names.getLast? ≠ some []) :
    tree.locateOutput path = tree.locate path := by
  rw [locateOutput, locate]
  split
  · next names hr =>
    rw [← List.head?_reverse, hr] at h
    exact absurd rfl h
  · rfl

/-- What is written at a path is put where the path leads for writing, which is no
    directory. -/
theorem write_eq_ok_iff {path : Path} {bytes : List UInt8} {next : FileTree} :
    tree.write path bytes = .ok next ↔ ∃ place, tree.locateOutput path = .ok place ∧
      tree.node? place ≠ some .directory ∧ next = tree.put place (.file bytes) := by
  rw [write]
  cases hl : tree.locateOutput path with
  | error e => simp [bind, Except.bind]
  | ok place =>
    simp only [bind, Except.bind, Except.ok.injEq, exists_eq_left']
    split
    · next hd => simp [hd]
    · next hne =>
      rw [Except.ok.injEq, eq_comm]
      exact ⟨fun h => ⟨hne, h⟩, fun h => h.2⟩

theorem read_eq_ok_iff {path : Path} {bytes : List UInt8} : tree.read path = .ok bytes ↔
    ∃ place, tree.locate path = .ok place ∧ tree.node? place = some (.file bytes) := by
  rw [read]
  cases tree.locate path with
  | error e => simp [bind, Except.bind]
  | ok place =>
    simp only [bind, Except.bind, Except.ok.injEq, exists_eq_left']
    split <;> simp_all

/-- What is written at a path is read there. -/
theorem read_of_write {path : Path} {bytes : List UInt8} {next : FileTree}
    (hlast : path.names.getLast? ≠ some []) (h : tree.write path bytes = .ok next) :
    next.read path = .ok bytes := by
  obtain ⟨place, hlocate, hplace, rfl⟩ := write_eq_ok_iff.1 h
  rw [locateOutput_eq hlast] at hlocate
  exact read_eq_ok_iff.2 ⟨place, locate_put hplace hlocate, node?_put_self hplace⟩

/-- Whether a path leads to where a file is or may be. -/
def Admits (tree : FileTree) (path : Path) : Prop :=
  ∃ place, tree.locateOutput path = .ok place ∧ tree.node? place ≠ some .directory

/-- A path that leads anywhere for writing has no slash at its end. -/
theorem getLast?_ne_of_locateOutput {path : Path} (h : tree.locateOutput path = .ok place) :
    path.names.getLast? ≠ some [] := by
  intro hlast
  rw [← List.head?_reverse, List.head?_eq_some_iff] at hlast
  obtain ⟨names, hnames⟩ := hlast
  revert h
  rw [locateOutput, hnames]
  simp only [bind, Except.bind]
  -- Whether or not the directory around it is found, there is an error.
  split
  · rintro ⟨⟩
  · split <;> rintro ⟨⟩

/-- Where a path leads to a file, and nowhere else, can something be written. -/
theorem admits_iff {path : Path} (bytes : List UInt8) :
    tree.Admits path ↔ ∃ next, tree.write path bytes = .ok next := by
  simp only [write_eq_ok_iff]
  constructor
  · rintro ⟨place, hplace, hne⟩
    exact ⟨_, place, hplace, hne, rfl⟩
  · rintro ⟨-, place, hplace, hne, -⟩
    exact ⟨place, hplace, hne⟩

/-- Any bytes can be written where a path leads to a file, and are read there. -/
theorem write_of_admits {path : Path} (h : tree.Admits path) (bytes : List UInt8) :
    ∃ next, tree.write path bytes = .ok next ∧ next.read path = .ok bytes := by
  obtain ⟨next, hwrite⟩ := (admits_iff bytes).1 h
  obtain ⟨place, hplace, -⟩ := h
  exact ⟨next, hwrite, read_of_write (getLast?_ne_of_locateOutput hplace) hwrite⟩

/-! ## The tree of a command -/

theorem run_read (tree : FileTree) (path : Path) :
    (FileTree.files.read path).run tree = pure (tree.read path, tree) := rfl

theorem run_write_ok {path : Path} {bytes : List UInt8} {next : FileTree}
    (h : tree.write path bytes = .ok next) :
    (FileTree.files.write path bytes).run tree = pure (.ok (), next) := by
  simp [FileTree.files, h]

theorem run_write_error {path : Path} {bytes : List UInt8} {e : FileError}
    (h : tree.write path bytes = .error e) :
    (FileTree.files.write path bytes).run tree = pure (.error e, tree) := by
  simp [FileTree.files, h]

end KeyMacro.FileTree
