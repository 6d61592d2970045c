import KeyMacro.Proofs.File.Tree

/-!
# Where paths lead

A path leads to its location through directories, one name after the other, so that
everything around the location is a directory (`Surrounded.foldlM_enter`), whatever
else the tree holds. A name that leads nowhere or up ends at a directory. So if
there is none where a path leads to, the location has the last name of the path
(`getLast?_of_locate`): what a file is called is told by any path to it.
-/

namespace KeyMacro.FileTree

variable {tree : FileTree} {path : Path} {place next : Location} {name : List Char}

/-- Whether everything around a location is a directory. -/
def Surrounded (tree : FileTree) (place : Location) : Prop :=
  ∀ around, around <+: place → around ≠ place → tree.node? around = some .directory

/-- A name that is followed leads back on the way, or one step on. -/
theorem enter_cases (h : tree.enter place name = .ok next) :
    next <+: place ∨ next = place ++ [name] := by
  rw [enter, node?_of_enter h] at h
  dsimp only at h
  split at h
  · exact .inl (Except.ok.inj h ▸ List.prefix_rfl)
  split at h
  · exact .inl (Except.ok.inj h ▸ List.dropLast_prefix place)
  split at h
  · cases h
  · exact .inr (Except.ok.inj h).symm

/-! ## The way to a location -/

/-- All paths start at a directory. -/
theorem node?_start (tree : FileTree) (path : Path) :
    tree.node? (tree.start path) = some .directory := by
  have hhome : (tree.start path).isPrefixOf tree.home = true := by
    rw [start]
    split
    · exact List.isPrefixOf_iff_prefix.2 List.prefix_rfl
    · rfl
  rw [node?, if_pos hhome]

theorem surrounded_start (tree : FileTree) (path : Path) :
    tree.Surrounded (tree.start path) := by
  intro around haround hne
  rw [start] at haround hne
  split at haround
  · -- The working directory is in directories.
    rw [node?, if_pos (List.isPrefixOf_iff_prefix.2 haround)]
  · next hslash =>
    rw [if_neg hslash] at hne
    exact absurd (List.prefix_nil.1 haround) hne

/-- What is on the way to a location is a directory, unless it is the location. -/
theorem Surrounded.node?_of_prefix (h : tree.Surrounded place)
    (hplace : tree.node? place = some .directory) (hnext : next <+: place) :
    tree.node? next = some .directory := by
  by_cases he : next = place
  · rw [he, hplace]
  · exact h next hnext he

theorem Surrounded.enter (h : tree.Surrounded place)
    (he : tree.enter place name = .ok next) : tree.Surrounded next := by
  intro around haround hne
  have hplace := node?_of_enter he
  rcases enter_cases he with hback | rfl
  · exact h.node?_of_prefix hplace (haround.trans hback)
  · rcases List.prefix_concat_iff.1 haround with hall | haround
    · exact absurd hall hne
    · exact h.node?_of_prefix hplace haround

theorem Surrounded.foldlM_enter {names : List (List Char)} (h : tree.Surrounded place)
    (hnames : names.foldlM tree.enter place = .ok next) : tree.Surrounded next := by
  induction names generalizing place with
  | nil => exact Except.ok.inj hnames ▸ h
  | cons name names ih =>
    rw [List.foldlM_cons] at hnames
    cases he : tree.enter place name with
    | error e =>
      rw [he] at hnames
      cases hnames
    | ok middle =>
      rw [he] at hnames
      exact ih (h.enter he) hnames

/-! ## The last name -/

/-- Where a path does not lead to a directory, its last name is the one of the
    location. -/
theorem getLast?_of_locate (h : tree.locate path = .ok place)
    (hplace : tree.node? place ≠ some .directory) :
    place.getLast? = path.names.getLast? := by
  obtain ⟨-, hnames⟩ := locate_eq_ok_iff.1 h
  rcases List.eq_nil_or_concat path.names with hnil | ⟨names, name, hconcat⟩
  · -- Without any name the path leads to where it starts.
    rw [hnil] at hnames
    exact absurd (Except.ok.inj hnames ▸ node?_start tree path) hplace
  rw [List.concat_eq_append] at hconcat
  rw [hconcat, List.foldlM_append] at hnames
  cases hmiddle : names.foldlM tree.enter (tree.start path) with
  | error e =>
    rw [hmiddle] at hnames
    cases hnames
  | ok middle =>
    simp only [hmiddle, List.foldlM_cons, List.foldlM_nil, bind_pure] at hnames
    have he : tree.enter middle name = .ok place := hnames
    rcases enter_cases he with hback | rfl
    · -- What the last name leads back to is on the way, and so a directory.
      have hmiddle' := (surrounded_start tree path).foldlM_enter hmiddle
      exact absurd (hmiddle'.node?_of_prefix (node?_of_enter he) hback) hplace
    · rw [hconcat, List.getLast?_concat, List.getLast?_concat]

end KeyMacro.FileTree
