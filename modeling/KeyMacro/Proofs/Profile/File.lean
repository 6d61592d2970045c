import KeyMacro.Profile.File
import KeyMacro.Proofs.File.Tree
import KeyMacro.Proofs.Profile.Reader
import KeyMacro.Proofs.Script.Sound

/-!
# Profiles saved and loaded

A profile that is saved is loaded again with its payload if a document may hold every
character of the name of the macro. No text in a name is ever taken for markup. If
there is a character that a document may not hold, anywhere in the name, then the file
is not valid XML (`load_save`).

The default delay of a script is short enough to be written (`digitCount_compile`).
-/

namespace KeyMacro.Profile

variable {wording : List UInt8 → String} {tree : FileTree} {path : Path} {made : Macro}

/-! ## Saving -/

theorem bytes?_eq (h : Numeral.digitCount made.defaultDelay ≤ Numeral.maxDigits) :
    bytes? made = some (bytes made) := if_pos h

/-- The profile of a macro is saved where there is a file or may be one. -/
theorem run_save (hpath : tree.Admits path)
    (hdelay : Numeral.digitCount made.defaultDelay ≤ Numeral.maxDigits) :
    ∃ next, (save FileTree.files path made).run tree = pure (.ok (), next) ∧
      next.read path = .ok (bytes made) := by
  obtain ⟨next, hwrite, hread⟩ := FileTree.write_of_admits hpath (bytes made)
  refine ⟨next, ?_, hread⟩
  simp only [save, bytes?_eq hdelay, StateT.run_bind, FileTree.run_write_ok hwrite, pure_bind,
    StateT.run_pure]
  rfl

/-- The default delay of a script can always be written. -/
theorem digitCount_compile (lines : List (List Char)) :
    Numeral.digitCount (Script.compile lines).defaultDelay ≤ Numeral.maxDigits := by
  have hdelay : Numeral.digitCount (Script.compile lines).defaultDelay ≤ 3 := by
    obtain ⟨hlow, hhigh⟩ := (Script.isSound_compile lines).defaultDelay
    exact (Nat.length_toDigits_le_iff (by decide) (by decide)).2 (by omega)
  exact hdelay.trans (by decide)

/-! ## Loading -/

theorem run_load {content : List UInt8} (h : tree.read path = .ok content) :
    (load FileTree.files wording path).run tree =
      pure ((payload? wording content).mapError .content, tree) := by
  simp only [load, StateT.run_bind, FileTree.run_read, h, pure_bind, StateT.run_pure]

/-- What is loaded from where a profile has been saved is its payload, if a document
    may hold all characters of the name, and else the file is not valid XML. -/
theorem load_save (hpath : tree.Admits path)
    (hdelay : Numeral.digitCount made.defaultDelay ≤ 4300) :
    ∃ next, (save FileTree.files path made).run tree = pure (.ok (), next) ∧
      (load FileTree.files wording path).run next =
        pure (if made.name.all Xml.isChar then .ok (Payload.encode made.events)
          else .error (.content (.notXml (wording (bytes made)))), next) ∧
      (LoadError.content (.notXml (wording (bytes made)))).message path.text =
        s!"{String.ofList path.text} is not valid XML: {wording (bytes made)}" := by
  obtain ⟨next, hsave, hread⟩ := run_save hpath hdelay
  refine ⟨next, hsave, ?_, rfl⟩
  rw [run_load hread, payload?_bytes]
  cases made.name.all Xml.isChar <;> rfl

/-- A tree of an empty working directory. -/
def emptyTree : FileTree := { home := [] }

/-- A path in the working directory of a tree. -/
def plainPath : Path := ⟨0, ["a.xml".toList]⟩

/-- A macro whose name has markup in it, with keys that no script has, and a default
    delay that no script sets. -/
def marked : Macro where
  name := "a]]></MacroName>&amp;<MacroInfo>ff<!-- \r".toList
  defaultDelay := -40
  events := [.keyTap (Fin.last 255) Macro.usualDelay, .keyUp Key.noKey]

/-- The same with a name that ends with a character that documents may not hold. -/
def unmarkable : Macro := { marked with name := "a\ufffe".toList }

/-- Markup in a name does no harm, one character that is not allowed does. -/
theorem load_save_marked :
    emptyTree.Admits plainPath ∧ Numeral.digitCount marked.defaultDelay ≤ 4300 ∧
      Numeral.digitCount unmarkable.defaultDelay ≤ 4300 ∧
      (∃ next, (save FileTree.files plainPath marked).run emptyTree = pure (.ok (), next) ∧
        (load FileTree.files (fun _ => "") plainPath).run next =
          pure (.ok (Payload.encode marked.events), next)) ∧
      ∃ next, (save FileTree.files plainPath unmarkable).run emptyTree = pure (.ok (), next) ∧
        (load FileTree.files (fun _ => "not well-formed") plainPath).run next =
          pure (.error (.content (.notXml "not well-formed")), next) := by
  have hpath : emptyTree.Admits plainPath := ⟨["a.xml".toList], rfl, by decide⟩
  have hmarked : Numeral.digitCount marked.defaultDelay ≤ 4300 := by decide
  have hunmarkable : Numeral.digitCount unmarkable.defaultDelay ≤ 4300 := by decide
  obtain ⟨next, hsave, hload, -⟩ := load_save hpath hmarked
  obtain ⟨next', hsave', hload', -⟩ := load_save hpath hunmarkable
  refine ⟨hpath, hmarked, hunmarkable, ⟨next, hsave, ?_⟩, next', hsave', ?_⟩
  · rw [hload, if_pos (by decide)]
  · rw [hload', if_neg (by decide)]

end KeyMacro.Profile
