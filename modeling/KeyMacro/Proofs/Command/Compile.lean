import KeyMacro.Command.Compile
import KeyMacro.Proofs.File.Path
import KeyMacro.Proofs.File.Tree
import KeyMacro.Proofs.Text.LetterCase

/-!
# Compiling in a file tree

What compiling one script in a file tree may come to, what there is to say about
it and what the tree is afterwards, is told case by case (`Compiling`). A file is
changed only where a profile is written, and then nothing can go wrong any more but
that the line about it is refused.
-/

namespace KeyMacro.Command

open FileTree (run_read run_write_ok run_write_error)

variable {host : Host} {print : Bool} {tree : FileTree} {input output : Path}

/-! ## Names of profiles -/

/-- Only the last name of a path tells whether it is that of a profile. -/
theorem isProfile_congr {path other : Path} (h : path.names.getLast? = other.names.getLast?) :
    isProfile path = isProfile other := by
  have hsuffix : path.suffix = other.suffix := by rw [Path.suffix, Path.suffix, h]
  rw [isProfile, isProfile, hsuffix]

theorem isProfile_withSuffix? (h : input.IsPlain)
    (hout : input.withSuffix? profileSuffix = some output) : isProfile output = true := by
  have hsuffix : output.suffix = profileSuffix :=
    Path.suffix_withSuffix? h (by decide) (by decide) hout
  rw [isProfile, hsuffix]
  decide

/-- The path of an input and that of its profile differ in the letter case, if at all,
    just where the input is a profile by its name. -/
theorem differOnlyInCase_eq_isProfile (hout : input.withSuffix? profileSuffix = some output) :
    differOnlyInCase output input = isProfile input := by
  obtain ⟨name, hlast, rfl⟩ := Path.withSuffix?_eq_some_iff.1 hout
  obtain ⟨slashes, names⟩ := input
  obtain ⟨dirs, rfl⟩ := List.getLast?_eq_some_iff.1 hlast
  obtain ⟨front, htext⟩ := Path.exists_text_eq slashes dirs
  have hsuffix : Path.suffix ⟨slashes, dirs ++ [name]⟩ = (Path.splitName name).2 := by
    rw [Path.suffix, List.getLast?_concat]
  have hown : ∀ d ∈ profileSuffix, Text.IsOwnLetter d := by
    simp [profileSuffix, Text.IsOwnLetter]
  have hword := Text.lowerAfter_eq_iff hown
  have hsmall : profileSuffix.map Char.toLower = profileSuffix := by decide
  rw [differOnlyInCase, isProfile, hsuffix, List.dropLast_concat, htext, htext, decide_eq_decide,
    if_neg (by simp [profileSuffix])]
  generalize hstem : (Path.splitName name).1 = stem, hending : (Path.splitName name).2 = ending
  have hname : name = stem ++ ending := by
    rw [← hstem, ← hending, Path.splitName_fst_append_snd]
  by_cases hempty : front ++ name = []
  · -- The text of the input is a dot, which has no suffix.
    obtain ⟨rfl, hnone⟩ := List.append_eq_nil_iff.1 hempty
    obtain ⟨rfl, rfl⟩ := List.append_eq_nil_iff.1 (hname.symm.trans hnone)
    rw [if_pos hempty]
    decide +kernel
  · rw [if_neg hempty, hname, ← List.append_assoc, ← List.append_assoc]
    constructor
    · intro h
      rw [← hword, ← Text.lowerAfter_eq_of_lower_append h, hword, hsmall]
    · intro h
      refine Text.lower_congr ?_
      simp only [List.map_append, h, hsmall]

/-! ## One script -/

/-- A file that is no text fails, and leaves the tree as it is. -/
theorem compileScript_notText {bytes : List UInt8} {notes : List Note} {fault : Utf8.Fault}
    (hread : tree.read input = .ok bytes)
    (hcompile : Script.compileFile bytes = (notes, .error fault)) :
    (compileScript FileTree.files host print input output).run tree =
      pure ({ input, notes, outcome := .failed (.notText fault) }, tree) := by
  simp [compileScript, run_read, hread, hcompile]

/-- A script that can be read, compiled and written is, whether or not it can be reported. -/
theorem compileScript_written {bytes : List UInt8} {notes : List Note} {made : Macro}
    {next : FileTree} (hread : tree.read input = .ok bytes)
    (hcompile : Script.compileFile bytes = (notes, .ok made))
    (hwrite : tree.write output (Profile.bytes made) = .ok next) :
    (compileScript FileTree.files host false input output).run tree =
      pure ({ input
              notes := notes ++ Payload.notes made.events
              outcome := report host input output made }, next) := by
  simp [compileScript, run_read, hread, hcompile, run_write_ok hwrite]

/-- What compiling a script in a tree may come to: the result and the tree
    afterwards. -/
inductive Compiling (host : Host) (print : Bool) (tree : FileTree) (input output : Path) :
    Result × FileTree → Prop
  | unreadable {e : FileError} (hread : tree.read input = .error e) :
    Compiling host print tree input output
      ({ input, notes := [], outcome := .failed (.access input e) }, tree)
  | notText {bytes : List UInt8} {notes : List Note} {fault : Utf8.Fault}
    (hread : tree.read input = .ok bytes)
    (hcompile : Script.compileFile bytes = (notes, .error fault)) :
    Compiling host print tree input output
      ({ input, notes, outcome := .failed (.notText fault) }, tree)
  | printed {bytes : List UInt8} {notes : List Note} {made : Macro}
    (hread : tree.read input = .ok bytes)
    (hcompile : Script.compileFile bytes = (notes, .ok made)) (hprint : print = true) :
    Compiling host print tree input output
      ({ input, notes := notes ++ Payload.notes made.events, outcome := .printed made }, tree)
  | unwritable {bytes : List UInt8} {notes : List Note} {made : Macro} {e : FileError}
    (hread : tree.read input = .ok bytes)
    (hcompile : Script.compileFile bytes = (notes, .ok made)) (hprint : print = false)
    (hwrite : tree.write output (Profile.bytes made) = .error e) :
    Compiling host print tree input output
      ({ input
         notes := notes ++ Payload.notes made.events
         outcome := .failed (.access output e) }, tree)
  | written {bytes : List UInt8} {notes : List Note} {made : Macro} {next : FileTree}
    (hread : tree.read input = .ok bytes)
    (hcompile : Script.compileFile bytes = (notes, .ok made)) (hprint : print = false)
    (hwrite : tree.write output (Profile.bytes made) = .ok next) :
    Compiling host print tree input output
      ({ input
         notes := notes ++ Payload.notes made.events
         outcome := report host input output made }, next)

theorem compileScript_compiling (host : Host) (print : Bool) (tree : FileTree) (input output : Path) :
    Compiling host print tree input output
      ((compileScript FileTree.files host print input output).run tree) := by
  cases hread : tree.read input with
  | error e =>
    have hrun : (compileScript FileTree.files host print input output).run tree =
        pure ({ input, notes := [], outcome := .failed (.access input e) }, tree) := by
      simp [compileScript, run_read, hread]
    exact hrun ▸ .unreadable hread
  | ok bytes =>
    rcases hcompile : Script.compileFile bytes with ⟨notes, fault | made⟩
    · have hrun := @compileScript_notText host print _ _ output _ _ _ hread hcompile
      exact hrun ▸ .notText hread hcompile
    cases print with
    | true =>
      have hrun : (compileScript FileTree.files host true input output).run tree =
          pure ({ input, notes := notes ++ Payload.notes made.events, outcome := .printed made },
            tree) := by
        simp [compileScript, run_read, hread, hcompile]
      exact hrun ▸ .printed hread hcompile rfl
    | false =>
      cases hwrite : tree.write output (Profile.bytes made) with
      | error e =>
        have hrun : (compileScript FileTree.files host false input output).run tree =
            pure ({ input
                    notes := notes ++ Payload.notes made.events
                    outcome := .failed (.access output e) }, tree) := by
          simp [compileScript, run_read, hread, hcompile, run_write_error hwrite]
        exact hrun ▸ .unwritable hread hcompile rfl hwrite
      | ok next =>
        have hrun := @compileScript_written host _ _ _ _ _ _ _ hread hcompile hwrite
        exact hrun ▸ .written hread hcompile rfl hwrite

end KeyMacro.Command
