import Mathlib
import KeyMacro.Command.Run
import KeyMacro.Proofs.Command.Compile
import KeyMacro.Proofs.File.Path
import KeyMacro.Proofs.File.Tree
import KeyMacro.Proofs.Listing
import KeyMacro.Proofs.Profile.Reader

/-!
# From scripts to listings

A script is compiled to a profile beside it, and that profile can be listed. What
the second run prints is the listing of the events of the script, as if nothing had
been written in between (`listing_of_compiled`): the path of the profile, which is
read from its text again, leads to what was written, and the profile gives back its
payload.

There is one exception. The name of a macro is whatever its script says, and may
have characters that no XML document may hold. Such a script is compiled without
a complaint, but what is written is no XML document, and not listed.
-/

namespace KeyMacro.Command

/-- A run of the program in a file tree: what it leaves behind and the tree
    afterwards. -/
def runIn (host : Host) (tree : FileTree) (args : List (List Char)) : Run × FileTree :=
  (run FileTree.files host args).run tree

variable {host : Host} {tree next : FileTree} {args : List (List Char)} {loudness : Loudness}
  {file : List Char} {output : Path} {bytes : List UInt8} {notes : List Note} {made : Macro}

/-! ## Compiling one script -/

/-- A run on one script is about what compiling the script comes to. -/
theorem runIn_compile {print : Bool} {result : Result}
    (hargs : Request.ofArgs args = .compile loudness print [file])
    (hout : (Path.ofText file).withSuffix? profileSuffix = some output)
    (hscript : isProfile (Path.ofText file) = false)
    (hrun : (compileScript FileTree.files host print (Path.ofText file) output).run tree =
      pure (result, next)) :
    runIn host tree args = (Run.ofResults loudness.level [result] none, next) := by
  rw [← differOnlyInCase_eq_isProfile hout] at hscript
  simp only [runIn, run, hargs, carryOut, List.map_cons, List.map_nil, compileAll, hout,
    compileInput, hscript, Bool.false_eq_true, ↓reduceIte, StateT.run_bind, hrun, pure_bind]
  rfl

/-- A run on one script that writes a profile and ends well has compiled the script
    and written the profile. -/
theorem written_of_status_zero (hargs : Request.ofArgs args = .compile loudness false [file])
    (hout : (Path.ofText file).withSuffix? profileSuffix = some output)
    (hscript : isProfile (Path.ofText file) = false)
    (hstatus : (runIn host tree args).1.ending = .status 0) :
    ∃ bytes notes made, tree.read (Path.ofText file) = .ok bytes ∧
      Script.compileFile bytes = (notes, .ok made) ∧
      tree.write output (Profile.bytes made) = .ok (runIn host tree args).2 := by
  obtain ⟨⟨result, next⟩, hrun⟩ : ∃ r, (compileScript FileTree.files host false (Path.ofText file)
      output).run tree = pure r := ⟨_, rfl⟩
  have hcompiling := compileScript_compiling host false tree (Path.ofText file) output
  rw [hrun] at hcompiling
  rw [runIn_compile hargs hout hscript hrun] at hstatus ⊢
  -- Whatever else it comes to, the status is 1 or the profile is printed.
  cases hcompiling with
  | unreadable | notText | unwritable => cases hstatus
  | printed _ _ hprint => cases hprint
  | written hread hcompile _ hwrite => exact ⟨_, _, _, hread, hcompile, hwrite⟩

theorem isFailure_report (input output : Path) (notes : List Note) (made : Macro) :
    Result.isFailure { input, notes, outcome := report host input output made } =
      (host.refusal? (compiledLine input output made)).isSome := by
  rw [report]
  cases host.refusal? (compiledLine input output made) <;> rfl

/-- A script that can be read, compiled and written is, and the run ends well if this can be
    reported. -/
theorem runIn_compile_written (hargs : Request.ofArgs args = .compile loudness false [file])
    (hout : (Path.ofText file).withSuffix? profileSuffix = some output)
    (hscript : isProfile (Path.ofText file) = false)
    (hread : tree.read (Path.ofText file) = .ok bytes)
    (hcompile : Script.compileFile bytes = (notes, .ok made))
    (hwrite : tree.write output (Profile.bytes made) = .ok next) :
    (runIn host tree args).1.ending =
        .status (if (host.refusal? (compiledLine (Path.ofText file) output made)).isSome then 1
          else 0) ∧
      (runIn host tree args).2 = next := by
  rw [runIn_compile hargs hout hscript (compileScript_written hread hcompile hwrite)]
  simp [Run.ofResults, isFailure_report]

/-- Whatever a script file is compiled to has ordinary events. -/
theorem isOrdinary_compileFile (h : Script.compileFile bytes = (notes, .ok made)) :
    ∀ e ∈ made.events, e.IsOrdinary := by
  have hmade := congrArg Prod.snd h
  dsimp only [Script.compileFile] at hmade
  split at hmade
  · obtain rfl := Except.ok.inj hmade
    exact Listing.isOrdinary_compile _
  · cases hmade

/-! ## The path of a profile -/

section Output

variable (hout : (Path.ofText file).withSuffix? profileSuffix = some output)
include hout

theorem isProfile_output : isProfile output = true :=
  isProfile_withSuffix? (Path.isPlain_ofText file) hout

theorem ofText_output : Path.ofText output.text = output :=
  Path.ofText_withSuffix? (Path.isPlain_ofText file) (by decide) (by decide) hout

/-- A profile that is written is read at the text of its path. -/
theorem read_output (hwrite : tree.write output bytes = .ok next) :
    next.read (Path.ofText output.text) = .ok bytes := by
  have hplain := Path.isPlain_withSuffix? (Path.isPlain_ofText file) (by decide) (by decide) hout
  -- The path of a profile has a last name, so it does not end with a slash.
  have hlast : output.names.getLast? ≠ some [] := fun h =>
    (hplain.names [] (List.mem_of_getLast? h)).1 rfl
  rw [ofText_output hout]
  exact FileTree.read_of_write hlast hwrite

end Output

/-! ## Listing a profile -/

theorem runIn_disassemble (hargs : Request.ofArgs args = .disassemble loudness file)
    (hread : tree.read (Path.ofText file) = .ok bytes) :
    runIn host tree args =
      (Run.ofListing loudness.level (match payloadIn host (Path.ofText file) bytes with
        | .ok payload => (Listing.disassemble payload).mapError .notPayload
        | .error failure => .error failure), tree) := by
  simp only [runIn, run, hargs, carryOut, disassemble, loadPayload, StateT.run_bind,
    FileTree.run_read, hread, pure_bind, StateT.run_pure]
  cases payloadIn host (Path.ofText file) bytes <;> rfl

theorem message_notXml (path : Path) (reason : String) :
    s!"Error: {(Failure.notProfile path (.notXml reason)).message}\n" =
      s!"Error: {String.ofList path.text} is not valid XML: " ++ s!"{reason}\n" := by
  simp only [Failure.message, Profile.ReadError.message, toString, String.append_assoc]

/-- What is left behind by listing the profile of a macro. -/
def listed (host : Host) (loudness : Loudness) (output : Path) (made : Macro) : Run :=
  if made.name.all Xml.isChar then
    { ending := .status 0
      out := String.join ((Listing.ofOpcodes (Payload.opcodes made.events)).map fun line =>
        String.ofList line ++ "\n")
      level := loudness.level }
  else
    { ending := .status 1
      err := s!"Error: {String.ofList output.text} is not valid XML: " ++
        s!"{host.wording (Profile.bytes made)}\n"
      level := loudness.level }

theorem runIn_disassemble_written
    (hout : (Path.ofText file).withSuffix? profileSuffix = some output)
    (hwrite : tree.write output (Profile.bytes made) = .ok next)
    (hevents : ∀ e ∈ made.events, e.IsOrdinary)
    (hargs : Request.ofArgs args = .disassemble loudness output.text) :
    (runIn host next args).1 = listed host loudness output made := by
  rw [runIn_disassemble hargs (read_output hout hwrite), ofText_output hout, payloadIn,
    if_pos (isProfile_output hout), Profile.payload?_bytes, listed]
  cases made.name.all Xml.isChar with
  | true =>
    show Run.ofListing loudness.level ((Listing.disassemble _).mapError _) = _
    rw [Listing.disassemble_encode hevents]
    rfl
  | false =>
    show ({ ending := .status 1
            err := s!"Error: {(Failure.notProfile output (.notXml _)).message}\n"
            level := loudness.level } : Run) = _
    rw [message_notXml]
    rfl

/-- Once a script is compiled, its profile is listed as the events of the script
    are, provided that a document may hold all characters of the name of the macro.
    If it may not, the profile that was written is no XML document. -/
theorem listing_of_compiled {reader : Host} {args' : List (List Char)} {loudness' : Loudness}
    (hargs : Request.ofArgs args = .compile loudness false [file])
    (hout : (Path.ofText file).withSuffix? profileSuffix = some output)
    (hscript : isProfile (Path.ofText file) = false)
    (hstatus : (runIn host tree args).1.ending = .status 0)
    (hargs' : Request.ofArgs args' = .disassemble loudness' output.text) :
    ∃ bytes notes made lines, tree.read (Path.ofText file) = .ok bytes ∧
      Script.compileFile bytes = (notes, .ok made) ∧
      Listing.disassemble (Payload.encode made.events) = .ok lines ∧
      (runIn reader (runIn host tree args).2 args').1 =
        if made.name.all Xml.isChar then
          { ending := .status 0
            out := String.join (lines.map fun line => String.ofList line ++ "\n")
            level := loudness'.level }
        else
          { ending := .status 1
            err := s!"Error: {String.ofList output.text} is not valid XML: " ++
              s!"{reader.wording (Profile.bytes made)}\n"
            level := loudness'.level } := by
  obtain ⟨bytes, notes, made, hread, hcompile, hwrite⟩ :=
    written_of_status_zero hargs hout hscript hstatus
  have hevents := isOrdinary_compileFile hcompile
  exact ⟨bytes, notes, made, _, hread, hcompile, Listing.disassemble_encode hevents,
    runIn_disassemble_written hout hwrite hevents hargs'⟩

/-! ## Two scripts -/

/-- A tree with a script in the working directory, and nothing else. -/
def scriptTree (script : String) : FileTree where
  home := []
  nodes := [(["a.txt".toList], .file (Utf8.encode script.toList))]

/-- The arguments that have the script of such a tree compiled. -/
def compileArgs : List (List Char) := ["compile".toList, "a.txt".toList]

/-- The arguments that have its profile listed. -/
def disassembleArgs : List (List Char) := ["disassemble".toList, "a.xml".toList]

theorem ofArgs_compileArgs :
    Request.ofArgs compileArgs = .compile {} false ["a.txt".toList] := by decide

theorem ofArgs_disassembleArgs :
    Request.ofArgs disassembleArgs = .disassemble {} (Path.text ⟨0, ["a.xml".toList]⟩) := by
  decide

theorem withSuffix?_script :
    (Path.ofText "a.txt".toList).withSuffix? profileSuffix = some ⟨0, ["a.xml".toList]⟩ := by
  decide

theorem read_scriptTree (script : String) :
    (scriptTree script).read (Path.ofText "a.txt".toList) = .ok (Utf8.encode script.toList) := rfl

theorem write_scriptTree (script : String) (bytes : List UInt8) :
    (scriptTree script).write ⟨0, ["a.xml".toList]⟩ bytes =
      .ok ((scriptTree script).put ["a.xml".toList] (.file bytes)) := rfl

/-- The script of a tap is compiled and listed. -/
theorem listing_of_tap :
    (runIn {} (scriptTree "press enter 30") compileArgs).1.ending = .status 0 ∧
      (runIn {} (runIn {} (scriptTree "press enter 30") compileArgs).2 disassembleArgs).1 =
        { ending := .status 0
          out := "0x0000: KEYDOWN Enter\n0x0003: DELAY 30\n0x0006: KEYUP Enter\n" ++
            "0x0009: PADDING 1357\n" } := by
  have hcompile : Script.compileFile (Utf8.encode "press enter 30".toList) =
      ([], .ok { events := [.keyTap 13 30] }) := by cbv
  have hstatus := (@runIn_compile_written {} _ _ _ _ _ _ _ _ _ ofArgs_compileArgs
    withSuffix?_script (by decide) (read_scriptTree _) hcompile (write_scriptTree _ _)).1
  refine ⟨hstatus, ?_⟩
  obtain ⟨bytes, notes, made, lines, hread, hcompile', hlines, hrun⟩ :=
    listing_of_compiled ofArgs_compileArgs withSuffix?_script (by decide) hstatus
      ofArgs_disassembleArgs
  obtain rfl := Except.ok.inj ((read_scriptTree _).symm.trans hread)
  obtain ⟨-, hmade⟩ := Prod.mk.inj (hcompile.symm.trans hcompile')
  obtain rfl := Except.ok.inj hmade
  rw [Listing.disassemble_encode (isOrdinary_compileFile hcompile)] at hlines
  obtain rfl := Except.ok.inj hlines
  rw [hrun]
  decide

/-- A script whose name has a control character is compiled, but not listed. -/
theorem unlisted_of_control :
    (runIn {} (scriptTree "name a\u0001b\na") compileArgs).1.ending = .status 0 ∧
      (runIn {} (runIn {} (scriptTree "name a\u0001b\na") compileArgs).2 disassembleArgs).1 =
        { ending := .status 1, err := "Error: a.xml is not valid XML: not well-formed\n" } := by
  have hcompile : Script.compileFile (Utf8.encode "name a\u0001b\na".toList) =
      ([], .ok { name := "a\u0001b".toList, events := [.keyTap 65 15] }) := by
    have hread : Text.read (Utf8.encode "name a\u0001b\na".toList) =
        { lines := ["name a\u0001b".toList, "a".toList], fault := none } := by cbv
    rw [Script.compileFile, hread]
    cbv
  have hwrite := write_scriptTree "name a\u0001b\na"
    (Profile.bytes { name := "a\u0001b".toList, events := [.keyTap 65 15] })
  obtain ⟨hstatus, hnext⟩ := @runIn_compile_written {} _ _ _ _ _ _ _ _ _ ofArgs_compileArgs
    withSuffix?_script (by decide) (read_scriptTree _) hcompile hwrite
  refine ⟨hstatus, ?_⟩
  rw [hnext, runIn_disassemble_written withSuffix?_script hwrite
    (isOrdinary_compileFile hcompile) ofArgs_disassembleArgs]
  decide

end KeyMacro.Command
