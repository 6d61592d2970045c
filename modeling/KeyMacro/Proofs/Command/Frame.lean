import KeyMacro.Proofs.Command.Batch
import KeyMacro.Proofs.Command.Request
import KeyMacro.Proofs.Script.File

/-!
# What a batch leaves alone

A run that prints profiles leaves the tree as it is, and one that writes them changes
nothing but these. A script is read and compiled before anything is written for it. So an
input that is skipped, or fails in this, leaves the tree as it finds it, with the profile
there may be from earlier on. Only what comes behind the profile is too late: where the
standard output does not take the line that reports it, it is written but the input counts
as failed (`Reported`). And another input may still have its profile written in the same
place (`overwritten_with_error`).

No file is ever overwritten that does not have the name of a profile, so that a
script is the same before and after each step of the run that compiles it.

All this (`Framed`) holds of the inputs that a run goes through, even if it is broken
off by a path without a name (`framed_of_compile`).
-/

namespace KeyMacro.Command

variable {host : Host} {print : Bool} {tree middle next : FileTree} {loudness : Loudness}
  {args files : List (List Char)} {input output path : Path} {inputs : List Path}
  {result : Result} {results fore aft : List Result} {place : Location} {bytes : List UInt8}

/-! ## Scripts that fail -/

/-- Whether a script fails in a tree: there is no file, or the file is no text, or
    its profile is to be written where a directory is or where nothing can be. -/
def Fails (print : Bool) (tree : FileTree) (input output : Path) : Prop :=
  (∀ bytes, tree.read input ≠ .ok bytes) ∨
    (∃ bytes, tree.read input = .ok bytes ∧ ∀ cs, bytes ≠ Utf8.encode cs) ∨
    print = false ∧ ¬ tree.Admits output

/-- A script fails without a profile where it does, and in no other case. -/
theorem Compiling.fails_iff (h : Compiling host print tree input output (result, next)) :
    result.isFailure = true ∧ result.profile? = none ↔ Fails print tree input output := by
  cases h with
  | unreadable hread => simp [Result.isFailure, Result.profile?, Fails, hread]
  | notText hread hcompile =>
    have hbytes := Script.ne_encode_of_compileFile hcompile
    simp [Result.isFailure, Result.profile?, Fails, hread, hbytes]
  | printed hread hcompile hprint =>
    obtain ⟨cs, rfl⟩ := Script.exists_of_compileFile hcompile
    simp [Result.isFailure, Fails, hread, hprint]
  | unwritable hread hcompile hprint hwrite =>
    have hadmits : ¬ tree.Admits output := by
      rw [FileTree.admits_iff, hwrite]
      simp
    simp [Result.isFailure, Result.profile?, Fails, hprint, hadmits]
  | written hread hcompile hprint hwrite =>
    obtain ⟨cs, rfl⟩ := Script.exists_of_compileFile hcompile
    have hadmits : tree.Admits output := (FileTree.admits_iff _).2 ⟨_, hwrite⟩
    simp [profile?_report, Fails, hread, hadmits]

/-- An input fails without a profile if and only if it is a script that does. -/
theorem fails_iff (hout : input.withSuffix? profileSuffix = some output)
    (h : (compileInput FileTree.files host print input output).run tree = pure (result, next)) :
    result.isFailure = true ∧ result.profile? = none ↔
      isProfile input = false ∧ Fails print tree input output := by
  rcases compileInput_cases_isProfile hout h with ⟨hprofile, rfl, -⟩ | ⟨hscript, hcompiling⟩
  · simp [Result.isFailure, hprofile]
  · simp [hcompiling.fails_iff, hscript]

theorem SameScripts.fails_iff (h : SameScripts tree next) (hscript : isProfile input = false)
    (hout : input.withSuffix? profileSuffix = some output) :
    Fails print next input output ↔ Fails print tree input output := by
  have hadmits : next.Admits output ↔ tree.Admits output := by
    have hlast := getLast?_of_withSuffix? hout
    simp only [FileTree.Admits, FileTree.locateOutput_eq hlast, h.locate_eq_ok_iff, ne_eq,
      h.directory]
  simp only [Fails, ne_eq, h.read_eq_ok_iff hscript, hadmits]

/-! ## Batches -/

/-- A batch may be broken off before any of its inputs. -/
theorem Batch.exists_of_result (h : Batch host print tree inputs (fore ++ result :: aft) next) :
    ∃ output middle later, Batch host print tree (fore.map Result.input) fore middle ∧
      result.input.withSuffix? profileSuffix = some output ∧
      (compileInput FileTree.files host print result.input output).run middle =
        pure (result, later) ∧
      Batch host print later (aft.map Result.input) aft next := by
  induction fore generalizing tree inputs with
  | nil =>
    cases h with
    | cons hout hstep hrest =>
      rw [input_of_compileInput hstep, hrest.map_input]
      exact ⟨_, tree, _, .nil tree, hout, hstep, hrest⟩
  | cons first fore ih =>
    cases h with
    | cons hout hstep hrest =>
      obtain ⟨output, middle, later, hfore, hrest⟩ := ih hrest
      rw [← input_of_compileInput hstep] at hout hstep
      exact ⟨output, middle, later, .cons hout hstep hfore, hrest⟩

/-- A batch that prints profiles leaves the tree as it is. -/
theorem Batch.eq_of_print (h : Batch host true tree inputs results next) : next = tree := by
  induction h with
  | nil => rfl
  | cons _ hstep _ ih => exact ih.trans (kept_of_print hstep).2

/-- Profiles are written at the paths that inputs have for them, and then reported. -/
theorem Batch.output_of_written (h : Batch host print tree inputs results next) {made : Macro}
    (hmem : result ∈ results) (hwritten : result.profile? = some (made, output)) :
    result.input ∈ inputs ∧ result.input.withSuffix? profileSuffix = some output ∧
      result.outcome = report host result.input output made := by
  obtain ⟨fore, aft, rfl⟩ := List.append_of_mem hmem
  obtain ⟨expected, _, _, -, hout, hstep, -⟩ := h.exists_of_result
  obtain ⟨-, rfl, hreport⟩ := eq_of_written hstep hwritten
  exact ⟨h.map_input ▸ List.mem_map_of_mem hmem, hout, hreport⟩

/-- Whatever a batch changes is a profile that it writes. -/
theorem Batch.exists_of_changed (hplain : ∀ input ∈ inputs, input.IsPlain)
    (h : Batch host false tree inputs results next)
    (hplace : next.node? place ≠ tree.node? place) :
    ∃ result ∈ results, ∃ made output, result.profile? = some (made, output) ∧
      tree.locate output = .ok place := by
  by_contra hnone
  refine hplace (h.node?_eq hplain fun input hm delivery hd hdelivered => hnone ?_)
  obtain ⟨before, after, rfl⟩ := List.append_of_mem hm
  obtain ⟨result, hmem, hwritten, -⟩ := h.exists_of_delivery hplain hd
  exact ⟨result, hmem, delivery.made, delivery.output, hwritten,
    hdelivered ▸ locate_of_delivery hd⟩

/-- No profile is written where a path leads that does not have the name of one. -/
theorem Batch.locate_ne_of_written (hplain : ∀ input ∈ inputs, input.IsPlain)
    (h : Batch host print tree inputs results next) {made : Macro} (hmem : result ∈ results)
    (hwritten : result.profile? = some (made, output)) (hscript : isProfile path = false)
    (hlocate : tree.locate path = .ok place) (hfile : tree.node? place = some (.file bytes)) :
    tree.locate output ≠ .ok place := by
  intro hoverwrite
  obtain ⟨hinput, hout, -⟩ := h.output_of_written hmem hwritten
  have hplace : tree.node? place ≠ some .directory := by simp [hfile]
  have hlast : path.names.getLast? = output.names.getLast? :=
    (FileTree.getLast?_of_locate hlocate hplace).symm.trans
      (FileTree.getLast?_of_locate hoverwrite hplace)
  rw [isProfile_congr hlast, isProfile_withSuffix? (hplain _ hinput) hout] at hscript
  cases hscript

/-! ## Frames -/

/-- What is said of an input whose profile has been written: that it has been compiled, or,
    where the standard output does not take this line, that there is an error. -/
inductive Reported (host : Host) (line : String) (result : Result) : Prop
  | compiled : host.refusal? line = none → result.out = line → result.complaint = "" →
      Reported host line result
  | error (reason : String) : host.refusal? line = some reason → result.out = "" →
      result.complaint = s!"error in {String.ofList result.input.text}: {reason}\n" →
      Reported host line result

theorem reported_of_report {made : Macro}
    (h : result.outcome = report host result.input output made) :
    Reported host (compiledLine result.input output made) result := by
  rw [report] at h
  cases hline : host.refusal? (compiledLine result.input output made) with
  | none =>
    rw [hline] at h
    refine .compiled hline ?_ ?_
    · rw [Result.out, h]
    · rw [Result.complaint, h]
  | some reason =>
    rw [hline] at h
    refine .error reason hline ?_ ?_
    · rw [Result.out, h]
    · rw [Result.complaint, h]

/-- What going through inputs leaves alone, and what is said of it. -/
structure Framed (host : Host) (print : Bool) (tree : FileTree) (results : List Result)
    (next : FileTree) : Prop where
  /-- Where profiles are printed, nothing is written. -/
  printed : print = true → next = tree
  /-- Whatever is changed is the profile of an input that has had it written. -/
  changed (place : Location) : next.node? place ≠ tree.node? place →
    ∃ result ∈ results, ∃ made output, result.profile? = some (made, output) ∧
      result.input.withSuffix? profileSuffix = some output ∧ tree.locate output = .ok place
  /-- An input that has had its profile written is reported, as compiled if there is a way
      to. -/
  reported (result : Result) (made : Macro) (output : Path) : result ∈ results →
    result.profile? = some (made, output) →
    Reported host (compiledLine result.input output made) result
  /-- Any other input leaves the tree as it finds it. -/
  spared (fore : List Result) (result : Result) (aft : List Result) :
    results = fore ++ result :: aft → result.profile? = none →
    ∃ output middle, Batch host print tree (fore.map Result.input) fore middle ∧
      result.input.withSuffix? profileSuffix = some output ∧
      (compileInput FileTree.files host print result.input output).run middle =
        pure (result, middle) ∧
      Batch host print middle (aft.map Result.input) aft next
  /-- The inputs that fail among them are the scripts that cannot be read, are no texts or
      have profiles that cannot be written. -/
  fails (result : Result) (output : Path) : result ∈ results →
    result.input.withSuffix? profileSuffix = some output →
    (result.isFailure = true ∧ result.profile? = none ↔
      isProfile result.input = false ∧ Fails print tree result.input output)
  /-- A file that does not have the name of a profile is never overwritten. -/
  scripts (path : Path) (place : Location) (bytes : List UInt8) : isProfile path = false →
    tree.locate path = .ok place → tree.node? place = some (.file bytes) →
    (∀ result ∈ results, ∀ made output, result.profile? = some (made, output) →
      tree.locate output ≠ .ok place) ∧
    next.node? place = some (.file bytes)

theorem Batch.framed (hplain : ∀ input ∈ inputs, input.IsPlain)
    (h : Batch host print tree inputs results next) :
    Framed host print tree results next where
  printed hprint := by
    subst hprint
    exact h.eq_of_print
  changed place hplace := by
    cases print with
    | true => exact absurd (h.eq_of_print ▸ rfl) hplace
    | false =>
      obtain ⟨result, hmem, made, output, hwritten, hlocate⟩ := h.exists_of_changed hplain hplace
      have hout := (h.output_of_written hmem hwritten).2.1
      exact ⟨result, hmem, made, output, hwritten, hout, hlocate⟩
  reported result made output hmem hwritten :=
    reported_of_report (h.output_of_written hmem hwritten).2.2
  spared fore result aft hresults hspared := by
    subst hresults
    obtain ⟨output, middle, later, hfore, hout, hstep, haft⟩ := h.exists_of_result
    obtain rfl := eq_of_not_written hstep hspared
    exact ⟨output, later, hfore, hout, hstep, haft⟩
  fails result output hmem hout := by
    obtain ⟨fore, aft, rfl⟩ := List.append_of_mem hmem
    obtain ⟨expected, middle, later, hfore, hout', hstep, -⟩ := h.exists_of_result
    obtain rfl := Option.some.inj (hout.symm.trans hout')
    -- What comes before in the batch leaves the script and its output as they are.
    have hinputs : ∀ input ∈ fore.map Result.input, input.IsPlain := by
      intro input hm
      refine hplain input ?_
      rw [← h.map_input, List.map_append]
      exact List.mem_append_left _ hm
    rw [fails_iff hout hstep]
    exact and_congr_right fun hscript => (hfore.sameScripts hinputs).fails_iff hscript hout
  scripts path place bytes hscript hlocate hfile := by
    refine ⟨fun result hmem made output hwritten =>
      h.locate_ne_of_written hplain hmem hwritten hscript hlocate hfile, ?_⟩
    rw [(h.sameScripts hplain).node?_eq_of_locate hscript hlocate hfile, hfile]

/-- A run changes nothing but the profiles that it writes, and no script, also if it
    is broken off. -/
theorem framed_of_compile (hargs : Request.ofArgs args = .compile loudness print files) :
    ∃ results,
      Batch host print tree ((files.map Path.ofText).takeWhile Path.hasName) results
        (runIn host tree args).2 ∧
      (runIn host tree args).1.out = String.join (results.map Result.out) ∧
      (runIn host tree args).1.err = String.join (results.map (Result.err loudness.level)) ∧
      Framed host print tree results (runIn host tree args).2 := by
  obtain ⟨results, hbatch, hrun⟩ := runIn_batch hargs
  refine ⟨results, hbatch, ?_, ?_, hbatch.framed isPlain_of_mem_takeWhile⟩
  · rw [hrun]
    rfl
  · rw [hrun]
    rfl

/-- A tree with two scripts of the same name but for the suffix, and a file that is no
    text, with a profile beside it from earlier on. -/
def mixedTree : FileTree where
  home := []
  nodes := [(["a.txt".toList], .file (Utf8.encode ['a'])),
    (["a.mac".toList], .file (Utf8.encode ['b'])), (["b.txt".toList], .file [0xff]),
    (["b.xml".toList], .file (Utf8.encode ['b']))]

/-- The arguments that have a script and the file that is no text compiled. -/
def mixedArgs : List (List Char) := ["compile".toList, "a.txt".toList, "b.txt".toList]

theorem ofArgs_mixedArgs : Request.ofArgs mixedArgs =
    .compile {} false ["a.txt".toList, "b.txt".toList] :=
  ofArgs_compile (by decide) (by decide)

theorem fails_mixedTree : Fails false mixedTree ⟨0, ["b.txt".toList]⟩ ⟨0, ["b.xml".toList]⟩ := by
  refine .inr (.inl ⟨[0xff], rfl, fun cs h => ?_⟩)
  have hnone : (Text.read [0xff]).fault = none := Text.fault_read_eq_none_iff.2 ⟨cs, h⟩
  have hsome : (Text.read [0xff]).fault.isSome = true := by cbv
  rw [hnone] at hsome
  cases hsome

/-- The profile from earlier on is kept. -/
theorem framed_of_mixed :
    Request.ofArgs mixedArgs = .compile {} false ["a.txt".toList, "b.txt".toList] ∧
      ∃ results,
        Batch {} false mixedTree [⟨0, ["a.txt".toList]⟩, ⟨0, ["b.txt".toList]⟩] results
          (runIn {} mixedTree mixedArgs).2 ∧
        (runIn {} mixedTree mixedArgs).1.out = String.join (results.map Result.out) ∧
        Framed {} false mixedTree results (runIn {} mixedTree mixedArgs).2 ∧
        (runIn {} mixedTree mixedArgs).2.node? ["b.xml".toList] =
          some (.file (Utf8.encode ['b'])) := by
  obtain ⟨results, hbatch, hout, -, hframed⟩ :=
    @framed_of_compile {} _ mixedTree _ _ _ ofArgs_mixedArgs
  have hinputs : (["a.txt".toList, "b.txt".toList].map Path.ofText).takeWhile Path.hasName =
      [⟨0, ["a.txt".toList]⟩, ⟨0, ["b.txt".toList]⟩] := by decide
  rw [hinputs] at hbatch
  refine ⟨ofArgs_mixedArgs, results, hbatch, hout, hframed, ?_⟩
  have hold : mixedTree.node? ["b.xml".toList] = some (.file (Utf8.encode ['b'])) := rfl
  rw [← hold]
  by_contra hchanged
  obtain ⟨result, hmem, made, output, hwritten, hsuffix, hlocate⟩ := hframed.changed _ hchanged
  have hinput : result.input ∈ [⟨0, ["a.txt".toList]⟩, ⟨0, ["b.txt".toList]⟩] :=
    hbatch.map_input ▸ List.mem_map_of_mem hmem
  rcases List.mem_pair.1 hinput with ha | hb
  · -- The profile of the script is another file.
    rw [ha] at hsuffix
    obtain rfl := Option.some.inj hsuffix
    cases hlocate
  · -- The other input fails.
    have hfails := hframed.fails result output hmem hsuffix
    rw [hb] at hfails hsuffix
    obtain rfl := Option.some.inj hsuffix
    rw [(hfails.2 ⟨by decide, fails_mixedTree⟩).2] at hwritten
    cases hwritten

/-! ## Profiles overwritten though there is an error -/

/-- A character as it is named in a complaint about an encoding. -/
def escapedChar (c : Char) : String :=
  if c.toNat < 0x100 then "\\x" ++ String.ofList (Numeral.hexFixed 2 c.toNat)
  else if c.toNat < 0x10000 then "\\u" ++ String.ofList (Numeral.hexFixed 4 c.toNat)
  else "\\U" ++ String.ofList (Numeral.hexFixed 8 c.toNat)

/-- A host with a standard output in ASCII. It complains about the first characters of a line
    that it does not have. -/
def asciiHost : Host where
  refusal? line :=
    let front := line.toList.takeWhile fun c => c.toNat < 128
    match (line.toList.drop front.length).takeWhile fun c => 128 ≤ c.toNat with
    | [] => none
    | [c] =>
      some <| s!"'ascii' codec can't encode character '{escapedChar c}' in position " ++
        s!"{front.length}: ordinal not in range(128)"
    | _ :: cs =>
      some <| s!"'ascii' codec can't encode characters in position {front.length}-" ++
        s!"{front.length + cs.length}: ordinal not in range(128)"

/-- A tree with a script whose name is no ASCII text, a file that is no text, and a file at
    the place for the profiles of both. -/
def greekTree : FileTree where
  home := []
  nodes := [(["a.txt".toList], .file (Utf8.encode "name λ".toList)),
    (["a.mac".toList], .file [0xff]), (["a.xml".toList], .file (Utf8.encode ['b']))]

/-- The arguments that have both of them compiled. -/
def sharedArgs : List (List Char) := ["compile".toList, "a.txt".toList, "a.mac".toList]

theorem ofArgs_sharedArgs : Request.ofArgs sharedArgs =
    .compile {} false ["a.txt".toList, "a.mac".toList] :=
  ofArgs_compile (by decide) (by decide)

/-- The macro of the script. -/
def greekMacro : Macro := { name := ['λ'] }

theorem compileFile_greek :
    Script.compileFile (Utf8.encode "name λ".toList) = ([], .ok greekMacro) := by
  rw [Script.compileFile_encode]
  cbv

/-- The tree with the profile of the script in its place. -/
def greekOutcome : FileTree := greekTree.put ["a.xml".toList] (.file (Profile.bytes greekMacro))

theorem write_greekTree :
    greekTree.write ⟨0, ["a.xml".toList]⟩ (Profile.bytes greekMacro) = .ok greekOutcome := rfl

/-- What becomes of the script. -/
def greekResult (host : Host) : Result where
  input := ⟨0, ["a.txt".toList]⟩
  notes := []
  outcome := report host ⟨0, ["a.txt".toList]⟩ ⟨0, ["a.xml".toList]⟩ greekMacro

/-- What becomes of the other file. -/
def faultyResult : Result where
  input := ⟨0, ["a.mac".toList]⟩
  notes := []
  outcome := .failed (.notText ⟨0, 0xff, 0, .invalidStart⟩)

theorem runIn_greekTree (host : Host) : runIn host greekTree sharedArgs =
    (Run.ofResults .warning [greekResult host, faultyResult] none, greekOutcome) := by
  have hfirst : (compileInput FileTree.files host false (Path.ofText "a.txt".toList)
      ⟨0, ["a.xml".toList]⟩).run greekTree = pure (greekResult host, greekOutcome) := by
    rw [compileInput_compiled (by decide +kernel)]
    exact compileScript_written rfl compileFile_greek write_greekTree
  have hsecond : (compileInput FileTree.files host false (Path.ofText "a.mac".toList)
      ⟨0, ["a.xml".toList]⟩).run greekOutcome = pure (faultyResult, greekOutcome) := by
    have hcompile : Script.compileFile [0xff] = ([], .error ⟨0, 0xff, 0, .invalidStart⟩) := by
      cbv
    rw [compileInput_compiled (by decide +kernel)]
    exact compileScript_notText rfl hcompile
  have hother : (Path.ofText "a.mac".toList).withSuffix? profileSuffix =
      some ⟨0, ["a.xml".toList]⟩ := by decide
  simp only [runIn, run, ofArgs_sharedArgs, carryOut, List.map_cons, List.map_nil, compileAll,
    withSuffix?_script, hother, StateT.run_bind, hfirst, hsecond, pure_bind]
  rfl

/-- Where the line about the script is refused, there is an error, and its profile is written.
    Where it is not, its profile is written, and there is an error about the other file, which
    has the same place for its own. -/
theorem overwritten_with_error :
    (Path.ofText "a.txt".toList).withSuffix? profileSuffix = some ⟨0, ["a.xml".toList]⟩ ∧
      (Path.ofText "a.mac".toList).withSuffix? profileSuffix = some ⟨0, ["a.xml".toList]⟩ ∧
      greekTree.read ⟨0, ["a.xml".toList]⟩ ≠ .ok (Profile.bytes greekMacro) ∧
      (runIn asciiHost greekTree compileArgs).1 =
        { ending := .status 1
          err := "error in a.txt: 'ascii' codec can't encode character '\\u03bb' in position " ++
            "42: ordinal not in range(128)\n" } ∧
      (runIn asciiHost greekTree compileArgs).2.read ⟨0, ["a.xml".toList]⟩ =
        .ok (Profile.bytes greekMacro) ∧
      (runIn {} greekTree sharedArgs).1 =
        { ending := .status 1
          out := "Compiled a.txt to a.xml (0 events, macro 'λ')\n"
          err := "error in a.mac: 'utf-8' codec can't decode byte 0xff in position 0: " ++
            "invalid start byte\n" } ∧
      (runIn {} greekTree sharedArgs).2.read ⟨0, ["a.xml".toList]⟩ =
        .ok (Profile.bytes greekMacro) := by
  have hfirst : runIn asciiHost greekTree compileArgs =
      (Run.ofResults .warning [greekResult asciiHost] none, greekOutcome) :=
    runIn_compile ofArgs_compileArgs withSuffix?_script (by decide)
      (compileScript_written rfl compileFile_greek write_greekTree)
  have hread : greekOutcome.read ⟨0, ["a.xml".toList]⟩ = .ok (Profile.bytes greekMacro) := rfl
  rw [hfirst, runIn_greekTree]
  refine ⟨by decide, by decide, fun hsame => ?_, ?_, hread, ?_, hread⟩
  · have hhead : [0x62].head? = (Profile.bytes greekMacro).head? :=
      congrArg List.head? (Except.ok.inj hsame)
    have hbytes : (Profile.bytes greekMacro).head? = some 0x3c := rfl
    rw [hbytes] at hhead
    cases hhead
  · decide
  · decide

end KeyMacro.Command
