import KeyMacro.Proofs.Command.Sharing

/-!
# Printed profiles

Profiles are printed or written, and they are the same in both cases: what a run prints
are the profiles that its inputs would have if each of them was compiled on its own, one
after the other and each with a newline behind it (`printed_of_compile`).

A script is read and compiled before anything is printed for it. So it either has a
profile (`profileIn?`), which is printed as a whole, or cannot be read or is no text, and
then nothing of it is printed, wherever in the file it is that it fails. As printing
leaves all files as they are, each input is met in the tree at the beginning.
-/

namespace KeyMacro.Command

variable {host : Host} {tree next : FileTree} {args : List (List Char)} {loudness : Loudness}
  {files : List (List Char)} {file : List Char} {input output : Path} {inputs : List Path}
  {result : Result} {results : List Result} {content : List UInt8}

/-! ## Profiles of inputs -/

/-- Whether a path leads to a file that is a text. -/
def IsText (tree : FileTree) (path : Path) : Prop :=
  ∃ cs, tree.read path = .ok (Utf8.encode cs)

/-- The bytes of the profile of an input, unless it is a profile itself, or is not read or
    not compiled. -/
def profileIn? (tree : FileTree) (input : Path) : Option (List UInt8) :=
  if isProfile input then none
  else do
    let bytes ← (tree.read input).toOption
    let made ← (Script.compileFile bytes).2.toOption
    return Profile.bytes made

theorem profileIn?_eq_some_iff : profileIn? tree input = some content ↔
    isProfile input = false ∧ ∃ bytes notes made, tree.read input = .ok bytes ∧
      Script.compileFile bytes = (notes, .ok made) ∧ Profile.bytes made = content := by
  simp only [profileIn?, Option.ite_none_left_eq_some, Bool.not_eq_true, bind,
    Option.bind_eq_some_iff, toOption_eq_some_iff, pure, Option.some.injEq]
  constructor
  · rintro ⟨hscript, bytes, hread, made, hmade, hcontent⟩
    exact ⟨hscript, bytes, _, made, hread, Prod.ext rfl hmade, hcontent⟩
  · rintro ⟨hscript, bytes, notes, made, hread, hcompile, hcontent⟩
    exact ⟨hscript, bytes, hread, made, by rw [hcompile], hcontent⟩

/-- The inputs with a profile are the scripts that are texts. -/
theorem exists_profileIn?_iff : (∃ content, profileIn? tree input = some content) ↔
    isProfile input = false ∧ IsText tree input := by
  simp only [profileIn?_eq_some_iff]
  constructor
  · rintro ⟨_, hscript, bytes, notes, made, hread, hcompile, -⟩
    obtain ⟨cs, rfl⟩ := Script.exists_of_compileFile hcompile
    exact ⟨hscript, cs, hread⟩
  · rintro ⟨hscript, cs, hread⟩
    exact ⟨_, hscript, _, _, _, hread, Script.compileFile_encode cs, rfl⟩

theorem profileIn?_eq_none_iff :
    profileIn? tree input = none ↔ isProfile input = true ∨ ¬ IsText tree input := by
  rw [← Option.not_isSome_iff_eq_none, Option.isSome_iff_exists, exists_profileIn?_iff,
    not_and_or, Bool.not_eq_false]

/-- Where profiles are printed, a script fails if it is no text, and in no other case. -/
theorem fails_print_iff : Fails true tree input output ↔ ¬ IsText tree input := by
  simp only [Fails, IsText, Bool.true_eq_false, false_and, or_false, not_exists]
  constructor
  · rintro (hread | ⟨bytes, hread, hbytes⟩) cs hcs
    · exact hread _ hcs
    · exact hbytes cs (Except.ok.inj (hread.symm.trans hcs))
  · intro hnone
    by_cases hread : ∃ bytes, tree.read input = .ok bytes
    · obtain ⟨bytes, hread⟩ := hread
      exact .inr ⟨bytes, hread, fun cs hcs => hnone cs (hcs ▸ hread)⟩
    · exact .inl (not_exists.1 hread)

/-! ## Printed batches -/

/-- An input adds its profile and a newline to what is printed, or nothing, and leaves the
    tree as it is. -/
theorem out_of_compileInput (hout : input.withSuffix? profileSuffix = some output)
    (h : (compileInput FileTree.files host true input output).run tree = pure (result, next)) :
    Utf8.encode result.out.toList = (profileIn? tree input).toList.flatMap (· ++ [0x0A]) ∧
      next = tree := by
  rcases compileInput_cases_isProfile hout h with ⟨hprofile, rfl, rfl⟩ | ⟨hscript, hcompiling⟩
  · rw [profileIn?_eq_none_iff.2 (.inl hprofile)]
    exact ⟨rfl, rfl⟩
  · cases hcompiling with
    | unreadable hread =>
      have hnone : ¬ IsText tree input := by simp [IsText, hread]
      rw [profileIn?_eq_none_iff.2 (.inr hnone)]
      exact ⟨rfl, rfl⟩
    | notText hread hcompile =>
      have hnone : ¬ IsText tree input := by
        simp [IsText, hread, Script.ne_encode_of_compileFile hcompile]
      rw [profileIn?_eq_none_iff.2 (.inr hnone)]
      exact ⟨rfl, rfl⟩
    | @printed _ _ made hread hcompile _ =>
      have hsome := profileIn?_eq_some_iff.2 ⟨hscript, _, _, made, hread, hcompile, rfl⟩
      rw [hsome, Result.out, String.toList_append, String.toList_ofList, Utf8.encode_append]
      exact ⟨(List.append_nil _).symm, rfl⟩
    | unwritable _ _ hprint => cases hprint
    | written _ _ hprint => cases hprint

/-- A batch prints the profiles of its inputs, each with a newline behind it. -/
theorem Batch.encode_out (h : Batch host true tree inputs results next) :
    Utf8.encode (String.join (results.map Result.out)).toList =
      (inputs.filterMap (profileIn? tree)).flatMap (· ++ [0x0A]) := by
  induction h with
  | nil => rfl
  | @cons tree _ _ input _ inputs _ _ hsuffix hstep _ ih =>
    obtain ⟨hout, hmiddle⟩ := out_of_compileInput hsuffix hstep
    have hfirst : (input :: inputs).filterMap (profileIn? tree) =
        (profileIn? tree input).toList ++ inputs.filterMap (profileIn? tree) := by
      cases hinput : profileIn? tree input <;> simp [hinput]
    rw [List.map_cons, String.join_cons, String.toList_append, Utf8.encode_append, hout, ih,
      hmiddle, hfirst, List.flatMap_append]

theorem Batch.any_isFailure_print_iff (h : Batch host true tree inputs results next) :
    results.any Result.isFailure = true ↔
      ∃ input ∈ inputs, isProfile input = false ∧ ¬ IsText tree input := by
  induction h with
  | nil => simp
  | cons hout hstep _ ih =>
    obtain ⟨hnone, hmiddle⟩ := kept_of_print hstep
    have hfails := fails_iff hout hstep
    rw [and_iff_left hnone, fails_print_iff] at hfails
    rw [hmiddle] at ih
    rw [List.any_cons, Bool.or_eq_true, hfails, ih, List.exists_mem_cons_iff]

/-! ## Printed and written profiles -/

/-- A run on one script writes its profile if it has one and a file may be where it is to
    be written. It ends well if the standard output takes the line about it. -/
theorem runIn_compile_profile (hargs : Request.ofArgs args = .compile loudness false [file])
    (hout : (Path.ofText file).withSuffix? profileSuffix = some output)
    (hadmits : tree.Admits output) (hprofile : profileIn? tree (Path.ofText file) = some content) :
    ∃ made, Profile.bytes made = content ∧
      (runIn host tree args).1.ending =
        .status (if (host.refusal? (compiledLine (Path.ofText file) output made)).isSome then 1
          else 0) ∧
      tree.write output content = .ok (runIn host tree args).2 ∧
      (runIn host tree args).2.read output = .ok content := by
  obtain ⟨hscript, bytes, notes, made, hread, hcompile, rfl⟩ := profileIn?_eq_some_iff.1 hprofile
  obtain ⟨next, hwrite, hwritten⟩ := FileTree.write_of_admits hadmits (Profile.bytes made)
  obtain ⟨hstatus, rfl⟩ :=
    @runIn_compile_written host _ _ _ _ _ _ _ _ _ hargs hout hscript hread hcompile hwrite
  exact ⟨made, rfl, hstatus, hwrite, hwritten⟩

/-- What a run prints are the profiles that runs on each of its inputs write, in their
    order. Inputs that are profiles by their names are left out, and so are those that are
    no texts, of which the status tells whether there are any. -/
theorem printed_of_compile (hargs : Request.ofArgs args = .compile loudness true files)
    (hnamed : ∀ file ∈ files, (Path.ofText file).hasName = true) :
    Utf8.encode (runIn host tree args).1.out.toList =
        (files.filterMap fun file => profileIn? tree (Path.ofText file)).flatMap (· ++ [0x0A]) ∧
      (∀ file ∈ files, profileIn? tree (Path.ofText file) = none ↔
        isProfile (Path.ofText file) = true ∨ ¬ IsText tree (Path.ofText file)) ∧
      (∀ file ∈ files, ∀ content, profileIn? tree (Path.ofText file) = some content →
        ∀ args' loudness' output, Request.ofArgs args' = .compile loudness' false [file] →
          (Path.ofText file).withSuffix? profileSuffix = some output → tree.Admits output →
          ∃ made, Profile.bytes made = content ∧
            (runIn host tree args').1.ending =
              .status (if (host.refusal?
                (compiledLine (Path.ofText file) output made)).isSome then 1 else 0) ∧
            tree.write output content = .ok (runIn host tree args').2 ∧
            (runIn host tree args').2.read output = .ok content) ∧
      ((runIn host tree args).1.ending = .status 0 ∨ (runIn host tree args).1.ending = .status 1) ∧
      ((runIn host tree args).1.ending = .status 1 ↔ ∃ file ∈ files,
        isProfile (Path.ofText file) = false ∧ ¬ IsText tree (Path.ofText file)) ∧
      (runIn host tree args).2 = tree := by
  obtain ⟨results, hbatch, hrun⟩ := @runIn_batch_of_hasName host _ tree _ _ _ hargs hnamed
  have hstatus : (runIn host tree args).1.ending =
      .status (if results.any Result.isFailure then 1 else 0) := by rw [hrun, Run.ofResults]
  refine ⟨?_, fun file _ => profileIn?_eq_none_iff, ?_, ?_, ?_, hbatch.eq_of_print⟩
  · rw [hrun, Run.ofResults, hbatch.encode_out, List.filterMap_map]
    rfl
  · intro file _ content hprofile args' loudness' output hargs' hout hadmits
    exact runIn_compile_profile hargs' hout hadmits hprofile
  · rw [hstatus]
    cases results.any Result.isFailure with
    | true => exact .inr rfl
    | false => exact .inl rfl
  · have hone : (runIn host tree args).1.ending = .status 1 ↔ results.any Result.isFailure = true := by
      rw [hstatus]
      cases results.any Result.isFailure <;> decide
    rw [hone, hbatch.any_isFailure_print_iff]
    simp only [List.mem_map, exists_exists_and_eq_and]

/-- The arguments that have profiles printed, of a script and of a file that is no text. -/
def printArgs : List (List Char) :=
  ["compile".toList, "--stdout".toList, "a.txt".toList, "b.txt".toList]

theorem ofArgs_printArgs : Request.ofArgs printArgs =
    .compile {} true ["a.txt".toList, "b.txt".toList] :=
  ofArgs_stdout (by decide) (by decide)

theorem profileIn?_first : profileIn? mixedTree (Path.ofText "a.txt".toList) =
    some (Profile.bytes { events := [.keyTap 65 15] }) :=
  profileIn?_eq_some_iff.2 ⟨by decide, _, _, _, rfl, compileFile_first, rfl⟩

theorem not_isText_mixedTree : ¬ IsText mixedTree (Path.ofText "b.txt".toList) := by
  rintro ⟨cs, hread⟩
  have hbytes : [0xff] = Utf8.encode cs := Except.ok.inj hread
  have hdecode : (Utf8.decode [0xff]).toOption = none := by cbv
  rw [Text.decode_eq_ok_iff.2 hbytes] at hdecode
  cases hdecode

/-- Nothing is printed of the file that is no text, and the script has the profile that it
    is given by a run of its own. -/
theorem printed_of_mixed :
    Request.ofArgs printArgs = .compile {} true ["a.txt".toList, "b.txt".toList] ∧
      (∀ file ∈ ["a.txt".toList, "b.txt".toList], (Path.ofText file).hasName = true) ∧
      Utf8.encode (runIn {} mixedTree printArgs).1.out.toList =
        Profile.bytes { events := [.keyTap 65 15] } ++ [0x0A] ∧
      (runIn {} mixedTree printArgs).1.ending = .status 1 ∧
      (runIn {} mixedTree compileArgs).2.read ⟨0, ["a.xml".toList]⟩ =
        .ok (Profile.bytes { events := [.keyTap 65 15] }) := by
  have hnamed : ∀ file ∈ ["a.txt".toList, "b.txt".toList],
      (Path.ofText file).hasName = true := by decide
  obtain ⟨hout, hnone, halone, -, hstatus, -⟩ :=
    @printed_of_compile {} mixedTree _ _ _ ofArgs_printArgs hnamed
  have hadmits : mixedTree.Admits ⟨0, ["a.xml".toList]⟩ := ⟨["a.xml".toList], rfl, by decide⟩
  refine ⟨ofArgs_printArgs, hnamed, ?_, ?_, ?_⟩
  · have hsecond := (hnone "b.txt".toList (by decide)).2 (.inr not_isText_mixedTree)
    simpa only [List.filterMap_cons, List.filterMap_nil, profileIn?_first, hsecond,
      List.flatMap_singleton] using hout
  · exact hstatus.2 ⟨_, List.mem_pair.2 (.inr rfl), by decide, not_isText_mixedTree⟩
  · obtain ⟨-, -, -, -, hread⟩ := halone _ (List.mem_pair.2 (.inl rfl)) _ profileIn?_first _ _ _
      ofArgs_compileArgs withSuffix?_script hadmits
    exact hread

end KeyMacro.Command
