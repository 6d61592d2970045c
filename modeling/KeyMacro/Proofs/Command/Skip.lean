import KeyMacro.Proofs.Command.Sharing

/-!
# Inputs that are skipped

An input is *skipped* if its name ends with the suffix of profiles, in any letter case,
and something stands in front of this suffix (`isSkipped_iff_isProfile`, `isProfile_iff`).
Then no file is read or written for it, and a run is what it would be without the input,
apart from a message on the standard error (`saysMore_of_isSkipped`). Any other input is
compiled, and its profile has a place in the same directory, under another name
(`isHandledByName`).

A name that is nothing but the suffix of profiles has no suffix itself, and its input is
compiled like any script.
-/

namespace KeyMacro

/-! ## Names with a suffix -/

namespace Path

variable {path : Path} {name ending : List Char}

theorem eq_dot_of_toLower {c : Char} (h : c.toLower = '.') : c = '.' := by
  have hascii : ∀ n < 128, (Char.ofNat n).toLower = '.' → Char.ofNat n = '.' := by decide +kernel
  rcases Text.ascii_or c with ⟨n, hn, rfl⟩ | hc
  · exact hascii n hn h
  · rwa [Text.toLower_eq_self hc] at h

/-- A name has a suffix, in some letter case, if it ends with it and something stands in
    front. -/
theorem map_toLower_splitName_iff (hending : ending ≠ []) (hdot : '.' ∉ ending) :
    (splitName name).2.map Char.toLower = '.' :: ending ↔
      ∃ stem own, stem ≠ [] ∧ name = stem ++ own ∧ own.map Char.toLower = '.' :: ending := by
  constructor
  · intro h
    have hne : name ≠ [] := by
      rintro rfl
      cases h
    exact ⟨_, _, (splitName_fst hne).1, (splitName_fst_append_snd name).symm, h⟩
  · rintro ⟨stem, own, hstem, rfl, hown⟩
    obtain ⟨c, tail, rfl, hc, htail⟩ := List.map_eq_cons_iff.1 hown
    obtain rfl := eq_dot_of_toLower hc
    -- There is no other dot behind this one.
    have htail_ne : tail ≠ [] := by
      rintro rfl
      exact hending htail.symm
    have htail_dot : '.' ∉ tail := by
      intro hm
      have hlower := List.mem_map_of_mem (f := Char.toLower) hm
      rw [htail] at hlower
      exact hdot hlower
    rw [splitName_append hstem htail_ne htail_dot, hown]

theorem exists_withSuffix? (h : path.hasName = true) (ending : List Char) :
    ∃ output, path.withSuffix? ending = some output := by
  cases hout : path.withSuffix? ending with
  | none =>
    rw [withSuffix?_eq_none_iff, h] at hout
    cases hout
  | some output => exact ⟨output, rfl⟩

end Path

namespace Command

variable {host : Host} {print : Bool} {tree next : FileTree} {input output : Path} {name : List Char}

theorem isProfile_iff (hname : input.names.getLast? = some name) : isProfile input = true ↔
    ∃ stem own, stem ≠ [] ∧ name = stem ++ own ∧ own.map Char.toLower = ".xml".toList := by
  have hsuffix : input.suffix = (Path.splitName name).2 := by rw [Path.suffix, hname]
  rw [isProfile, decide_eq_true_eq, hsuffix]
  exact @Path.map_toLower_splitName_iff name "xml".toList (by decide) (by decide)

/-! ## Skipping -/

/-- Whether an input is skipped: whatever the files are, nothing is done with any of them,
    and nothing is noted. -/
def IsSkipped (input : Path) : Prop :=
  ∃ output, input.withSuffix? profileSuffix = some output ∧
    ∀ {m : Type → Type} [Monad m] (files : Files m) (host : Host) (print : Bool),
      compileInput files host print input output = pure { input, notes := [], outcome := .skipped }

theorem Compiling.outcome_ne_skipped {result : Result}
    (h : Compiling host print tree input output (result, next)) : result.outcome ≠ .skipped := by
  cases h with
  | written =>
    rw [report]
    split <;> simp
  | _ => simp

/-- Inputs that are profiles by their names are skipped, and no others. -/
theorem isSkipped_iff_isProfile (hout : input.withSuffix? profileSuffix = some output) :
    IsSkipped input ↔ isProfile input = true := by
  constructor
  · rintro ⟨_, hout', hskip⟩
    obtain rfl := Option.some.inj (hout.symm.trans hout')
    -- A script has another outcome, in whatever tree.
    have hrun : (compileInput FileTree.files {} false input output).run { home := [] } =
        pure ({ input, notes := [], outcome := .skipped }, { home := [] }) := by
      rw [hskip FileTree.files {} false]
      rfl
    rcases compileInput_cases_isProfile hout hrun with ⟨hprofile, -⟩ | ⟨-, hcompiling⟩
    · exact hprofile
    · exact absurd rfl hcompiling.outcome_ne_skipped
  · intro hprofile
    refine ⟨output, hout, fun files host print => ?_⟩
    rw [compileInput, differOnlyInCase_eq_isProfile hout, if_pos hprofile]

theorem compileInput_of_not_isSkipped (hout : input.withSuffix? profileSuffix = some output)
    (h : ¬ IsSkipped input) {m : Type → Type} [Monad m] (files : Files m) (host : Host)
    (print : Bool) :
    compileInput files host print input output = compileScript files host print input output := by
  rw [isSkipped_iff_isProfile hout] at h
  rw [compileInput, differOnlyInCase_eq_isProfile hout, if_neg h]

/-! ## Runs with an input that is skipped -/

/-- The result of an input that is skipped. -/
def skippedResult (input : Path) : Result := { input, notes := [], outcome := .skipped }

/-- An input that is skipped has its result put among the others, and changes nothing
    else. -/
theorem compileAll_skipped (h : IsSkipped input) {before : List Path} (after : List Path)
    (hbefore : ∀ path ∈ before, path.hasName = true) (host : Host) (print : Bool)
    (tree : FileTree) :
    ∃ fore aft nameless next,
      (compileAll FileTree.files host print (before ++ after)).run tree =
        pure ((fore ++ aft, nameless), next) ∧
      (compileAll FileTree.files host print (before ++ input :: after)).run tree =
        pure ((fore ++ skippedResult input :: aft, nameless), next) := by
  induction before generalizing tree with
  | nil =>
    obtain ⟨output, hout, hskip⟩ := h
    obtain ⟨aft, next, hrun, -⟩ := run_compileAll host print tree after
    refine ⟨[], aft, _, next, hrun, ?_⟩
    simp only [List.nil_append, compileAll, hout, hskip, StateT.run_bind, StateT.run_pure,
      pure_bind, hrun, skippedResult]
  | cons first before ih =>
    rw [List.forall_mem_cons] at hbefore
    obtain ⟨output, hout⟩ := Path.exists_withSuffix? hbefore.1 profileSuffix
    obtain ⟨⟨result, middle⟩, hstep⟩ : ∃ r, (compileInput FileTree.files host print first
        output).run tree = pure r := ⟨_, rfl⟩
    obtain ⟨fore, aft, nameless, next, hwithout, hwith⟩ := ih hbefore.2 middle
    refine ⟨result :: fore, aft, nameless, next, ?_, ?_⟩ <;>
      simp only [List.cons_append, compileAll, hout, StateT.run_bind, hstep, pure_bind, hwithout,
        hwith, StateT.run_pure]

/-- A request that is carried out in a file tree: what it leaves behind, and the tree
    afterwards. -/
def carryOutIn (host : Host) (tree : FileTree) (request : Request) : Run × FileTree :=
  (carryOut FileTree.files host request).run tree

/-- Whether a run is another one, apart from a text that it says in addition on the standard
    error. -/
structure SaysMore (text : String) (run other : Run × FileTree) : Prop where
  tree : run.2 = other.2
  ending : run.1.ending = other.1.ending
  out : run.1.out = other.1.out
  level : run.1.level = other.1.level
  err : ∃ first second, other.1.err = first ++ second ∧ run.1.err = first ++ text ++ second

/-- What is said of an input that is skipped. -/
def skipMessage (input : Path) : String :=
  s!"skipping argument {String.ofList input.text}, already has .xml extension\n"

theorem complaint_skippedResult (input : Path) :
    (skippedResult input).complaint = skipMessage input := by
  have hsuffix : String.ofList profileSuffix = ".xml" := by
    rw [profileSuffix, String.ofList_toList]
  have hcomplaint : (skippedResult input).complaint = "skipping argument " ++
      String.ofList input.text ++ ", already has " ++ String.ofList profileSuffix ++
        " extension\n" := rfl
  have htail : ", already has " ++ (".xml" ++ " extension\n") = ", already has .xml extension\n" :=
    rfl
  rw [hcomplaint, hsuffix, String.append_assoc, String.append_assoc, htail]
  rfl

theorem err_skippedResult (level : Level) (input : Path) :
    (skippedResult input).err level = skipMessage input := by
  have herr : (skippedResult input).err level = "" ++ (skippedResult input).complaint := by
    cases level <;> rfl
  rw [herr, String.empty_append, complaint_skippedResult]

/-- An input that is skipped makes no difference to a run but for the message. -/
theorem saysMore_of_isSkipped {file : List Char} {before : List (List Char)}
    (h : IsSkipped (Path.ofText file))
    (hbefore : ∀ other ∈ before, (Path.ofText other).hasName = true) (host : Host)
    (tree : FileTree) (loudness : Loudness) (print : Bool) (after : List (List Char)) :
    SaysMore (skipMessage (Path.ofText file))
      (carryOutIn host tree (.compile loudness print (before ++ file :: after)))
      (carryOutIn host tree (.compile loudness print (before ++ after))) := by
  obtain ⟨fore, aft, nameless, next, hwithout, hwith⟩ :=
    compileAll_skipped h (after.map Path.ofText) (List.forall_mem_map.2 hbefore) host print tree
  have hother : carryOutIn host tree (.compile loudness print (before ++ after)) =
      (Run.ofResults loudness.level (fore ++ aft) nameless, next) := by
    rw [carryOutIn, carryOut, List.map_append, StateT.run_bind, hwithout]
    rfl
  have hrun : carryOutIn host tree (.compile loudness print (before ++ file :: after)) =
      (Run.ofResults loudness.level (fore ++ skippedResult (Path.ofText file) :: aft) nameless,
        next) := by
    rw [carryOutIn, carryOut, List.map_append, List.map_cons, StateT.run_bind, hwith]
    rfl
  rw [hother, hrun]
  refine ⟨rfl, ?_, ?_, rfl, String.join (fore.map (Result.err loudness.level)),
    String.join (aft.map (Result.err loudness.level)), ?_, ?_⟩
  · simp [Run.ofResults, skippedResult, Result.isFailure]
  · simp [Run.ofResults, skippedResult, Result.out, String.join_append, String.join_cons]
  · simp [Run.ofResults, String.join_append]
  · simp [Run.ofResults, String.join_append, String.join_cons, err_skippedResult,
      String.append_assoc]

/-! ## What the name decides -/

/-- How an input is handled whose path has a last name. -/
structure IsHandledByName (file name : List Char) : Prop where
  /-- It is skipped if the name ends with the suffix of profiles, in some letter case, and
      something stands in front of it, and in no other case. -/
  skipped_iff : IsSkipped (Path.ofText file) ↔
    ∃ stem own, stem ≠ [] ∧ name = stem ++ own ∧ own.map Char.toLower = ".xml".toList
  /-- If it is, no run that comes to it is any different, but for the message. -/
  skipped {before : List (List Char)} : IsSkipped (Path.ofText file) →
    (∀ other ∈ before, (Path.ofText other).hasName = true) →
    ∀ (host : Host) (tree : FileTree) (loudness : Loudness) (print : Bool)
      (after : List (List Char)),
      SaysMore (skipMessage (Path.ofText file))
        (carryOutIn host tree (.compile loudness print (before ++ file :: after)))
        (carryOutIn host tree (.compile loudness print (before ++ after)))
  /-- If it is not, it is compiled. Its profile has a place in the same directory, under
      another name. -/
  compiled : ¬ IsSkipped (Path.ofText file) → ∃ output stem,
    (Path.ofText file).withSuffix? profileSuffix = some output ∧
      (∀ {m : Type → Type} [Monad m] (files : Files m) (host : Host) (print : Bool),
        compileInput files host print (Path.ofText file) output =
          compileScript files host print (Path.ofText file) output) ∧
      output.slashes = (Path.ofText file).slashes ∧
      output.names = (Path.ofText file).names.dropLast ++ [stem ++ ".xml".toList] ∧
      stem ++ ".xml".toList ≠ name

/-- The last name of its path decides how an input is handled. -/
theorem isHandledByName {file : List Char}
    (hname : (Path.ofText file).names.getLast? = some name) : IsHandledByName file name := by
  have hne : name ≠ [] :=
    ((Path.isPlain_ofText file).names name (List.mem_of_getLast? hname)).1
  have hout : (Path.ofText file).withSuffix? profileSuffix = some ⟨(Path.ofText file).slashes,
      (Path.ofText file).names.dropLast ++ [(Path.splitName name).1 ++ profileSuffix]⟩ :=
    Path.withSuffix?_eq_some_iff.2 ⟨name, hname, rfl⟩
  exact {
    skipped_iff := (isSkipped_iff_isProfile hout).trans (isProfile_iff hname)
    skipped := saysMore_of_isSkipped
    compiled := by
      intro hskip
      refine ⟨_, (Path.splitName name).1, hout, compileInput_of_not_isSkipped hout hskip, rfl, rfl,
        fun hsame => hskip ?_⟩
      -- The name of the profile would be one that is skipped.
      rw [isSkipped_iff_isProfile hout, isProfile_iff hname]
      exact ⟨_, _, (Path.splitName_fst hne).1, hsame.symm, by decide⟩ }

/-- A profile in another directory, with a capital suffix. -/
def capitalProfile : List Char := "out/done.XML".toList

/-- The profile is skipped, before and behind a script as well. -/
theorem isHandledByName_capitalProfile :
    (Path.ofText capitalProfile).names.getLast? = some "done.XML".toList ∧
      IsSkipped (Path.ofText capitalProfile) ∧
      SaysMore "skipping argument out/done.XML, already has .xml extension\n"
        (carryOutIn {} (scriptTree "a") (.compile {} false ["a.txt".toList, capitalProfile]))
        (carryOutIn {} (scriptTree "a") (.compile {} false ["a.txt".toList])) := by
  have hname : (Path.ofText capitalProfile).names.getLast? = some "done.XML".toList := by decide
  have hhandled := isHandledByName hname
  have hskip : IsSkipped (Path.ofText capitalProfile) :=
    hhandled.skipped_iff.2 ⟨"done".toList, ".XML".toList, by decide, by decide, by decide⟩
  have hmessage : skipMessage (Path.ofText capitalProfile) =
      "skipping argument out/done.XML, already has .xml extension\n" := by decide
  have hnamed : ∀ other ∈ ["a.txt".toList], (Path.ofText other).hasName = true := by decide
  exact ⟨hname, hskip, hmessage ▸ hhandled.skipped hskip hnamed _ _ _ _ []⟩

/-! ## A bare suffix -/

/-- A tree with a script whose name is nothing but the suffix of profiles. -/
def bareSuffixTree : FileTree where
  home := []
  nodes := [([".xml".toList], .file (Utf8.encode ['a']))]

/-- The arguments that have it compiled. -/
def bareSuffixArgs : List (List Char) := ["compile".toList, ".xml".toList]

theorem runIn_bareSuffix : runIn {} bareSuffixTree bareSuffixArgs =
    ({ ending := .status 0, out := "Compiled .xml to .xml.xml (1 events, macro 'NewMacro')\n" },
      bareSuffixTree.put [".xml.xml".toList]
        (.file (Profile.bytes { events := [.keyTap 65 15] }))) := by
  have hargs : Request.ofArgs bareSuffixArgs = .compile {} false [".xml".toList] :=
    ofArgs_compile (by decide) (by decide)
  have hout : (Path.ofText ".xml".toList).withSuffix? profileSuffix =
      some ⟨0, [".xml.xml".toList]⟩ := by decide
  have hwrite : bareSuffixTree.write ⟨0, [".xml.xml".toList]⟩
      (Profile.bytes { events := [.keyTap 65 15] }) = .ok (bareSuffixTree.put [".xml.xml".toList]
        (.file (Profile.bytes { events := [.keyTap 65 15] }))) :=
    FileTree.write_eq_ok_iff.2 ⟨[".xml.xml".toList], rfl, by decide, rfl⟩
  have hread : bareSuffixTree.read (Path.ofText ".xml".toList) = .ok (Utf8.encode ['a']) := rfl
  rw [runIn_compile hargs hout (by decide) (compileScript_written hread compileFile_first hwrite)]
  rfl

/-- The name ends with the suffix of profiles, but the input is not skipped. -/
theorem not_isSkipped_bareSuffix :
    (Path.ofText ".xml".toList).names.getLast? = some ".xml".toList ∧
      (∃ stem own, ".xml".toList = stem ++ own ∧ own.map Char.toLower = ".xml".toList) ∧
      ¬ IsSkipped (Path.ofText ".xml".toList) ∧
      (runIn {} bareSuffixTree bareSuffixArgs).1.err = "" ∧
      (runIn {} bareSuffixTree bareSuffixArgs).2.read ⟨0, [".xml.xml".toList]⟩ =
        .ok (Profile.bytes { events := [.keyTap 65 15] }) := by
  have hout : (Path.ofText ".xml".toList).withSuffix? profileSuffix =
      some ⟨0, [".xml.xml".toList]⟩ := by decide
  refine ⟨by decide, ⟨[], ".xml".toList, rfl, by decide⟩, ?_, ?_, ?_⟩
  · rw [isSkipped_iff_isProfile hout]
    decide
  · rw [runIn_bareSuffix]
  · rw [runIn_bareSuffix]
    rfl

end Command

end KeyMacro
