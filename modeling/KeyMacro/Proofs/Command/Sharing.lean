import KeyMacro.Proofs.Command.Frame

/-!
# Profiles in the same place

Two scripts may have their profiles in the same place (`SharesOutput`), since names
that differ in their suffixes only make the same name of a profile. Nothing is said
about this: the profile that is written last is the one that stays. So after a run
that ends well, the profile of a script is that of the last script with the same
place (`profile_of_status_zero`), and if this is another one it is lost
(`lost_of_shared_output`).
-/

namespace KeyMacro.Command

variable {host : Host} {tree next : FileTree} {loudness : Loudness} {args : List (List Char)}
  {files : List (List Char)} {input other : Path} {inputs before after : List Path}
  {results : List Result} {place : Location} {delivery : Delivery}

/-! ## Scripts with the same output -/

/-- Where the profile of a script is put, if there is a way to that place. -/
def profilePlace? (tree : FileTree) (input : Path) : Option Location :=
  if isProfile input then none
  else do
    let output ← input.withSuffix? profileSuffix
    (tree.locate output).toOption

/-- Whether two scripts have their profiles in the same place. -/
def SharesOutput (tree : FileTree) (input other : Path) : Prop :=
  ∃ place, profilePlace? tree input = some place ∧ profilePlace? tree other = some place

instance : Decidable (SharesOutput tree input other) :=
  decidable_of_iff (profilePlace? tree input = profilePlace? tree other ∧
      (profilePlace? tree other).isSome) <| by
    rw [Option.isSome_iff_exists]
    exact ⟨fun ⟨heq, place, hother⟩ => ⟨place, heq.trans hother, hother⟩,
      fun ⟨place, hinput, hother⟩ => ⟨hinput.trans hother.symm, place, hother⟩⟩

theorem SharesOutput.symm (h : SharesOutput tree input other) : SharesOutput tree other input := by
  obtain ⟨place, hinput, hother⟩ := h
  exact ⟨place, hother, hinput⟩

theorem SharesOutput.trans {another : Path} (h : SharesOutput tree input other)
    (h' : SharesOutput tree other another) : SharesOutput tree input another := by
  obtain ⟨place, hinput, hother⟩ := h
  obtain ⟨place', hother', hanother⟩ := h'
  obtain rfl := Option.some.inj (hother.symm.trans hother')
  exact ⟨place, hinput, hanother⟩

/-- Only scripts share their outputs. -/
theorem SharesOutput.isProfile_right (h : SharesOutput tree input other) :
    isProfile other = false := by
  obtain ⟨place, -, hother⟩ := h
  by_contra hprofile
  simp [profilePlace?, hprofile] at hother

theorem profilePlace?_of_delivery (h : delivery? tree input = some delivery) :
    profilePlace? tree input = some delivery.place := by
  obtain ⟨hscript, hout, -, hlocate, -⟩ := delivery?_eq_some_iff.1 h
  simp [profilePlace?, hscript, hout, hlocate, Except.toOption]

/-- Whether an input is the last one whose profile is in the same place as that of a
    script. -/
def IsLastSharing (tree : FileTree) (input : Path) (inputs : List Path) (last : Path) : Prop :=
  ∃ before after, inputs = before ++ last :: after ∧ SharesOutput tree input last ∧
    ∀ other ∈ after, ¬ SharesOutput tree input other

theorem exists_isLastSharing (h : ∃ other ∈ inputs, SharesOutput tree input other) :
    ∃ last, IsLastSharing tree input inputs last := by
  induction inputs with
  | nil =>
    obtain ⟨other, hmem, -⟩ := h
    cases hmem
  | cons first inputs ih =>
    by_cases hlater : ∃ other ∈ inputs, SharesOutput tree input other
    · obtain ⟨last, before, after, rfl, hlast⟩ := ih hlater
      exact ⟨last, first :: before, after, rfl, hlast⟩
    · have hfirst : SharesOutput tree input first := by
        obtain ⟨other, hmem, hshares⟩ := h
        rcases List.mem_cons.1 hmem with rfl | hmem
        · exact hshares
        · exact absurd ⟨other, hmem, hshares⟩ hlater
      exact ⟨first, [], inputs, rfl, hfirst, fun other hmem hshares =>
        hlater ⟨other, hmem, hshares⟩⟩

theorem IsLastSharing.unique {last last' : Path} (h : IsLastSharing tree input inputs last)
    (h' : IsLastSharing tree input inputs last') : last = last' := by
  obtain ⟨before, after, rfl, hshares, hnone⟩ := h
  obtain ⟨before', after', hinputs, hshares', hnone'⟩ := h'
  rcases List.append_eq_append_iff.1 hinputs with ⟨between, -, hafter⟩ | ⟨between, -, hafter⟩
  · cases between with
    | nil => exact (List.cons.inj hafter).1
    | cons first between =>
      obtain ⟨rfl, rfl⟩ := List.cons.inj hafter
      exact absurd hshares' (hnone last' (by simp))
  · cases between with
    | nil => exact (List.cons.inj hafter).1.symm
    | cons first between =>
      obtain ⟨rfl, rfl⟩ := List.cons.inj hafter
      exact absurd hshares (hnone' last (by simp))

/-! ## Profiles that stay -/

/-- A profile stays that no other one is put in place of. -/
theorem Batch.node?_of_delivery (hplain : ∀ path ∈ before ++ input :: after, path.IsPlain)
    (h : Batch host false tree (before ++ input :: after) results next)
    (hd : delivery? tree input = some delivery)
    (hlast : ∀ other ∈ after, ¬ SharesOutput tree input other) :
    next.node? delivery.place = some (.file (Profile.bytes delivery.made)) := by
  obtain ⟨_, -, -, aft, middle, hsame, hput, hafter⟩ := h.exists_of_delivery hplain hd
  rw [hafter.node?_eq (fun path hm => hplain path (by simp [hm])), hput]
  intro other hm another ha hplace
  rw [hsame.delivery?_eq] at ha
  exact hlast other hm ⟨delivery.place, profilePlace?_of_delivery hd,
    hplace ▸ profilePlace?_of_delivery ha⟩

/-! ## Runs that end well -/

/-- A run that ends well goes through all its inputs, and each of them is a profile
    or has a delivery. -/
theorem batch_of_status_zero (hargs : Request.ofArgs args = .compile loudness false files)
    (hstatus : (runIn host tree args).1.ending = .status 0) :
    (∃ results, Batch host false tree (files.map Path.ofText) results (runIn host tree args).2) ∧
      ∀ input ∈ files.map Path.ofText, isProfile input = false →
        ∃ delivery, delivery? tree input = some delivery := by
  have hnamed : ∀ file ∈ files, (Path.ofText file).hasName = true := by
    obtain ⟨_, -, hrun⟩ := @runIn_batch host false tree _ _ _ hargs
    cases hfind : (files.map Path.ofText).find? fun input => !input.hasName with
    | some path => simp [hrun, Run.ofResults, hfind] at hstatus
    | none => simpa using hfind
  obtain ⟨results, hbatch, hrun⟩ := @runIn_batch_of_hasName host false tree _ _ _ hargs hnamed
  refine ⟨⟨results, hbatch⟩, fun input hm hscript => ?_⟩
  have hfailure : results.any Result.isFailure = false := by
    simpa [hrun, Run.ofResults] using hstatus
  rw [hbatch.any_isFailure isPlain_of_mem_map, List.any_eq_false] at hfailure
  have hsome := hfailure input hm
  rw [hscript, Bool.not_false, Bool.true_and] at hsome
  cases hd : delivery? tree input with
  | some delivery => exact ⟨delivery, rfl⟩
  | none =>
    rw [hd] at hsome
    exact absurd rfl hsome

/-- Where a script has its profile there is that of the last one of the inputs that
    have theirs in the same place. -/
theorem Batch.exists_last (hplain : ∀ path ∈ before ++ input :: after, path.IsPlain)
    (h : Batch host false tree (before ++ input :: after) results next)
    (hdelivery : ∀ other ∈ after, isProfile other = false →
      ∃ final, delivery? tree other = some final)
    (hd : delivery? tree input = some delivery) :
    ∃ last final, IsLastSharing tree input (input :: after) last ∧
      delivery? tree last = some final ∧
      next.node? delivery.place = some (.file (Profile.bytes final.made)) := by
  have hself : SharesOutput tree input input :=
    ⟨delivery.place, profilePlace?_of_delivery hd, profilePlace?_of_delivery hd⟩
  obtain ⟨last, hlast⟩ := exists_isLastSharing ⟨input, List.mem_cons_self, hself⟩
  obtain ⟨between, rest, hinputs, hshares, hnone⟩ := id hlast
  -- The last input has a delivery as well, to the same place.
  obtain ⟨final, hfinal⟩ : ∃ final, delivery? tree last = some final := by
    have hmem : last ∈ input :: after := hinputs ▸ by simp
    rcases List.mem_cons.1 hmem with rfl | hmem
    · exact ⟨delivery, hd⟩
    · exact hdelivery last hmem hshares.isProfile_right
  have hplace : final.place = delivery.place := by
    obtain ⟨place, hinput, hother⟩ := hshares
    rw [profilePlace?_of_delivery hd] at hinput
    rw [profilePlace?_of_delivery hfinal] at hother
    exact Option.some.inj (hother.trans hinput.symm)
  rw [hinputs, ← List.append_assoc] at h hplain
  refine ⟨last, final, hlast, hfinal, ?_⟩
  rw [← hplace]
  exact h.node?_of_delivery hplain hfinal fun other hm hother =>
    hnone other hm (hshares.trans hother)

/-- After a run that ends well, the profile of a script is that of the last one of
    the inputs that have theirs in the same place, be it the script itself or another
    one further on. -/
theorem profile_of_status_zero {file : List Char} {fore aft : List (List Char)}
    (hargs : Request.ofArgs args = .compile loudness false (fore ++ file :: aft))
    (hstatus : (runIn host tree args).1.ending = .status 0)
    (hscript : isProfile (Path.ofText file) = false) :
    ∃ output last bytes notes made,
      (Path.ofText file).withSuffix? profileSuffix = some output ∧
      IsLastSharing tree (Path.ofText file) ((file :: aft).map Path.ofText) last ∧
      tree.read last = .ok bytes ∧ Script.compileFile bytes = (notes, .ok made) ∧
      (runIn host tree args).2.read output = .ok (Profile.bytes made) := by
  obtain ⟨⟨results, hbatch⟩, hdelivery⟩ := batch_of_status_zero hargs hstatus
  have hsame := hbatch.sameScripts isPlain_of_mem_map
  obtain ⟨delivery, hd⟩ := hdelivery (Path.ofText file) (by simp) hscript
  obtain ⟨-, hout, -, hlocate, -⟩ := delivery?_eq_some_iff.1 hd
  have hplain := @isPlain_of_mem_map (fore ++ file :: aft)
  rw [List.map_append, List.map_cons] at hbatch hplain
  have hafter : ∀ other ∈ aft.map Path.ofText, isProfile other = false →
      ∃ final, delivery? tree other = some final :=
    fun other hm => hdelivery other (by simp [List.mem_map.1 hm])
  obtain ⟨last, final, hlast, hfinal, hnode⟩ := hbatch.exists_last hplain hafter hd
  obtain ⟨-, -, ⟨bytes, hread, hmade⟩, -⟩ := delivery?_eq_some_iff.1 hfinal
  exact ⟨delivery.output, last, bytes, _, final.made, hout, hlast, hread, Prod.ext rfl hmade,
    FileTree.read_eq_ok_iff.2 ⟨delivery.place, hsame.locate_eq_ok_iff.2 hlocate, hnode⟩⟩

theorem compileFile_first :
    Script.compileFile (Utf8.encode ['a']) = ([], .ok { events := [.keyTap 65 15] }) := by
  rw [Script.compileFile_encode]
  cbv

theorem compileFile_second :
    Script.compileFile (Utf8.encode ['b']) = ([], .ok { events := [.keyTap 66 15] }) := by
  rw [Script.compileFile_encode]
  cbv

theorem delivery?_first : delivery? mixedTree (Path.ofText "a.txt".toList) =
    some ⟨{ events := [.keyTap 65 15] }, ⟨0, ["a.xml".toList]⟩, ["a.xml".toList]⟩ :=
  delivery?_eq_some_iff.2
    ⟨by decide, by decide, ⟨_, rfl, by rw [compileFile_first]⟩, rfl, by decide⟩

theorem delivery?_second : delivery? mixedTree (Path.ofText "a.mac".toList) =
    some ⟨{ events := [.keyTap 66 15] }, ⟨0, ["a.xml".toList]⟩, ["a.xml".toList]⟩ :=
  delivery?_eq_some_iff.2
    ⟨by decide, by decide, ⟨_, rfl, by rw [compileFile_second]⟩, rfl, by decide⟩

theorem status_shared : (runIn {} mixedTree sharedArgs).1.ending = .status 0 := by
  obtain ⟨results, hbatch, hrun⟩ :=
    @runIn_batch_of_hasName {} false mixedTree _ _ _ ofArgs_sharedArgs (by decide)
  have hfailure := hbatch.any_isFailure isPlain_of_mem_map
  simp only [List.map_cons, List.map_nil, List.any_cons, List.any_nil, delivery?_first,
    delivery?_second, Option.all_some, Option.isSome_none, Bool.and_false, Bool.or_false] at hfailure
  rw [hrun, Run.ofResults, hfailure]
  rfl

/-- The profile of the second script is there at the place of both. -/
theorem profile_of_shared :
    Request.ofArgs sharedArgs = .compile {} false ([] ++ "a.txt".toList :: ["a.mac".toList]) ∧
      (runIn {} mixedTree sharedArgs).1.ending = .status 0 ∧
      isProfile (Path.ofText "a.txt".toList) = false ∧
      IsLastSharing mixedTree (Path.ofText "a.txt".toList)
        (["a.txt".toList, "a.mac".toList].map Path.ofText) (Path.ofText "a.mac".toList) ∧
      (runIn {} mixedTree sharedArgs).2.read ⟨0, ["a.xml".toList]⟩ =
        .ok (Profile.bytes { events := [.keyTap 66 15] }) := by
  have hargs : Request.ofArgs sharedArgs =
      .compile {} false ([] ++ "a.txt".toList :: ["a.mac".toList]) := ofArgs_sharedArgs
  have hscript : isProfile (Path.ofText "a.txt".toList) = false := by decide
  have hsecond : IsLastSharing mixedTree (Path.ofText "a.txt".toList)
      (["a.txt".toList, "a.mac".toList].map Path.ofText) (Path.ofText "a.mac".toList) :=
    ⟨[Path.ofText "a.txt".toList], [], rfl, by decide, by simp⟩
  refine ⟨hargs, status_shared, hscript, hsecond, ?_⟩
  obtain ⟨output, last, bytes, notes, made, hout, hlast, hread, hmade, hprofile⟩ :=
    profile_of_status_zero hargs status_shared hscript
  obtain rfl := Option.some.inj hout
  obtain rfl := hlast.unique hsecond
  obtain rfl := Except.ok.inj hread
  obtain ⟨-, hmade⟩ := Prod.mk.inj (compileFile_second.symm.trans hmade)
  obtain rfl := Except.ok.inj hmade
  exact hprofile

/-- The profile of the first script is lost, though the run ends well. -/
theorem lost_of_shared_output :
    (runIn {} mixedTree sharedArgs).1.ending = .status 0 ∧
      isProfile (Path.ofText "a.txt".toList) = false ∧
      (Path.ofText "a.txt".toList).withSuffix? profileSuffix = some ⟨0, ["a.xml".toList]⟩ ∧
      ∃ bytes notes made, mixedTree.read (Path.ofText "a.txt".toList) = .ok bytes ∧
        Script.compileFile bytes = (notes, .ok made) ∧
        (runIn {} mixedTree sharedArgs).2.read ⟨0, ["a.xml".toList]⟩ ≠
          .ok (Profile.bytes made) := by
  refine ⟨status_shared, by decide, by decide, _, _, _, rfl, compileFile_first, fun hread => ?_⟩
  obtain ⟨⟨results, hbatch⟩, -⟩ := batch_of_status_zero ofArgs_sharedArgs status_shared
  have hplain := @isPlain_of_mem_map ["a.txt".toList, "a.mac".toList]
  have hnode := @Batch.node?_of_delivery _ _ _ _ [Path.ofText "a.txt".toList] [] _ _ hplain hbatch
    delivery?_second (by simp)
  obtain ⟨place, hlocate, hfile⟩ := FileTree.read_eq_ok_iff.1 hread
  rw [(hbatch.sameScripts isPlain_of_mem_map).locate_eq_ok_iff] at hlocate
  obtain rfl := Except.ok.inj hlocate
  have hbytes := Node.file.inj (Option.some.inj (hfile.symm.trans hnode))
  -- The profiles of the two scripts have different payloads.
  have hpayload := congrArg (Profile.payload? fun _ => "") hbytes
  rw [Profile.payload?_bytes, Profile.payload?_bytes] at hpayload
  revert hpayload
  decide

end KeyMacro.Command
