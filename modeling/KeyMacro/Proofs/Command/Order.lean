import KeyMacro.Proofs.Command.Print

/-!
# The order of a batch

Where no two scripts of a batch have their profiles in the same place, their order
does not matter (`same_of_perm`): each delivery is the one in the tree at the
beginning, and each location gets one of them at most. The files are the same in the
end, and so are the status and the lines about the profiles, but for their order.
What is said about an input that fails may differ, since a profile that has been
written may be what its path runs into.
-/

namespace KeyMacro.Command

variable {host : Host} {print : Bool} {tree next : FileTree} {loudness : Loudness}
  {args : List (List Char)} {files : List (List Char)} {input : Path} {inputs : List Path}
  {results : List Result} {delivery : Delivery}

/-- Where no two scripts share a place, the profiles of all of them are there. -/
theorem Batch.node?_of_mem (hplain : ∀ path ∈ inputs, path.IsPlain)
    (h : Batch host false tree inputs results next)
    (hapart : inputs.Pairwise fun first second => ¬ SharesOutput tree first second)
    (hmem : input ∈ inputs) (hd : delivery? tree input = some delivery) :
    next.node? delivery.place = some (.file (Profile.bytes delivery.made)) := by
  obtain ⟨before, after, rfl⟩ := List.append_of_mem hmem
  refine h.node?_of_delivery hplain hd ?_
  exact (List.pairwise_cons.1 (List.pairwise_append.1 hapart).2.1).1

section Permutation

variable {next' : FileTree} {inputs' : List Path} {results' : List Result}
  (hplain : ∀ path ∈ inputs, path.IsPlain) (h : Batch host print tree inputs results next)
  (h' : Batch host print tree inputs' results' next') (hperm : inputs.Perm inputs')
include hplain h h' hperm

/-- Two batches of the same scripts end with the same tree if no two of these share a
    place. -/
theorem Batch.node?_eq_of_perm
    (hapart : inputs.Pairwise fun first second => ¬ SharesOutput tree first second)
    (place : Location) : next.node? place = next'.node? place := by
  cases print with
  | true => rw [h.eq_of_print, h'.eq_of_print]
  | false =>
    have hplain' : ∀ path ∈ inputs', path.IsPlain := fun path hm =>
      hplain path (hperm.mem_iff.2 hm)
    have hapart' : inputs'.Pairwise fun first second => ¬ SharesOutput tree first second :=
      (hperm.pairwise_iff fun hnot hshares => hnot hshares.symm).1 hapart
    by_cases hput : ∃ input ∈ inputs, ∃ delivery, delivery? tree input = some delivery ∧
        delivery.place = place
    · obtain ⟨input, hmem, delivery, hd, rfl⟩ := hput
      rw [h.node?_of_mem hplain hapart hmem hd,
        h'.node?_of_mem hplain' hapart' (hperm.mem_iff.1 hmem) hd]
    · have hkept : ∀ input ∈ inputs, ∀ delivery, delivery? tree input = some delivery →
          delivery.place ≠ place := fun input hm delivery hd hplace =>
        hput ⟨input, hm, delivery, hd, hplace⟩
      rw [h.node?_eq hplain hkept,
        h'.node?_eq hplain' fun input hm => hkept input (hperm.mem_iff.2 hm)]

theorem Batch.any_isFailure_eq_of_perm :
    results.any Result.isFailure = results'.any Result.isFailure := by
  cases print with
  | true =>
    rw [Bool.eq_iff_iff, h.any_isFailure_print_iff, h'.any_isFailure_print_iff]
    simp only [hperm.mem_iff]
  | false =>
    rw [h.any_isFailure hplain,
      h'.any_isFailure fun path hm => hplain path (hperm.mem_iff.2 hm)]
    exact hperm.any_eq

theorem Batch.compiledLines_perm : (results.filterMap Result.compiledLine?).Perm
    (results'.filterMap Result.compiledLine?) := by
  cases print with
  | true => rw [h.compiledLines_eq_nil, h'.compiledLines_eq_nil]
  | false =>
    rw [h.compiledLines_eq hplain,
      h'.compiledLines_eq fun path hm => hplain path (hperm.mem_iff.2 hm)]
    exact hperm.filterMap _

end Permutation

/-- Scripts whose profiles are in different places may be compiled in any order. -/
theorem same_of_perm {args' : List (List Char)} {files' : List (List Char)}
    {loudness' : Loudness} (hargs : Request.ofArgs args = .compile loudness print files)
    (hargs' : Request.ofArgs args' = .compile loudness' print files')
    (hperm : files.Perm files') (hnamed : ∀ file ∈ files, (Path.ofText file).hasName = true)
    (hapart : (files.map Path.ofText).Pairwise fun first second =>
      ¬ SharesOutput tree first second) :
    ∃ results results',
      Batch host print tree (files.map Path.ofText) results (runIn host tree args).2 ∧
      Batch host print tree (files'.map Path.ofText) results' (runIn host tree args').2 ∧
      (∀ place, (runIn host tree args).2.node? place = (runIn host tree args').2.node? place) ∧
      (runIn host tree args).1.ending = (runIn host tree args').1.ending ∧
      (runIn host tree args).1.out = String.join (results.map Result.out) ∧
      (runIn host tree args').1.out = String.join (results'.map Result.out) ∧
      (results.filterMap Result.compiledLine?).Perm
        (results'.filterMap Result.compiledLine?) := by
  obtain ⟨results, h, hrun⟩ := @runIn_batch_of_hasName host print tree _ _ _ hargs hnamed
  obtain ⟨results', h', hrun'⟩ := @runIn_batch_of_hasName host print tree _ _ _ hargs'
    fun file hm => hnamed file (hperm.mem_iff.2 hm)
  have hinputs : (files.map Path.ofText).Perm (files'.map Path.ofText) := hperm.map _
  have hfailure := h.any_isFailure_eq_of_perm isPlain_of_mem_map h' hinputs
  refine ⟨results, results', h, h', h.node?_eq_of_perm isPlain_of_mem_map h' hinputs hapart,
    ?_, ?_, ?_, h.compiledLines_perm isPlain_of_mem_map h' hinputs⟩
  · rw [hrun, hrun', Run.ofResults, Run.ofResults, hfailure]
  · rw [hrun]
    rfl
  · rw [hrun']
    rfl

/-- The arguments that have the same scripts compiled in the other order. -/
def mixedArgs' : List (List Char) := ["compile".toList, "b.txt".toList, "a.txt".toList]

theorem ofArgs_mixedArgs' : Request.ofArgs mixedArgs' =
    .compile {} false ["b.txt".toList, "a.txt".toList] :=
  ofArgs_compile (by decide) (by decide)

theorem same_of_mixed :
    (["a.txt".toList, "b.txt".toList].map Path.ofText).Pairwise (fun first second =>
        ¬ SharesOutput mixedTree first second) ∧
      (∀ place, (runIn {} mixedTree mixedArgs).2.node? place =
        (runIn {} mixedTree mixedArgs').2.node? place) ∧
      (runIn {} mixedTree mixedArgs).1.ending = (runIn {} mixedTree mixedArgs').1.ending ∧
      ∃ results results',
        Batch {} false mixedTree (["a.txt".toList, "b.txt".toList].map Path.ofText) results
          (runIn {} mixedTree mixedArgs).2 ∧
        Batch {} false mixedTree (["b.txt".toList, "a.txt".toList].map Path.ofText) results'
          (runIn {} mixedTree mixedArgs').2 ∧
        (runIn {} mixedTree mixedArgs).1.out = String.join (results.map Result.out) ∧
        (runIn {} mixedTree mixedArgs').1.out = String.join (results'.map Result.out) ∧
        (results.filterMap Result.compiledLine?).Perm
          (results'.filterMap Result.compiledLine?) := by
  have hapart : (["a.txt".toList, "b.txt".toList].map Path.ofText).Pairwise
      fun first second => ¬ SharesOutput mixedTree first second := by decide
  obtain ⟨results, results', h, h', hnodes, hending, hout, hout', hlines⟩ :=
    same_of_perm ofArgs_mixedArgs ofArgs_mixedArgs' (.swap _ _ _) (by decide) hapart
  exact ⟨hapart, hnodes, hending, results, results', h, h', hout, hout', hlines⟩

end KeyMacro.Command
