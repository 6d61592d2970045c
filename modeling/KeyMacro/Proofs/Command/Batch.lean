import KeyMacro.Proofs.Command.Cycle
import KeyMacro.Proofs.Command.Delivery

/-!
# Batches

The inputs of a run are compiled one after the other, each in the tree that the one
before it leaves behind (`Batch`). A run goes through its inputs up to the first
path that does not name anything (`runIn_batch`). What they come to is settled by
the tree at the beginning (`Batch.any_isFailure`, `Batch.compiledLines_eq`): a
profile that is written in between makes no difference to any other input. And a
location to which nothing is delivered keeps what it holds (`Batch.node?_eq`).
-/

namespace KeyMacro

/-- Whether a path has a last name, which the name of its profile is made of. -/
def Path.hasName (path : Path) : Bool := path.names ≠ []

theorem Path.withSuffix?_eq_none_iff {path : Path} {ending : List Char} :
    path.withSuffix? ending = none ↔ path.hasName = false := by
  rw [Path.withSuffix?, Path.hasName]
  cases hlast : path.names.getLast? with
  | none => simpa using hlast
  | some name =>
    have hne : path.names ≠ [] := List.ne_nil_of_mem (List.mem_of_getLast? hlast)
    simp [hne]

namespace Command

variable {host : Host} {print : Bool} {tree middle next : FileTree} {loudness : Loudness}
  {args : List (List Char)} {files : List (List Char)} {input output : Path}
  {inputs before after : List Path} {result : Result} {results : List Result} {place : Location}
  {delivery : Delivery}

/-- Going through inputs that have a name, from one tree to another. -/
inductive Batch (host : Host) (print : Bool) : FileTree → List Path → List Result → FileTree → Prop
  | nil (tree : FileTree) : Batch host print tree [] [] tree
  | cons {tree middle next : FileTree} {input output : Path} {inputs : List Path}
    {result : Result} {results : List Result}
    (hout : input.withSuffix? profileSuffix = some output)
    (hstep : (compileInput FileTree.files host print input output).run tree = pure (result, middle))
    (hrest : Batch host print middle inputs results next) :
    Batch host print tree (input :: inputs) (result :: results) next

/-! ## Runs as batches -/

theorem run_compileAll (host : Host) (print : Bool) (tree : FileTree) (inputs : List Path) :
    ∃ results next, (compileAll FileTree.files host print inputs).run tree =
        pure ((results, inputs.find? fun input => !input.hasName), next) ∧
      Batch host print tree (inputs.takeWhile Path.hasName) results next := by
  induction inputs generalizing tree with
  | nil => exact ⟨[], tree, rfl, .nil tree⟩
  | cons input inputs ih =>
    cases hout : input.withSuffix? profileSuffix with
    | none =>
      have hname := Path.withSuffix?_eq_none_iff.1 hout
      refine ⟨[], tree, ?_, ?_⟩
      · simp [compileAll, hout, hname]
      · simpa [hname] using Batch.nil tree
    | some output =>
      have hname : input.hasName = true := by
        rw [← Bool.not_eq_false, ← Path.withSuffix?_eq_none_iff.not, hout]
        simp
      obtain ⟨⟨result, middle⟩, hstep⟩ : ∃ r, (compileInput FileTree.files host print input
          output).run tree = pure r := ⟨_, rfl⟩
      obtain ⟨results, next, hrun, hbatch⟩ := ih middle
      refine ⟨result :: results, next, ?_, ?_⟩
      · simp only [compileAll, hout, StateT.run_bind, hstep, hrun, pure_bind, StateT.run_pure,
          List.find?_cons, hname, Bool.not_true]
      · rw [List.takeWhile_cons_of_pos hname]
        exact .cons hout hstep hbatch

/-- A run goes through its inputs up to the first one without a name. -/
theorem runIn_batch (hargs : Request.ofArgs args = .compile loudness print files) :
    ∃ results, Batch host print tree ((files.map Path.ofText).takeWhile Path.hasName) results
        (runIn host tree args).2 ∧
      (runIn host tree args).1 = Run.ofResults loudness.level results
        ((files.map Path.ofText).find? fun input => !input.hasName) := by
  obtain ⟨results, next, hrun, hbatch⟩ := run_compileAll host print tree (files.map Path.ofText)
  have hresult : runIn host tree args = (Run.ofResults loudness.level results
      ((files.map Path.ofText).find? fun input => !input.hasName), next) := by
    simp only [runIn, run, hargs, carryOut, StateT.run_bind, hrun, pure_bind, StateT.run_pure]
    rfl
  rw [hresult]
  exact ⟨results, hbatch, rfl⟩

/-- A run goes through all its inputs if they have names. -/
theorem runIn_batch_of_hasName (hargs : Request.ofArgs args = .compile loudness print files)
    (hnamed : ∀ file ∈ files, (Path.ofText file).hasName = true) :
    ∃ results, Batch host print tree (files.map Path.ofText) results (runIn host tree args).2 ∧
      (runIn host tree args).1 = Run.ofResults loudness.level results none := by
  obtain ⟨results, hbatch, hrun⟩ := @runIn_batch host print tree _ _ _ hargs
  have hmap : ∀ input ∈ files.map Path.ofText, input.hasName = true :=
    List.forall_mem_map.2 hnamed
  have hnone : ((files.map Path.ofText).find? fun input => !input.hasName) = none := by
    simpa using hnamed
  rw [List.takeWhile_eq_self_iff.2 hmap] at hbatch
  rw [hnone] at hrun
  exact ⟨results, hbatch, hrun⟩

theorem isPlain_of_mem_map : ∀ input ∈ files.map Path.ofText, input.IsPlain :=
  List.forall_mem_map.2 fun file _ => Path.isPlain_ofText file

/-- The inputs that a run goes through are plain paths. -/
theorem isPlain_of_mem_takeWhile {p : Path → Bool} :
    ∀ input ∈ (files.map Path.ofText).takeWhile p, input.IsPlain := by
  intro input hm
  exact isPlain_of_mem_map input ((List.takeWhile_prefix p).subset hm)

/-! ## Parts of a batch -/

/-- The inputs of a batch may be gone through in two parts. -/
theorem Batch.exists_of_append (h : Batch host print tree (before ++ after) results next) :
    ∃ fore aft middle, results = fore ++ aft ∧ Batch host print tree before fore middle ∧
      Batch host print middle after aft next := by
  induction before generalizing tree results with
  | nil => exact ⟨[], results, tree, rfl, .nil tree, h⟩
  | cons input before ih =>
    cases h with
    | cons hout hstep hrest =>
      obtain ⟨fore, aft, middle, rfl, hbefore, hafter⟩ := ih hrest
      exact ⟨_ :: fore, aft, middle, rfl, .cons hout hstep hbefore, hafter⟩

/-- There is one result for each input, in their order. -/
theorem Batch.map_input (h : Batch host print tree inputs results next) :
    results.map Result.input = inputs := by
  induction h with
  | nil => rfl
  | cons _ hstep _ ih => rw [List.map_cons, ih, input_of_compileInput hstep]

/-- A batch leaves all scripts as they are. -/
theorem Batch.sameScripts (hplain : ∀ input ∈ inputs, input.IsPlain)
    (h : Batch host print tree inputs results next) : SameScripts tree next := by
  induction h with
  | nil tree => exact .refl tree
  | cons hout hstep _ ih =>
    have hfirst := sameScripts_of_compileInput (hplain _ List.mem_cons_self) hout hstep
    exact hfirst.trans (ih fun input hm => hplain input (List.mem_cons_of_mem _ hm))

/-! ## Batches that write profiles -/

/-- Whatever about the results is told by the deliveries is settled by the tree at the
    beginning. -/
theorem Batch.map_eq_map {α : Type} {f : Result → α} {g : Path → Option Delivery → α}
    (hstep : ∀ tree input result next, Handling host tree input result next →
      f result = g input (delivery? tree input))
    (hplain : ∀ input ∈ inputs, input.IsPlain) (h : Batch host false tree inputs results next) :
    results.map f = inputs.map fun input => g input (delivery? tree input) := by
  induction h with
  | nil => rfl
  | cons hout hfirst _ ih =>
    have hsame := sameScripts_of_compileInput (hplain _ List.mem_cons_self) hout hfirst
    rw [List.map_cons, List.map_cons, hstep _ _ _ _ (handling_of_compileInput hout hfirst),
      ih fun input hm => hplain input (List.mem_cons_of_mem _ hm)]
    simp only [hsame.delivery?_eq]

/-- The line that reports a delivery. -/
def Delivery.line (input : Path) (delivery : Delivery) : String :=
  compiledLine input delivery.output delivery.made

theorem Handling.isFailure_eq (h : Handling host tree input result next) :
    result.isFailure = (!isProfile input && (delivery? tree input).all fun delivery =>
      (host.refusal? (delivery.line input)).isSome) := by
  cases h with
  | skipped hprofile => simp [Result.isFailure, hprofile]
  | failed hscript hnone => simp [Result.isFailure, hscript, hnone]
  | delivered hsome =>
    have hscript := (delivery?_eq_some_iff.1 hsome).1
    rw [isFailure_report, hsome, hscript]
    rfl

/-- Scripts fail that have no delivery, or one that cannot be reported. -/
theorem Batch.any_isFailure (hplain : ∀ input ∈ inputs, input.IsPlain)
    (h : Batch host false tree inputs results next) : results.any Result.isFailure =
      inputs.any fun input => !isProfile input && (delivery? tree input).all fun delivery =>
        (host.refusal? (delivery.line input)).isSome := by
  have hmap := h.map_eq_map (g := fun input found => !isProfile input && found.all fun delivery =>
    (host.refusal? (delivery.line input)).isSome) (fun _ _ _ _ hstep => hstep.isFailure_eq) hplain
  simpa [List.any_map] using congrArg (List.any · id) hmap

/-- The line that says of an input that its profile has been written. -/
def Result.compiledLine? (result : Result) : Option String :=
  match result.outcome with
  | .written _ _ => some result.out
  | _ => none

/-- The line about an input that may have a delivery, if the standard output takes it. -/
def lineOf? (host : Host) (input : Path) (found : Option Delivery) : Option String :=
  (found.map (Delivery.line input)).filter fun line => (host.refusal? line).isNone

theorem Handling.compiledLine?_eq (h : Handling host tree input result next) :
    result.compiledLine? = lineOf? host input (delivery? tree input) := by
  cases h with
  | skipped hprofile => simp [Result.compiledLine?, lineOf?, delivery?, hprofile]
  | failed _ hnone => simp [Result.compiledLine?, lineOf?, hnone]
  | @delivered _ delivery hsome =>
    rw [hsome, lineOf?, Option.map_some, Option.filter_some, Delivery.line, report]
    cases host.refusal? (compiledLine input delivery.output delivery.made) <;> rfl

/-- The lines about what has been written are those of the deliveries. -/
theorem Batch.compiledLines_eq (hplain : ∀ input ∈ inputs, input.IsPlain)
    (h : Batch host false tree inputs results next) : results.filterMap Result.compiledLine? =
      inputs.filterMap fun input => lineOf? host input (delivery? tree input) := by
  have hmap := h.map_eq_map (g := lineOf? host) (fun _ _ _ _ hstep => hstep.compiledLine?_eq)
    hplain
  simpa [List.filterMap_map] using congrArg (List.filterMap id) hmap

/-- No such lines are printed in between profiles. -/
theorem Batch.compiledLines_eq_nil (h : Batch host true tree inputs results next) :
    results.filterMap Result.compiledLine? = [] := by
  induction h with
  | nil => rfl
  | @cons _ _ _ _ _ _ result _ _ hstep _ ih =>
    rw [List.filterMap_cons, ih]
    cases houtcome : result.outcome with
    | written made path =>
      have hnone := (kept_of_print hstep).1
      rw [Result.profile?, houtcome] at hnone
      cases hnone
    | _ => simp [Result.compiledLine?, houtcome]

/-! ## What locations hold -/

/-- A location keeps what it holds if nothing is delivered to it. -/
theorem Batch.node?_eq (hplain : ∀ input ∈ inputs, input.IsPlain)
    (h : Batch host false tree inputs results next)
    (hkept : ∀ input ∈ inputs, ∀ delivery, delivery? tree input = some delivery →
      delivery.place ≠ place) :
    next.node? place = tree.node? place := by
  induction h with
  | nil => rfl
  | @cons tree middle _ input _ inputs _ _ hout hstep _ ih =>
    have hsame := sameScripts_of_compileInput (hplain _ List.mem_cons_self) hout hstep
    have hrest : ∀ input ∈ inputs, ∀ delivery, delivery? middle input = some delivery →
        delivery.place ≠ place := by
      intro input hm delivery hd
      rw [hsame.delivery?_eq] at hd
      exact hkept input (List.mem_cons_of_mem _ hm) delivery hd
    rw [ih (fun input hm => hplain input (List.mem_cons_of_mem _ hm)) hrest]
    cases handling_of_compileInput hout hstep with
    | skipped => rfl
    | failed => rfl
    | @delivered _ delivery hsome =>
      exact FileTree.node?_put_of_ne (hkept input List.mem_cons_self delivery hsome).symm

/-- A profile is put where it is delivered to when its input has its turn. -/
theorem Batch.exists_of_delivery (hplain : ∀ path ∈ before ++ input :: after, path.IsPlain)
    (h : Batch host false tree (before ++ input :: after) results next)
    (hd : delivery? tree input = some delivery) :
    ∃ result ∈ results, result.profile? = some (delivery.made, delivery.output) ∧
      ∃ aft middle, SameScripts tree middle ∧
        middle.node? delivery.place = some (.file (Profile.bytes delivery.made)) ∧
        Batch host false middle after aft next := by
  obtain ⟨fore, _, middle, rfl, hbefore, hrest⟩ := h.exists_of_append
  cases hrest with
  | @cons _ later _ _ _ _ result aft hout hstep hafter =>
    have hmiddle : SameScripts tree middle :=
      hbefore.sameScripts fun path hm => hplain path (List.mem_append_left _ hm)
    have hlater : SameScripts tree later :=
      hmiddle.trans (sameScripts_of_compileInput (hplain _ (by simp)) hout hstep)
    have hmem : result ∈ fore ++ result :: aft := by simp
    rw [← hmiddle.delivery?_eq] at hd
    cases handling_of_compileInput hout hstep with
    | skipped hprofile => simp [delivery?, hprofile] at hd
    | failed _ hnone => simp [hnone] at hd
    | delivered hsome =>
      obtain rfl := Option.some.inj (hd.symm.trans hsome)
      exact ⟨_, hmem, profile?_report _ _, aft, _, hlater,
        FileTree.node?_put_self (node?_ne_of_delivery hsome), hafter⟩

end Command

end KeyMacro
