import KeyMacro.Proofs.Command.Batch
import KeyMacro.Proofs.Command.Request

/-!
# Accounts of a batch

A run that writes profiles accounts for each input that it goes through by one line
(`StatusLine`): on the standard output if the profile has been written and the line is
taken, and else on the standard error. Whatever becomes of one input, the next one is gone on with, and
the status is 1 if one of the lines is about an error (`status_of_compile`).

This holds up to the first path without a name, such as a dot. There is no name to
give its profile; but no line says so, and the run ends there without a status.
-/

namespace KeyMacro.Command

variable {host : Host} {tree next : FileTree} {loudness : Loudness}
  {args files : List (List Char)} {input output : Path} {inputs : List Path} {result : Result}
  {results : List Result}

/-- The line about an input: what it adds to the standard output and what to the
    standard error. -/
inductive StatusLine (input : Path) : String → String → Prop
  | compiled (output : Path) (made : Macro) :
    StatusLine input
      (s!"Compiled {String.ofList input.text} to {String.ofList output.text} " ++
        s!"({made.events.length} events, macro '{String.ofList made.name}')\n") ""
  | skipping :
    StatusLine input ""
      s!"skipping argument {String.ofList input.text}, already has .xml extension\n"
  | error (reason : String) :
    StatusLine input "" s!"error in {String.ofList input.text}: {reason}\n"

/-- Whether a line is about an error. -/
def isErrorLine (line : String) : Bool := "error in ".toList.isPrefixOf line.toList

theorem isErrorLine_complaint (result : Result) :
    isErrorLine result.complaint = result.isFailure := by
  obtain ⟨input, notes, outcome⟩ := result
  cases outcome <;>
    simp [isErrorLine, Result.complaint, Result.isFailure, toString, List.isPrefixOf]

theorem Handling.statusLine (h : Handling host tree input result next) :
    StatusLine result.input result.out result.complaint := by
  cases h with
  | @skipped notes =>
    have hcomplaint : Result.complaint { input, notes, outcome := .skipped } =
        s!"skipping argument {String.ofList input.text}, already has .xml extension\n" := by
      simp only [Result.complaint, toString, String.append_assoc]
      rfl
    rw [hcomplaint]
    exact .skipping
  | failed => exact .error _
  | @delivered _ delivery =>
    rw [report]
    split
    · exact .compiled _ _
    · exact .error _

/-- A batch says one line about each of its inputs. -/
theorem Batch.statusLine (h : Batch host false tree inputs results next) :
    ∀ result ∈ results, StatusLine result.input result.out result.complaint := by
  induction h with
  | nil => exact fun _ hm => absurd hm List.not_mem_nil
  | cons hout hstep _ ih =>
    rw [List.forall_mem_cons]
    exact ⟨(handling_of_compileInput hout hstep).statusLine, ih⟩

/-- A run accounts for all its inputs up to the first one without a name, by one line
    each, in their order. If there is no such input it ends with a status, which is 1
    if some line is about an error and else 0. -/
theorem status_of_compile (hargs : Request.ofArgs args = .compile loudness false files) :
    ∃ results,
      Batch host false tree ((files.map Path.ofText).takeWhile Path.hasName) results
        (runIn host tree args).2 ∧
      results.map Result.input = (files.map Path.ofText).takeWhile Path.hasName ∧
      (∀ result ∈ results, StatusLine result.input result.out result.complaint) ∧
      (runIn host tree args).1.out = String.join (results.map Result.out) ∧
      (runIn host tree args).1.err = String.join (results.map (Result.err loudness.level)) ∧
      (runIn host tree args).1.ending =
        match (files.map Path.ofText).find? fun input => !input.hasName with
        | some path => .nameless path
        | none =>
          .status (if results.any fun result => isErrorLine result.complaint then 1 else 0) := by
  obtain ⟨results, hbatch, hrun⟩ := runIn_batch hargs
  refine ⟨results, hbatch, hbatch.map_input, hbatch.statusLine, ?_, ?_, ?_⟩
  · rw [hrun]
    rfl
  · rw [hrun]
    rfl
  · rw [hrun]
    simp only [isErrorLine_complaint]
    cases (files.map Path.ofText).find? fun input => !input.hasName <;> rfl

/-! ## Two batches -/

/-- The arguments that have a script compiled that there is not, and one that there
    is. -/
def missingArgs : List (List Char) := ["compile".toList, "no.txt".toList, "a.txt".toList]

theorem ofArgs_missingArgs : Request.ofArgs missingArgs =
    .compile {} false ["no.txt".toList, "a.txt".toList] :=
  ofArgs_compile (by decide) (by decide)

/-- A script that there is not is accounted for by an error, and the one behind it is
    gone on with. -/
theorem status_of_missing :
    Request.ofArgs missingArgs = .compile {} false ["no.txt".toList, "a.txt".toList] ∧
      ∃ results,
        Batch {} false (scriptTree "a") [⟨0, ["no.txt".toList]⟩, ⟨0, ["a.txt".toList]⟩] results
          (runIn {} (scriptTree "a") missingArgs).2 ∧
        results.map Result.input = [⟨0, ["no.txt".toList]⟩, ⟨0, ["a.txt".toList]⟩] ∧
        (∀ result ∈ results, StatusLine result.input result.out result.complaint) ∧
        (runIn {} (scriptTree "a") missingArgs).1.out = String.join (results.map Result.out) ∧
        (runIn {} (scriptTree "a") missingArgs).1.ending = .status 1 := by
  obtain ⟨results, hbatch, hinput, hlines, hout, -, hending⟩ :=
    @status_of_compile {} (scriptTree "a") _ _ _ ofArgs_missingArgs
  have hinputs : (["no.txt".toList, "a.txt".toList].map Path.ofText).takeWhile Path.hasName =
      [⟨0, ["no.txt".toList]⟩, ⟨0, ["a.txt".toList]⟩] := by decide
  have hnone : (["no.txt".toList, "a.txt".toList].map Path.ofText).find?
      (fun input => !input.hasName) = none := by decide
  have hfailure : (results.any fun result => isErrorLine result.complaint) = true := by
    simp only [isErrorLine_complaint]
    rw [hbatch.any_isFailure isPlain_of_mem_takeWhile]
    decide
  rw [hinputs] at hbatch hinput
  rw [hnone, hfailure] at hending
  exact ⟨ofArgs_missingArgs, results, hbatch, hinput, hlines, hout, hending⟩

/-- The arguments that have a path without a name compiled, and a script. -/
def dotArgs : List (List Char) := ["compile".toList, ".".toList, "a.txt".toList]

/-- At a path without a name the run ends with no status and not a word, and the
    script behind it is not compiled. -/
theorem broken_off_at_dot :
    runIn {} (scriptTree "a") dotArgs = ({ ending := .nameless ⟨0, []⟩ }, scriptTree "a") := by
  have hargs : Request.ofArgs dotArgs = .compile {} false [".".toList, "a.txt".toList] :=
    ofArgs_compile (by decide) (by decide)
  rw [runIn, run, hargs]
  rfl

end KeyMacro.Command
