import KeyMacro.Command.Request

/-!
# Requests for files

Whatever files there are to be compiled, there are arguments that ask for it: the
command and the files, if none of them looks like a switch (`ofArgs_compile`), and
perhaps the switch that has the profiles printed (`ofArgs_stdout`).
-/

namespace KeyMacro.Command

variable {page : Page} {arg : List Char} {args files : List (List Char)} {given : Given}

/-! ## Plain arguments -/

/-- An argument that does not begin with a hyphen is plain. -/
theorem Page.classify_plain (h : arg.head? ≠ some '-') : page.classify arg = .ok (.plain arg) := by
  unfold Page.classify
  split
  · exact absurd rfl h
  · rfl

theorem Page.classifyAll_plain (h : ∀ arg ∈ args, arg.head? ≠ some '-') :
    page.classifyAll args = .ok (args.map .plain) := by
  induction args with
  | nil => rfl
  | cons arg args ih =>
    obtain ⟨harg, hargs⟩ := List.forall_mem_cons.1 h
    have hne : arg ≠ ['-', '-'] := by
      rintro rfl
      exact harg rfl
    rw [classifyAll, if_neg hne, classify_plain harg, ih hargs]
    rfl

/-- Plain arguments go on with a row that has begun. -/
theorem foldlM_takeArgument (hrow : given.row = .begun) :
    (files.map Argument.plain).foldlM (takeArgument page true) given =
      .ok { given with values := given.values ++ files } := by
  induction files generalizing given with
  | nil => simp [pure, Except.pure]
  | cons file files ih =>
    have hfirst : takeArgument page true given (.plain file) =
        .ok { given with values := given.values ++ [file] } := by
      simp [takeArgument, hrow]
    have hrest := @ih { given with values := given.values ++ [file] } hrow
    rw [List.append_assoc] at hrest
    rw [List.map_cons, List.foldlM_cons, hfirst]
    exact hrest

/-- They begin a row that is awaited. -/
theorem foldlM_takeArgument_of_awaited (hrow : given.row = .awaited) (hfiles : files ≠ []) :
    (files.map Argument.plain).foldlM (takeArgument page true) given =
      .ok { given with values := files, row := .begun } := by
  cases files with
  | nil => exact absurd rfl hfiles
  | cons file files =>
    have hfirst : takeArgument page true given (.plain file) =
        .ok { given with values := [file], row := .begun } := by
      simp [takeArgument, hrow]
    rw [List.map_cons, List.foldlM_cons, hfirst]
    exact foldlM_takeArgument rfl

/-! ## Commands -/

theorem mapError_ok {ε ε' α : Type} (f : ε → ε') (a : α) : (Except.ok a).mapError f = .ok a := rfl

/-- The request of a command whose arguments are all recognized. -/
theorem ofArgs_of_foldlM {switches : List Switch} {others arguments : List Argument}
    (hmain : Page.main.classifyAll args = .ok others)
    (hcompile : Page.compile.classifyAll args = .ok arguments)
    (hfold : arguments.foldlM (takeArgument .compile true) {} =
      .ok { switches, values := files, row := .begun }) :
    Request.ofArgs ("compile".toList :: args) =
      .compile {} (switches.contains .stdout) files := by
  have hall : Page.main.classifyAll ("compile".toList :: args) =
      .ok (.plain "compile".toList :: others) := by
    rw [Page.classifyAll, hmain]
    rfl
  have htake : takeAll .compile true "inputs" args =
      .ok { switches, values := files, row := .begun } := by
    rw [takeAll, hcompile, mapError_ok]
    show (arguments.foldlM (takeArgument .compile true) {}).bind _ = _
    rw [hfold]
    rfl
  have hrequest : mainRequest {} ("compile".toList :: args) (.plain "compile".toList :: others) =
      .ok (.compile {} (switches.contains .stdout) files) := by
    show commandRequest {} "compile".toList args = _
    rw [commandRequest, htake]
    rfl
  simp only [Request.ofArgs, hall, mapError_ok, bind, Except.bind, hrequest]

/-- Files that do not look like switches are compiled. -/
theorem ofArgs_compile (hplain : ∀ file ∈ files, file.head? ≠ some '-') (hfiles : files ≠ []) :
    Request.ofArgs ("compile".toList :: files) = .compile {} false files :=
  @ofArgs_of_foldlM _ _ [] _ _ (Page.classifyAll_plain hplain) (Page.classifyAll_plain hplain)
    (foldlM_takeArgument_of_awaited rfl hfiles)

/-- Their profiles are printed if the switch for this comes first. -/
theorem ofArgs_stdout (hplain : ∀ file ∈ files, file.head? ≠ some '-') (hfiles : files ≠ []) :
    Request.ofArgs ("compile".toList :: "--stdout".toList :: files) = .compile {} true files := by
  have hmain : Page.main.classifyAll ("--stdout".toList :: files) =
      .ok (.unknown "--stdout".toList :: files.map .plain) := by
    rw [Page.classifyAll, if_neg (by decide), Page.classifyAll_plain hplain]
    rfl
  have hcompile : Page.compile.classifyAll ("--stdout".toList :: files) =
      .ok (.single .stdout none :: files.map .plain) := by
    rw [Page.classifyAll, if_neg (by decide), Page.classifyAll_plain hplain]
    rfl
  refine @ofArgs_of_foldlM _ _ [.stdout] _ _ hmain hcompile ?_
  have hswitch : takeArgument .compile true {} (.single .stdout none) =
      .ok { switches := [.stdout] } := rfl
  rw [List.foldlM_cons, hswitch]
  exact foldlM_takeArgument_of_awaited rfl hfiles

end KeyMacro.Command
