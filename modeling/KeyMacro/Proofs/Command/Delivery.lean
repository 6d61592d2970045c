import KeyMacro.Proofs.Command.Compile
import KeyMacro.Proofs.File.Location

/-!
# Deliveries

What a script comes to is a *delivery*: a macro, and the location where its profile
is put (`delivery?`). Profiles and inputs that fail have none.

Other inputs may be compiled before a script is. This changes the tree, but only in
files with the names of profiles (`SameScripts`). None of these is read as a script,
and no path leads through one of them. So the delivery of an input is the one that it
has in the tree at the beginning, whatever is delivered before
(`SameScripts.delivery?_eq`).
-/

namespace KeyMacro.Command

variable {host : Host} {tree middle next : FileTree} {input output : Path} {place : Location}

/-! ## Trees with the same scripts -/

/-- Whether a location has the name of a profile. -/
def isProfilePlace (place : Location) : Bool := isProfile ⟨1, place⟩

/-- Whether two trees differ in files with the names of profiles at most. -/
structure SameScripts (tree next : FileTree) : Prop where
  home : next.home = tree.home
  directory (place : Location) :
    next.node? place = some .directory ↔ tree.node? place = some .directory
  script (place : Location) : isProfilePlace place = false → next.node? place = tree.node? place

namespace SameScripts

theorem refl (tree : FileTree) : SameScripts tree tree := ⟨rfl, fun _ => .rfl, fun _ _ => rfl⟩

theorem symm (h : SameScripts tree next) : SameScripts next tree where
  home := h.home.symm
  directory place := (h.directory place).symm
  script place hplace := (h.script place hplace).symm

theorem trans (h : SameScripts tree middle) (h' : SameScripts middle next) :
    SameScripts tree next where
  home := h'.home.trans h.home
  directory place := (h'.directory place).trans (h.directory place)
  script place hplace := (h'.script place hplace).trans (h.script place hplace)

/-- A file with the name of a profile makes no difference. -/
theorem put {bytes : List UInt8} (hplace : tree.node? place ≠ some .directory)
    (hprofile : isProfilePlace place = true) :
    SameScripts tree (tree.put place (.file bytes)) where
  home := FileTree.home_put
  directory around := by
    by_cases he : around = place
    · rw [he, FileTree.node?_put_self hplace]
      simp [hplace]
    · rw [FileTree.node?_put_of_ne he]
  script other hother := by
    refine FileTree.node?_put_of_ne ?_
    rintro rfl
    rw [hprofile] at hother
    cases hother

theorem locate_eq_ok_iff {path : Path} (h : SameScripts tree next) :
    next.locate path = .ok place ↔ tree.locate path = .ok place :=
  ⟨FileTree.locate_mono h.home.symm fun around => (h.directory around).1,
    FileTree.locate_mono h.home fun around => (h.directory around).2⟩

/-- What a path leads to that is not the path of a profile is the same. -/
theorem node?_eq_of_locate {path : Path} {bytes : List UInt8} (h : SameScripts tree next)
    (hscript : isProfile path = false) (hlocate : tree.locate path = .ok place)
    (hfile : tree.node? place = some (.file bytes)) : next.node? place = tree.node? place := by
  refine h.script place ?_
  have hplace : tree.node? place ≠ some .directory := by simp [hfile]
  rw [isProfilePlace, isProfile_congr (FileTree.getLast?_of_locate hlocate hplace), hscript]

theorem read_eq_ok {path : Path} {bytes : List UInt8} (h : SameScripts tree next)
    (hscript : isProfile path = false) (hread : tree.read path = .ok bytes) :
    next.read path = .ok bytes := by
  obtain ⟨place, hlocate, hfile⟩ := FileTree.read_eq_ok_iff.1 hread
  refine FileTree.read_eq_ok_iff.2 ⟨place, h.locate_eq_ok_iff.2 hlocate, ?_⟩
  rw [h.node?_eq_of_locate hscript hlocate hfile, hfile]

/-- Scripts hold the same. -/
theorem read_eq_ok_iff {path : Path} {bytes : List UInt8} (h : SameScripts tree next)
    (hscript : isProfile path = false) :
    next.read path = .ok bytes ↔ tree.read path = .ok bytes :=
  ⟨h.symm.read_eq_ok hscript, h.read_eq_ok hscript⟩

end SameScripts

/-! ## Deliveries -/

/-- A macro whose profile is put at a location, to which the path of the profile
    leads. -/
structure Delivery where
  made : Macro
  output : Path
  place : Location
  deriving DecidableEq, Repr

/-- What an input delivers if it is compiled in a tree. -/
def delivery? (tree : FileTree) (input : Path) : Option Delivery :=
  if isProfile input then none
  else do
    let output ← input.withSuffix? profileSuffix
    let bytes ← (tree.read input).toOption
    let made ← (Script.compileFile bytes).2.toOption
    let place ← (tree.locate output).toOption
    if tree.node? place = some .directory then none else some { made, output, place }

theorem toOption_eq_some_iff {ε α : Type} {x : Except ε α} {a : α} :
    x.toOption = some a ↔ x = .ok a := by
  cases x <;> simp [Except.toOption]

theorem delivery?_eq_some_iff {delivery : Delivery} : delivery? tree input = some delivery ↔
    isProfile input = false ∧ input.withSuffix? profileSuffix = some delivery.output ∧
      (∃ bytes, tree.read input = .ok bytes ∧
        (Script.compileFile bytes).2 = .ok delivery.made) ∧
      tree.locate delivery.output = .ok delivery.place ∧
      tree.node? delivery.place ≠ some .directory := by
  obtain ⟨made, output, place⟩ := delivery
  simp only [delivery?, Option.ite_none_left_eq_some, Bool.not_eq_true, bind,
    Option.bind_eq_some_iff, toOption_eq_some_iff, Option.some.injEq, Delivery.mk.injEq]
  constructor
  · rintro ⟨hscript, _, hout, bytes, hread, _, hmade, _, hlocate, hplace, rfl, rfl, rfl⟩
    exact ⟨hscript, hout, ⟨bytes, hread, hmade⟩, hlocate, hplace⟩
  · rintro ⟨hscript, hout, ⟨bytes, hread, hmade⟩, hlocate, hplace⟩
    exact ⟨hscript, _, hout, bytes, hread, _, hmade, _, hlocate, hplace, rfl, rfl, rfl⟩

section Place

variable {delivery : Delivery} (h : delivery? tree input = some delivery)
include h

theorem locate_of_delivery : tree.locate delivery.output = .ok delivery.place :=
  (delivery?_eq_some_iff.1 h).2.2.2.1

theorem node?_ne_of_delivery : tree.node? delivery.place ≠ some .directory :=
  (delivery?_eq_some_iff.1 h).2.2.2.2

/-- Deliveries are put at locations with the names of profiles. -/
theorem isProfilePlace_of_delivery (hplain : input.IsPlain) :
    isProfilePlace delivery.place = true := by
  have hout := (delivery?_eq_some_iff.1 h).2.1
  have hlast := FileTree.getLast?_of_locate (locate_of_delivery h) (node?_ne_of_delivery h)
  rw [isProfilePlace, isProfile_congr hlast, isProfile_withSuffix? hplain hout]

end Place

/-- What is delivered before makes no difference to a delivery. -/
theorem SameScripts.delivery?_eq (h : SameScripts tree next) (input : Path) :
    delivery? next input = delivery? tree input := by
  ext delivery
  rw [delivery?_eq_some_iff, delivery?_eq_some_iff]
  refine and_congr_right fun hscript => and_congr_right fun _ => and_congr ?_ (and_congr ?_ ?_)
  · simp only [h.read_eq_ok_iff hscript]
  · exact h.locate_eq_ok_iff
  · exact not_congr (h.directory delivery.place)

/-! ## One input -/

theorem run_compileInput_skipped {print : Bool} (h : differOnlyInCase output input = true) :
    (compileInput FileTree.files host print input output).run tree =
      pure ({ input, notes := [], outcome := .skipped }, tree) := by
  rw [compileInput, if_pos h]
  rfl

theorem compileInput_compiled {print : Bool} (h : differOnlyInCase output input = false) :
    compileInput FileTree.files host print input output =
      compileScript FileTree.files host print input output := by
  rw [compileInput, if_neg (by simp [h])]

/-- What an input may come to: it is skipped, or what compiling it comes to. -/
theorem compileInput_cases {print : Bool} {result : Result}
    (h : (compileInput FileTree.files host print input output).run tree = pure (result, next)) :
    (differOnlyInCase output input = true ∧
        result = { input, notes := [], outcome := .skipped } ∧ next = tree) ∨
      (differOnlyInCase output input = false ∧
        Compiling host print tree input output (result, next)) := by
  cases hskip : differOnlyInCase output input with
  | true =>
    rw [run_compileInput_skipped hskip] at h
    obtain ⟨rfl, rfl⟩ := Prod.mk.inj h
    exact .inl ⟨rfl, rfl, rfl⟩
  | false =>
    have hcompiling := compileScript_compiling host print tree input output
    rw [← compileInput_compiled hskip, h] at hcompiling
    exact .inr ⟨rfl, hcompiling⟩

/-- An input is skipped if it is a profile by its name, and compiled if not. -/
theorem compileInput_cases_isProfile {print : Bool} {result : Result}
    (hout : input.withSuffix? profileSuffix = some output)
    (h : (compileInput FileTree.files host print input output).run tree = pure (result, next)) :
    (isProfile input = true ∧ result = { input, notes := [], outcome := .skipped } ∧
        next = tree) ∨
      (isProfile input = false ∧ Compiling host print tree input output (result, next)) := by
  rw [← differOnlyInCase_eq_isProfile hout]
  exact compileInput_cases h

/-- What an input may come to where profiles are written: what is said, and the tree
    afterwards. -/
inductive Handling (host : Host) (tree : FileTree) (input : Path) : Result → FileTree → Prop
  | skipped {notes : List Note} (hprofile : isProfile input = true) :
    Handling host tree input { input, notes, outcome := .skipped } tree
  | failed {notes : List Note} {cause : Failure} (hscript : isProfile input = false)
    (hnone : delivery? tree input = none) :
    Handling host tree input { input, notes, outcome := .failed cause } tree
  | delivered {notes : List Note} {delivery : Delivery}
    (hsome : delivery? tree input = some delivery) :
    Handling host tree input
      { input, notes, outcome := report host input delivery.output delivery.made }
      (tree.put delivery.place (.file (Profile.bytes delivery.made)))

theorem getLast?_of_withSuffix? (hout : input.withSuffix? profileSuffix = some output) :
    output.names.getLast? ≠ some [] := by
  obtain ⟨name, -, rfl⟩ := Path.withSuffix?_eq_some_iff.1 hout
  simp [profileSuffix]

/-- A script is delivered or fails. -/
theorem Compiling.handling {result : Result} (hscript : isProfile input = false)
    (hout : input.withSuffix? profileSuffix = some output)
    (h : Compiling host false tree input output (result, next)) :
    Handling host tree input result next := by
  have hlast := getLast?_of_withSuffix? hout
  cases h with
  | unreadable hread =>
    refine .failed hscript (Option.eq_none_iff_forall_ne_some.2 fun delivery hd => ?_)
    obtain ⟨-, -, ⟨bytes, hread', -⟩, -⟩ := delivery?_eq_some_iff.1 hd
    rw [hread] at hread'
    cases hread'
  | notText hread hcompile =>
    refine .failed hscript (Option.eq_none_iff_forall_ne_some.2 fun delivery hd => ?_)
    obtain ⟨-, -, ⟨bytes, hread', hmade⟩, -⟩ := delivery?_eq_some_iff.1 hd
    obtain rfl := Except.ok.inj (hread.symm.trans hread')
    rw [hcompile] at hmade
    cases hmade
  | printed _ _ hprint => cases hprint
  | unwritable hread hcompile _ hwrite =>
    refine .failed hscript (Option.eq_none_iff_forall_ne_some.2 fun delivery hd => ?_)
    obtain ⟨-, hout', -, hlocate, hplace⟩ := delivery?_eq_some_iff.1 hd
    obtain rfl := Option.some.inj (hout.symm.trans hout')
    rw [← FileTree.locateOutput_eq hlast] at hlocate
    obtain ⟨later, hwrite'⟩ := (FileTree.admits_iff _).1 ⟨delivery.place, hlocate, hplace⟩
    rw [hwrite] at hwrite'
    cases hwrite'
  | @written bytes notes made _ hread hcompile _ hwrite =>
    obtain ⟨place, hlocate, hplace, rfl⟩ := FileTree.write_eq_ok_iff.1 hwrite
    rw [FileTree.locateOutput_eq hlast] at hlocate
    have hd : delivery? tree input = some ⟨made, output, place⟩ :=
      delivery?_eq_some_iff.2 ⟨hscript, hout, ⟨bytes, hread, by rw [hcompile]⟩, hlocate, hplace⟩
    exact @Handling.delivered host tree input _ ⟨made, output, place⟩ hd

/-- An input is skipped, fails or is delivered. -/
theorem handling_of_compileInput {result : Result}
    (hout : input.withSuffix? profileSuffix = some output)
    (h : (compileInput FileTree.files host false input output).run tree = pure (result, next)) :
    Handling host tree input result next := by
  rcases compileInput_cases_isProfile hout h with ⟨hprofile, rfl, rfl⟩ | ⟨hscript, hcompiling⟩
  · exact .skipped hprofile
  · exact hcompiling.handling hscript hout

/-! ## Profiles that are written -/

/-- The profile that has been written for an input, reported or not: its macro, and the path
    where it has been written. -/
def Result.profile? (result : Result) : Option (Macro × Path) :=
  match result.outcome with
  | .written made output => some (made, output)
  | .unreported made output _ => some (made, output)
  | .skipped => none
  | .printed _ => none
  | .failed _ => none

theorem profile?_report (notes : List Note) (made : Macro) :
    Result.profile? { input, notes, outcome := report host input output made } =
      some (made, output) := by
  rw [report]
  split <;> rfl

/-- The tree is changed only if a profile is written. -/
theorem eq_of_not_written {print : Bool} {result : Result}
    (h : (compileInput FileTree.files host print input output).run tree = pure (result, next))
    (hnot : result.profile? = none) : next = tree := by
  rcases compileInput_cases h with ⟨-, -, rfl⟩ | ⟨-, hcompiling⟩
  · rfl
  · cases hcompiling with
    | written =>
      rw [profile?_report] at hnot
      cases hnot
    | _ => rfl

/-- A profile is written where profiles are, and at the path that is given for it. Then there
    is nothing else to do but to report it. -/
theorem eq_of_written {print : Bool} {result : Result} {made : Macro} {path : Path}
    (h : (compileInput FileTree.files host print input output).run tree = pure (result, next))
    (hwritten : result.profile? = some (made, path)) :
    print = false ∧ path = output ∧ result.outcome = report host input output made := by
  rcases compileInput_cases h with ⟨-, rfl, -⟩ | ⟨-, hcompiling⟩
  · cases hwritten
  · cases hcompiling with
    | written _ _ hprint =>
      rw [profile?_report] at hwritten
      cases hwritten
      exact ⟨hprint, rfl, rfl⟩
    | _ => cases hwritten

/-- Where profiles are printed, the tree is left as it is. -/
theorem kept_of_print {result : Result}
    (h : (compileInput FileTree.files host true input output).run tree = pure (result, next)) :
    result.profile? = none ∧ next = tree := by
  have hnone : result.profile? = none := by
    rw [Option.eq_none_iff_forall_ne_some]
    intro profile hwritten
    cases (eq_of_written h hwritten).1
  exact ⟨hnone, eq_of_not_written h hnone⟩

theorem input_of_compileInput {print : Bool} {result : Result}
    (h : (compileInput FileTree.files host print input output).run tree = pure (result, next)) :
    result.input = input := by
  rcases compileInput_cases h with ⟨-, rfl, -⟩ | ⟨-, hcompiling⟩
  · rfl
  · cases hcompiling <;> rfl

/-- An input leaves all scripts as they are. -/
theorem sameScripts_of_compileInput {print : Bool} {result : Result} (hplain : input.IsPlain)
    (hout : input.withSuffix? profileSuffix = some output)
    (h : (compileInput FileTree.files host print input output).run tree = pure (result, next)) :
    SameScripts tree next := by
  cases print with
  | true =>
    exact (kept_of_print h).2 ▸ .refl tree
  | false =>
    cases handling_of_compileInput hout h with
    | skipped => exact .refl tree
    | failed => exact .refl tree
    | delivered hsome =>
      exact .put (node?_ne_of_delivery hsome) (isProfilePlace_of_delivery hsome hplain)

end KeyMacro.Command
