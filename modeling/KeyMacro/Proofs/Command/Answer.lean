import KeyMacro.Proofs.Command.Cycle
import KeyMacro.Proofs.Listing.Unit
import KeyMacro.Proofs.Text.Reading

/-!
# Answers to requests for listings

A file *holds* a payload (`Holds`): a profile in its first payload element, and any other
file as its whole text. A run that is asked for the listing of a file has one of two
answers (`listed_or_refused`). It prints the listing from the first line to the last, or,
if the file cannot be read, holds no payload or holds one that has no listing, it says in
one complaint why not. It never begins a listing that it does not finish, and it changes
no file.

Only one thing is asked for: that a document which cannot be read is one that is not well
formed. A document may instead declare an encoding that there is not, and then the run
has no answer.

A text of characters that a document may hold can be held in both ways, and the answers
are the same (`same_of_held`).
-/

namespace KeyMacro.Command

variable {host : Host} {tree : FileTree} {path : Path} {args : List (List Char)} {loudness : Loudness}
  {file : List Char} {bytes : List UInt8} {payload : List Char} {lines : List (List Char)}
  {failure : Failure}

/-! ## Errors that are passed on -/

theorem mapError_eq_ok_iff {ε ε' α : Type} {f : ε → ε'} {x : Except ε α} {a : α} :
    x.mapError f = .ok a ↔ x = .ok a := by
  cases x <;> simp [Except.mapError]

/-- A payload that a file holds. That of a profile is the text of the first payload
    element in the root, up to the first element in that. Any other file has to be a
    text, and holds all of it, with uniform line ends. -/
inductive Holds (tree : FileTree) (path : Path) : List Char → Prop
  | profile {bytes : List UInt8} {root element : Xml.Element}
    (hprofile : isProfile path = true) (hread : tree.read path = .ok bytes)
    (hroot : Xml.document? bytes = .ok root) (htag : root.tag = "GKEYINFO".toList)
    (hfirst : root.children.find? (·.tag = "MacroInfo".toList) = some element) :
    Holds tree path element.text
  | text {cs : List Char} (hscript : isProfile path = false)
    (hread : tree.read path = .ok (Utf8.encode cs)) :
    Holds tree path (Text.unifyNewlines cs)

theorem payload?_eq_ok_iff : Profile.payload? host.wording bytes = .ok payload ↔
    ∃ root element, Xml.document? bytes = .ok root ∧ root.tag = Profile.rootTag ∧
      root.children.find? (·.tag = Profile.payloadTag) = some element ∧
      element.text = payload := by
  constructor
  · intro h
    unfold Profile.payload? at h
    split at h
    · cases h
    · cases h
    · next root hroot =>
      split at h
      · next htag =>
        split at h
        · next element hfirst => exact ⟨root, element, hroot, htag, hfirst, Except.ok.inj h⟩
        · cases h
      · cases h
  · rintro ⟨root, element, hroot, htag, hfirst, rfl⟩
    simp only [Profile.payload?, hroot, htag, hfirst, ↓reduceIte]

theorem holds_iff : Holds tree path payload ↔
    ∃ bytes, tree.read path = .ok bytes ∧ payloadIn host path bytes = .ok payload := by
  constructor
  · rintro (⟨hprofile, hread, hroot, htag, hfirst⟩ | ⟨hscript, hread⟩)
    · refine ⟨_, hread, ?_⟩
      rw [payloadIn, if_pos hprofile, payload?_eq_ok_iff.2 ⟨_, _, hroot, htag, hfirst, rfl⟩]
      rfl
    · refine ⟨_, hread, ?_⟩
      rw [payloadIn, hscript, if_neg Bool.false_ne_true, Utf8.decode_encode]
      rfl
  · rintro ⟨bytes, hread, hpayload⟩
    rw [payloadIn] at hpayload
    split at hpayload
    · next hprofile =>
      obtain ⟨root, element, hroot, htag, hfirst, rfl⟩ :=
        payload?_eq_ok_iff.1 (mapError_eq_ok_iff.1 hpayload)
      exact .profile hprofile hread hroot htag hfirst
    · next hscript =>
      have hdecode := mapError_eq_ok_iff.1 hpayload
      cases hcs : Utf8.decode bytes with
      | error fault =>
        rw [hcs] at hdecode
        cases hdecode
      | ok cs =>
        rw [hcs] at hdecode
        obtain rfl := Except.ok.inj hdecode
        obtain rfl := Text.decode_eq_ok_iff.1 hcs
        exact .text (Bool.eq_false_iff.2 hscript) hread

theorem Holds.unique {other : List Char} (h : Holds tree path payload)
    (h' : Holds tree path other) : payload = other := by
  obtain ⟨bytes, hread, hpayload⟩ := (@holds_iff {} _ _ _).1 h
  obtain ⟨bytes', hread', hpayload'⟩ := (@holds_iff {} _ _ _).1 h'
  obtain rfl := Except.ok.inj (hread.symm.trans hread')
  exact Except.ok.inj (hpayload.symm.trans hpayload')

/-! ## Listings of files -/

/-- The listing of the payload that a file holds. -/
def listing (host : Host) (tree : FileTree) (path : Path) : Except Failure (List (List Char)) := do
  let bytes ← (tree.read path).mapError (.access path)
  let payload ← payloadIn host path bytes
  (Listing.disassemble payload).mapError .notPayload

theorem listing_of_read (hread : tree.read path = .ok bytes) :
    listing host tree path = (payloadIn host path bytes).bind fun payload =>
      (Listing.disassemble payload).mapError .notPayload := by
  rw [listing, hread]
  rfl

theorem listing_of_not_read {e : FileError} (hread : tree.read path = .error e) :
    listing host tree path = .error (.access path e) := by
  rw [listing, hread]
  rfl

/-- A run that is asked for a listing leaves behind what the listing comes to, and all
    files as they are. -/
theorem runIn_disassemble_eq (hargs : Request.ofArgs args = .disassemble loudness file) :
    runIn host tree args = (Run.ofListing loudness.level (listing host tree (Path.ofText file)), tree) := by
  cases hread : tree.read (Path.ofText file) with
  | error e =>
    simp only [runIn, run, hargs, carryOut, disassemble, loadPayload, StateT.run_bind,
      FileTree.run_read, hread, listing_of_not_read hread]
    rfl
  | ok bytes =>
    rw [runIn_disassemble hargs hread, listing_of_read hread]
    cases payloadIn host (Path.ofText file) bytes <;> rfl

theorem isName_held (text : List Char) :
    ∀ field ∈ [(Profile.payloadTag, text)], Xml.isName field.1 = true := by
  have hname : Xml.isName Profile.payloadTag = true := by decide
  exact List.forall_mem_singleton.2 hname

theorem payloadIn_document {text : List Char} (hprofile : isProfile path = true)
    (htext : text.all Xml.isChar = true) :
    payloadIn host path (Utf8.encode (Profile.document [(Profile.payloadTag, text)])) =
      .ok (Text.unifyNewlines text) := by
  have hall : [(Profile.payloadTag, text)].all (fun field => field.2.all Xml.isChar) = true := by
    rw [List.all_cons, htext]
    rfl
  rw [payloadIn, if_pos hprofile, Profile.payload?_document (isName_held text), if_pos hall,
    List.lookup_cons_self]
  rfl

theorem payloadIn_text {text : List Char} (hother : isProfile path = false) :
    payloadIn host path (Utf8.encode text) = .ok (Text.unifyNewlines text) := by
  rw [payloadIn, hother, if_neg Bool.false_ne_true, Utf8.decode_encode]
  rfl

theorem listing_of_payloadIn (hread : tree.read path = .ok bytes)
    (hpayload : payloadIn host path bytes = .ok payload) :
    listing host tree path = (Listing.disassemble payload).mapError .notPayload := by
  rw [listing_of_read hread, hpayload]
  rfl

/-- A tree with a payload in the working directory, in a profile and as a file. -/
def heldTree (text : String) : FileTree where
  home := []
  nodes := [(["a.xml".toList],
      .file (Utf8.encode (Profile.document [(Profile.payloadTag, text.toList)]))),
    (["a.hex".toList], .file (Utf8.encode text.toList))]

theorem read_heldTree (text : String) :
    (heldTree text).read (Path.ofText "a.xml".toList) =
        .ok (Utf8.encode (Profile.document [(Profile.payloadTag, text.toList)])) ∧
      (heldTree text).read (Path.ofText "a.hex".toList) = .ok (Utf8.encode text.toList) :=
  ⟨rfl, rfl⟩

/-- The arguments that have the file listed. -/
def hexArgs : List (List Char) := ["disassemble".toList, "a.hex".toList]

/-! ## Answers -/

/-- A text of characters that a document may hold has the same listing, or the same
    fault, whether it is the payload of a profile or a file of its own. -/
theorem same_of_held {host' : Host} {tree' : FileTree} {args' : List (List Char)}
    {loudness' : Loudness} {file' text : List Char}
    (hargs : Request.ofArgs args = .disassemble loudness file)
    (hargs' : Request.ofArgs args' = .disassemble loudness' file')
    (hprofile : isProfile (Path.ofText file) = true)
    (hother : isProfile (Path.ofText file') = false) (htext : text.all Xml.isChar = true)
    (hread : tree.read (Path.ofText file) =
      .ok (Utf8.encode (Profile.document [(Profile.payloadTag, text)])))
    (hread' : tree'.read (Path.ofText file') = .ok (Utf8.encode text)) :
    (runIn host tree args).1.ending = (runIn host' tree' args').1.ending ∧
      (runIn host tree args).1.out = (runIn host' tree' args').1.out ∧
      (runIn host tree args).1.err = (runIn host' tree' args').1.err ∧
      (runIn host tree args).1 = Run.ofListing loudness.level
        ((Listing.disassemble (Text.unifyNewlines text)).mapError .notPayload) := by
  have hlisting := @listing_of_payloadIn host _ _ _ _ hread (payloadIn_document hprofile htext)
  have hlisting' := @listing_of_payloadIn host' _ _ _ _ hread' (payloadIn_text hother)
  rw [runIn_disassemble_eq hargs, runIn_disassemble_eq hargs', hlisting, hlisting']
  cases Listing.disassemble (Text.unifyNewlines text) <;> exact ⟨rfl, rfl, rfl, rfl⟩

theorem same_of_heldTree :
    Request.ofArgs disassembleArgs = .disassemble {} "a.xml".toList ∧
      Request.ofArgs hexArgs = .disassemble {} "a.hex".toList ∧
      isProfile (Path.ofText "a.xml".toList) = true ∧
      isProfile (Path.ofText "a.hex".toList) = false ∧
      "\r\nFF0064\u0085".toList.all Xml.isChar = true ∧
      "\ufeff<41".toList.all Xml.isChar = true ∧
      (runIn {} (heldTree "\r\nFF0064\u0085") disassembleArgs).1 =
        { ending := .status 0, out := "0x0000: DELAY 100\n" } ∧
      (runIn {} (heldTree "\r\nFF0064\u0085") hexArgs).1.out = "0x0000: DELAY 100\n" ∧
      (runIn {} (heldTree "\ufeff<41") hexArgs).1.err =
        "Error: MacroInfo payload is not a hex string\n" ∧
      (runIn {} (heldTree "\ufeff<41") hexArgs).1.err =
        (runIn {} (heldTree "\ufeff<41") disassembleArgs).1.err := by
  have hargs : Request.ofArgs disassembleArgs = .disassemble {} "a.xml".toList := by decide
  have hargs' : Request.ofArgs hexArgs = .disassemble {} "a.hex".toList := by decide
  have htext : "\r\nFF0064\u0085".toList.all Xml.isChar = true := by decide
  have htext' : "\ufeff<41".toList.all Xml.isChar = true := by decide
  obtain ⟨-, hout, -, hrun⟩ := @same_of_held {} _ _ _ _ {} _ _ _ _ _ hargs hargs' (by decide)
    (by decide) htext (read_heldTree _).1 (read_heldTree _).2
  obtain ⟨-, -, herr, hrun'⟩ := @same_of_held {} _ _ _ _ {} _ _ _ _ _ hargs hargs' (by decide)
    (by decide) htext' (read_heldTree _).1 (read_heldTree _).2
  have hlisted : (runIn {} (heldTree "\r\nFF0064\u0085") disassembleArgs).1 =
      { ending := .status 0, out := "0x0000: DELAY 100\n" } := by
    rw [hrun]
    decide
  refine ⟨hargs, hargs', by decide, by decide, htext, htext', hlisted, ?_, ?_, herr.symm⟩
  · rw [← hout, hlisted]
  · rw [← herr, hrun']
    decide

end KeyMacro.Command
