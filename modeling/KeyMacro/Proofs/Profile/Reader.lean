import KeyMacro.Profile.Reader
import KeyMacro.Proofs.Payload
import KeyMacro.Proofs.Profile.Document

/-!
# Payloads read back

The profile of a macro gives back the payload of the macro (`payload?_bytes`),
provided that a document may hold all characters of the name: the name is the only
text of the profile that a script chooses freely, and it is written as it is, but
for the characters that would be taken for markup. Otherwise the profile is no XML
document at all.
-/

namespace KeyMacro.Profile

open Xml

variable {wording : List UInt8 → String}

theorem find?_uniform (fields : Fields) (tag : List Char) :
    (Xml.root rootTag (uniform fields)).children.find? (·.tag = tag) =
      (fields.lookup tag).map fun text => leaf tag (Text.unifyNewlines text) := by
  have hchildren : (Xml.root rootTag (uniform fields)).children =
      fields.map fun field => leaf field.1 (Text.unifyNewlines field.2) := by
    simp [Xml.root, uniform]
  rw [hchildren]
  clear hchildren
  induction fields with
  | nil => rfl
  | cons field fields ih =>
    rw [List.map_cons, List.find?_cons, List.lookup_cons, ih]
    by_cases h : tag = field.1
    · simp [h, leaf]
    · have h' : (leaf field.1 (Text.unifyNewlines field.2)).tag ≠ tag := Ne.symm h
      simp [h', beq_false_of_ne h]

/-- The payload of a document is the text of the payload field, but for the line
    ends. -/
theorem payload?_document {fields : Fields} (h : ∀ field ∈ fields, isName field.1 = true) :
    payload? wording (Utf8.encode (document fields)) =
      if fields.all fun field => field.2.all isChar then
        match fields.lookup payloadTag with
        | some text => .ok (Text.unifyNewlines text)
        | none => .error .noPayload
      else .error (.notXml (wording (Utf8.encode (document fields)))) := by
  rw [payload?, document?_encode h]
  cases fields.all fun field => field.2.all isChar with
  | false => rfl
  | true =>
    have hroot : (Xml.root rootTag (uniform fields)).tag = rootTag := rfl
    simp only [↓reduceIte, hroot, find?_uniform]
    cases fields.lookup payloadTag <;> rfl

/-! ## Macros -/

theorem isName_of_mem_ofMacro (m : Macro) : ∀ field ∈ ofMacro m, isName field.1 = true := by
  simp only [ofMacro, fieldsOf, List.forall_mem_cons]
  decide

theorem all_isChar_toDigits (n : Nat) : (Nat.toDigits 10 n).all isChar = true := by
  refine List.all_eq_true.2 fun c hc => isChar_of_toNat ?_
  have hd := Numeral.isDigit_of_mem_toDigits hc
  have hv : c.val.toNat = c.toNat := rfl
  have h0 : '0'.val.toNat = 48 := rfl
  have h9 : '9'.val.toNat = 57 := rfl
  simp only [Char.isDigit, Bool.and_eq_true, decide_eq_true_eq, ge_iff_le,
    UInt32.le_iff_toNat_le] at hd
  omega

theorem all_isChar_decimal (n : Int) : (Numeral.decimal n).all isChar = true := by
  rw [Numeral.decimal]
  split
  · rw [List.all_cons, all_isChar_toDigits]
    rfl
  · exact all_isChar_toDigits _

theorem all_isChar_encode (events : List Event) : (Payload.encode events).all isChar = true := by
  refine List.all_eq_true.2 fun c hc => isChar_of_toNat ?_
  have := Numeral.toNat_of_isHex (Payload.isHex_of_mem_encode hc)
  omega

/-- What is true of numerals, of payloads and of the texts that all profiles share, is true
    of all texts in the profile of a macro if and only if it is true of the name. -/
theorem forall_text_fieldsOf {α : Type} {p : α → Prop} {plain : List Char → α} {name : α}
    {defaultDelay : Int} {events : List Event}
    (hshared : ∀ text ∈ ["LaverGKey", "0", "48", "1", "2", "", "1000"], p (plain text.toList))
    (hdelay : p (plain (Numeral.decimal defaultDelay)))
    (hpayload : p (plain (Payload.encode events))) :
    (∀ field ∈ fieldsOf plain name defaultDelay events, p field.2) ↔ p name := by
  simp only [List.forall_mem_cons] at hshared
  simp only [fieldsOf, List.forall_mem_cons, hshared, hdelay, hpayload, true_and]
  exact and_iff_left (List.forall_mem_nil _)

/-- In the profile of a macro, the name alone may have characters that a document
    may not hold. -/
theorem all_isChar_ofMacro (m : Macro) :
    (ofMacro m).all (fun field => field.2.all isChar) = m.name.all isChar := by
  rw [Bool.eq_iff_iff, List.all_eq_true]
  exact @forall_text_fieldsOf _ (fun cs : List Char => cs.all isChar = true) _ _ _ _ (by decide)
    (all_isChar_decimal _) (all_isChar_encode _)

/-- The profile of a macro gives back its payload if a document may hold the
    characters of its name, and is no document otherwise. -/
theorem payload?_bytes (m : Macro) :
    payload? wording (bytes m) =
      if m.name.all isChar then .ok (Payload.encode m.events)
      else .error (.notXml (wording (bytes m))) := by
  have hlookup : (ofMacro m).lookup payloadTag = some (Payload.encode m.events) := rfl
  have hencode : Text.unifyNewlines (Payload.encode m.events) = Payload.encode m.events := by
    have hreturn : '\r' ∉ Payload.encode m.events :=
      fun h => absurd (Payload.isHex_of_mem_encode h) (by decide)
    rw [← List.append_nil (Payload.encode m.events),
      Text.unifyNewlines_append_of_notMem hreturn]
    rfl
  rw [bytes, payload?_document (isName_of_mem_ofMacro m), all_isChar_ofMacro, hlookup]
  simp only [hencode]

end KeyMacro.Profile
