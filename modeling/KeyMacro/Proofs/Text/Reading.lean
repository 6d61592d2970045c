import KeyMacro.Proofs.Text.Utf8
import KeyMacro.Text.Reading

/-!
# Files that are texts

A file is read in chunks, and these may cut a character anywhere. The bytes of a
character that is cut wait for the next chunk, so that a file which encodes a text is
read as the lines of this text, wherever the chunks end (`read_encode`). In any other
file there is a fault, whatever comes before it (`fault_read_eq_none_iff`).
-/

namespace KeyMacro.Text

open Utf8 (encode decodePrefix next?)

variable {done : List Char} {waiting left rest bytes : List UInt8}

theorem at?_eq_none_iff {position : Nat} : Utf8.Fault.at? position left = none ↔ left = [] := by
  cases left with
  | nil => simp [Utf8.Fault.at?]
  | cons lead rest =>
    rw [Utf8.Fault.at?]
    cases Utf8.Form.ofLead? lead <;> simp

/-- Bytes are decoded to a text if and only if they encode it. -/
theorem decode_eq_ok_iff {cs : List Char} : Utf8.decode bytes = .ok cs ↔ bytes = encode cs := by
  constructor
  · intro h
    rw [Utf8.decode] at h
    dsimp only at h
    split at h
    · next hnone =>
      obtain rfl := Except.ok.inj h
      have hbytes : bytes = encode (decodePrefix bytes).1 ++ (decodePrefix bytes).2 :=
        (Utf8.eq_of_decodePrefix rfl).1
      rwa [at?_eq_none_iff.1 hnone, List.append_nil] at hbytes
    · cases h
  · rintro rfl
    exact Utf8.decode_encode cs

/-- The beginning of a character may go on with the next chunk. -/
theorem mayContinue_of_encode {cs : List Char} (hnone : next? left = none)
    (h : left ++ rest = encode cs) : mayContinue left = true := by
  cases left with
  | nil => rfl
  | cons lead more =>
    cases cs with
    | nil => cases h
    | cons c cs =>
      have hnext : next? (lead :: more ++ rest) = some (c, encode cs) := by
        rw [h, Utf8.encode_cons, Utf8.next?_encodeChar]
      obtain ⟨_, form, tail, hbytes, hform, hlength, hallows, hc⟩ :=
        Utf8.next?_eq_some_iff.1 hnext
      obtain ⟨rfl, hmore⟩ := List.cons.inj hbytes
      rcases List.append_eq_append_iff.1 hmore with ⟨lost, rfl, -⟩ | ⟨after, rfl, -⟩
      · -- Some continuation bytes are lost, and the others are in order.
        have htake : more.take form.tail = more := by
          rw [List.length_append] at hlength
          exact List.take_of_length_le (by omega)
        have htail : form.tailIn more = more := by
          rw [Utf8.Form.tailIn_eq (by rw [htake]; exact hallows.of_append), htake]
        simp [mayContinue, Utf8.Fault.at?, hform, htail]
      · -- Nothing is lost, but then there is a character.
        have hsome : next? (lead :: (tail ++ after)) = some (c, after) :=
          Utf8.next?_eq_some_iff.2 ⟨lead, form, tail, rfl, hform, hlength, hallows, hc⟩
        rw [hnone] at hsome
        cases hsome

theorem eq_nil_of_encode {cs : List Char} (hnone : next? (encode cs) = none) : cs = [] := by
  cases cs with
  | nil => rfl
  | cons c cs =>
    rw [Utf8.encode_cons, Utf8.next?_encodeChar] at hnone
    cases hnone

/-- What a chunk and the bytes before it are decoded to is the beginning of the text. -/
theorem exists_of_chunk {cs all : List Char} {chunk : List UInt8}
    (hdecode : decodePrefix (waiting ++ chunk) = (cs, left))
    (h : waiting ++ (chunk ++ rest) = encode all) :
    ∃ more, all = cs ++ more ∧ left ++ rest = encode more ∧ next? left = none := by
  obtain ⟨hdata, hnone⟩ := Utf8.eq_of_decodePrefix hdecode
  rw [← List.append_assoc, hdata, List.append_assoc] at h
  obtain ⟨more, hall, hmore⟩ := Utf8.exists_of_encode_append h
  exact ⟨more, hall, hmore, hnone⟩

theorem readFrom_encode {all : List Char} (hwaiting : next? waiting = none)
    (h : waiting ++ bytes = encode all) :
    readFrom done waiting bytes = { lines := fileLines (done ++ all), fault := none } := by
  fun_induction readFrom done waiting bytes generalizing all with
  | case1 done waiting =>
    rw [List.append_nil] at h
    obtain rfl := eq_nil_of_encode (h ▸ hwaiting)
    rw [List.append_nil]
  | case2 done waiting fault hfault =>
    -- All bytes of a text have been decoded by its end.
    rw [List.append_nil] at h
    obtain rfl := eq_nil_of_encode (h ▸ hwaiting)
    rw [h] at hfault
    cases hfault
  | case3 done waiting bytes _ data cs left hdecode _ =>
    rename_i ih
    rw [← List.take_append_drop chunkSize bytes] at h
    obtain ⟨more, rfl, hmore, hnone⟩ := exists_of_chunk hdecode h
    rw [ih hnone hmore, List.append_assoc]
  | case4 done waiting bytes _ data cs left hdecode =>
    rename_i hstop
    rw [← List.take_append_drop chunkSize bytes] at h
    obtain ⟨more, -, hmore, hnone⟩ := exists_of_chunk hdecode h
    exact absurd (mayContinue_of_encode hnone hmore) hstop

/-- A file that encodes a text is read as its lines. -/
theorem read_encode (cs : List Char) :
    read (encode cs) = { lines := fileLines cs, fault := none } :=
  readFrom_encode rfl rfl

theorem exists_of_readFrom (h : (readFrom done waiting bytes).fault = none) :
    ∃ cs, waiting ++ bytes = encode cs := by
  fun_induction readFrom done waiting bytes with
  | case1 done waiting hnone => exact ⟨[], by rw [at?_eq_none_iff.1 hnone]; rfl⟩
  | case2 => cases h
  | case3 done waiting bytes _ data cs left hdecode _ ih =>
    obtain ⟨more, hmore⟩ := ih h
    refine ⟨cs ++ more, ?_⟩
    rw [Utf8.encode_append, ← hmore, ← List.append_assoc (encode cs),
      ← (Utf8.eq_of_decodePrefix hdecode).1, List.append_assoc, List.take_append_drop]
  | case4 done waiting bytes _ data cs left _ hstop =>
    obtain rfl := at?_eq_none_iff.1 h
    exact absurd rfl hstop

/-- A file is read without a fault if and only if it encodes a text. -/
theorem fault_read_eq_none_iff : (read bytes).fault = none ↔ ∃ cs, bytes = encode cs := by
  constructor
  · exact exists_of_readFrom
  · rintro ⟨cs, rfl⟩
    rw [read_encode]

end KeyMacro.Text
