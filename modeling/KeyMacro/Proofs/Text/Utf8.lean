import Mathlib.Data.List.Basic
import Mathlib.Data.List.TakeWhile
import KeyMacro.Text.Utf8

/-!
# UTF-8 read back

What is encoded is decoded to what it was (`decode_encode`). A character is read
back whatever stands behind it (`next?_encodeChar`): its lead byte tells how many
continuation bytes there are, and the bounds of the first of them, which leave out
longer forms, surrogates and numbers above U+10FFFF, are never in the way.

Nor is anything else decoded: the bytes of a character are those that it is encoded by
(`eq_of_next?`), so that a row of bytes is a text with no fault in it exactly if it
encodes one.
-/

namespace KeyMacro.Utf8

/-! ## Continuation bytes -/

/-- The continuation byte that holds the last six bits of a number. -/
def tailByte (n : Nat) : UInt8 := UInt8.ofNat (n % 0x40 + 0x80)

theorem toNat_tailByte (n : Nat) : (tailByte n).toNat = n % 64 + 128 := by
  rw [tailByte, UInt8.toNat_ofNat']
  omega

theorem isTail_tailByte (n : Nat) : isTail (tailByte n) = true := by
  have := toNat_tailByte n
  have hlow : (0x80 : UInt8).toNat = 128 := rfl
  have hhigh : (0xBF : UInt8).toNat = 191 := rfl
  simp only [isTail, Bool.and_eq_true, decide_eq_true_eq, UInt8.le_iff_toNat_le]
  omega

theorem isTail_of_mem_map {ns : List Nat} {b : UInt8} (h : b ∈ ns.map tailByte) :
    isTail b = true := by
  obtain ⟨n, -, rfl⟩ := List.mem_map.1 h
  exact isTail_tailByte n

/-- A lead byte with the continuation bytes that it asks for is a character. -/
theorem next?_form {lead : UInt8} {form : Form} {tail : List UInt8} (rest : List UInt8)
    (hform : Form.ofLead? lead = some form) (hlength : tail.length = form.tail)
    (hfirst : ∀ b ∈ tail.head?, form.low ≤ b ∧ b ≤ form.high)
    (htail : ∀ b ∈ tail, isTail b = true) :
    next? (lead :: (tail ++ rest)) = some (form.char tail, rest) := by
  -- As many bytes are taken as are asked for, and none of them is left out.
  have hin : form.tailIn (tail ++ rest) = tail := by
    rw [Form.tailIn, List.take_left' hlength]
    cases tail with
    | nil => rfl
    | cons b more =>
      have hb := hfirst b rfl
      have hmore : more.takeWhile isTail = more :=
        List.takeWhile_eq_self_iff.2 fun d hd => htail d (List.mem_cons_of_mem _ hd)
      simp [hb, hmore]
  rw [next?, hform]
  simp [hin, hlength, List.drop_left' hlength]

/-! ## Lead bytes -/

theorem toNat_ofNat {n : Nat} (h : n < 256) : (UInt8.ofNat n).toNat = n := by
  rw [UInt8.toNat_ofNat', Nat.mod_eq_of_lt h]

theorem ofLead?_one {n : Nat} (h : n < 0x80) :
    Form.ofLead? (UInt8.ofNat n) = some { bits := n, tail := 0 } := by
  rw [Form.ofLead?, toNat_ofNat (by omega), if_pos h]

theorem ofLead?_two {n : Nat} (h : 2 ≤ n ∧ n < 0x20) :
    Form.ofLead? (UInt8.ofNat (n + 0xC0)) = some { bits := n, tail := 1 } := by
  have hbits : (n + 0xC0) % 32 = n := by omega
  rw [Form.ofLead?, toNat_ofNat (by omega), if_neg (by omega), if_neg (by omega),
    if_pos (by omega), hbits]

/-- The form of a character of three bytes, given the bits in its lead byte. -/
def Form.three (n : Nat) : Form where
  bits := n
  tail := 2
  low := if n = 0 then 0xA0 else 0x80
  high := if n = 0xD then 0x9F else 0xBF

theorem ofLead?_three {n : Nat} (h : n < 0x10) :
    Form.ofLead? (UInt8.ofNat (n + 0xE0)) = some (.three n) := by
  have hbits : (n + 0xE0) % 16 = n := by omega
  rw [Form.ofLead?, toNat_ofNat (by omega), if_neg (by omega), if_neg (by omega),
    if_neg (by omega), hbits, Form.three]
  by_cases h0 : n = 0
  · simp [h0]
  by_cases hD : n = 0xD
  · simp [hD]
  rw [if_neg (by omega), if_neg (by omega), if_pos (by omega), if_neg h0, if_neg hD]

/-- The form of a character of four bytes, given the bits in its lead byte. -/
def Form.four (n : Nat) : Form where
  bits := n
  tail := 3
  low := if n = 0 then 0x90 else 0x80
  high := if n = 4 then 0x8F else 0xBF

theorem ofLead?_four {n : Nat} (h : n < 5) :
    Form.ofLead? (UInt8.ofNat (n + 0xF0)) = some (.four n) := by
  have hbits : (n + 0xF0) % 8 = n := by omega
  rw [Form.ofLead?, toNat_ofNat (by omega), if_neg (by omega), if_neg (by omega),
    if_neg (by omega), if_neg (by omega), if_neg (by omega), if_neg (by omega), hbits, Form.four]
  by_cases h0 : n = 0
  · simp [h0]
  by_cases h4 : n = 4
  · simp [h4]
  rw [if_neg (by omega), if_pos (by omega), if_neg h0, if_neg h4]

/-! ## Characters -/

/-- The numbers of characters leave out the surrogates. -/
theorem toNat_range (c : Char) : c.toNat < 0xD800 ∨ 0xDFFF < c.toNat ∧ c.toNat < 0x110000 :=
  c.valid

theorem encodeChar_eq (c : Char) : String.utf8EncodeChar c =
    if c.toNat ≤ 0x7F then [UInt8.ofNat c.toNat]
    else if c.toNat ≤ 0x7FF then
      [UInt8.ofNat (c.toNat / 64 % 0x20 + 0xC0), tailByte c.toNat]
    else if c.toNat ≤ 0xFFFF then
      [UInt8.ofNat (c.toNat / 4096 % 0x10 + 0xE0), tailByte (c.toNat / 64), tailByte c.toNat]
    else
      [UInt8.ofNat (c.toNat / 262144 % 0x08 + 0xF0), tailByte (c.toNat / 4096),
        tailByte (c.toNat / 64), tailByte c.toNat] := rfl

/-- A lead byte and continuation bytes are the character of the number that they
    make up. -/
theorem next?_number {c : Char} {lead : UInt8} {form : Form} (ns : List Nat)
    (rest : List UInt8) (hform : Form.ofLead? lead = some form) (hlength : ns.length = form.tail)
    (hfirst : ∀ n ∈ ns.head?, form.low ≤ tailByte n ∧ tailByte n ≤ form.high)
    (hnumber : ns.foldl (fun k n => 64 * k + n % 64) form.bits = c.toNat) :
    next? (lead :: (ns.map tailByte ++ rest)) = some (c, rest) := by
  have hchar : form.char (ns.map tailByte) = c := by
    have six (n : Nat) : (n % 64 + 128) % 64 = n % 64 := by omega
    simp only [Form.char, List.foldl_map, toNat_tailByte, six, hnumber, Char.ofNat_toNat]
  rw [next?_form rest hform (by simpa using hlength) _ fun b => isTail_of_mem_map, hchar]
  cases ns with
  | nil => simp
  | cons n ns => simpa using hfirst

theorem tailByte_bounds (n : Nat) : 0x80 ≤ tailByte n ∧ tailByte n ≤ 0xBF := by
  simpa [isTail] using isTail_tailByte n

theorem le_tailByte {low : UInt8} {n : Nat} (bound : Nat) (hlow : low.toNat = bound)
    (h : bound ≤ n % 64 + 128) : low ≤ tailByte n := by
  rw [UInt8.le_iff_toNat_le, toNat_tailByte, hlow]
  exact h

theorem tailByte_le {high : UInt8} {n : Nat} (bound : Nat) (hhigh : high.toNat = bound)
    (h : n % 64 + 128 ≤ bound) : tailByte n ≤ high := by
  rw [UInt8.le_iff_toNat_le, toNat_tailByte, hhigh]
  exact h

/-- The first continuation byte of three bytes is in bounds: the character has no
    shorter form and is no surrogate. -/
theorem three_bounds {v : Nat} (h : 0x800 ≤ v ∧ v < 0x10000) (hs : v < 0xD800 ∨ 0xDFFF < v) :
    (Form.three (v / 4096 % 0x10)).low ≤ tailByte (v / 64) ∧
      tailByte (v / 64) ≤ (Form.three (v / 4096 % 0x10)).high := by
  constructor
  · show (if v / 4096 % 0x10 = 0 then 0xA0 else 0x80) ≤ _
    split
    · exact le_tailByte 0xA0 rfl (by omega)
    · exact (tailByte_bounds _).1
  · show _ ≤ (if v / 4096 % 0x10 = 0xD then 0x9F else 0xBF)
    split
    · exact tailByte_le 0x9F rfl (by omega)
    · exact (tailByte_bounds _).2

/-- The first continuation byte of four bytes is in bounds: the character has no
    shorter form and is none above U+10FFFF. -/
theorem four_bounds {v : Nat} (h : 0x10000 ≤ v ∧ v < 0x110000) :
    (Form.four (v / 262144 % 0x08)).low ≤ tailByte (v / 4096) ∧
      tailByte (v / 4096) ≤ (Form.four (v / 262144 % 0x08)).high := by
  constructor
  · show (if v / 262144 % 0x08 = 0 then 0x90 else 0x80) ≤ _
    split
    · exact le_tailByte 0x90 rfl (by omega)
    · exact (tailByte_bounds _).1
  · show _ ≤ (if v / 262144 % 0x08 = 4 then 0x8F else 0xBF)
    split
    · exact tailByte_le 0x8F rfl (by omega)
    · exact (tailByte_bounds _).2

/-- A character is read back, whatever stands behind it. -/
theorem next?_encodeChar (c : Char) (rest : List UInt8) :
    next? (String.utf8EncodeChar c ++ rest) = some (c, rest) := by
  have hc := toNat_range c
  rw [encodeChar_eq]
  split
  · exact next?_number [] rest (ofLead?_one (by omega)) rfl (by simp) rfl
  split
  · refine next?_number [c.toNat] rest (ofLead?_two (by omega)) rfl ?_ ?_
    · -- Two bytes have no bounds of their own.
      rintro _ ⟨⟩
      exact tailByte_bounds _
    · show 64 * (c.toNat / 64 % 0x20) + c.toNat % 64 = c.toNat
      omega
  split
  · refine next?_number [c.toNat / 64, c.toNat] rest (ofLead?_three (by omega)) rfl ?_ ?_
    · -- What could spell a surrogate is out of bounds, but no character is one.
      rintro _ ⟨⟩
      exact three_bounds (by omega) (by omega)
    · show 64 * (64 * (c.toNat / 4096 % 0x10) + c.toNat / 64 % 64) + c.toNat % 64 = c.toNat
      omega
  · refine next?_number [c.toNat / 4096, c.toNat / 64, c.toNat] rest
      (ofLead?_four (by omega)) rfl ?_ ?_
    · rintro _ ⟨⟩
      exact four_bounds (by omega)
    · show 64 * (64 * (64 * (c.toNat / 262144 % 0x08) + c.toNat / 4096 % 64) +
        c.toNat / 64 % 64) + c.toNat % 64 = c.toNat
      omega

/-! ## Texts -/

theorem encode_cons (c : Char) (cs : List Char) :
    encode (c :: cs) = String.utf8EncodeChar c ++ encode cs := rfl

theorem encode_append (first second : List Char) :
    encode (first ++ second) = encode first ++ encode second := List.flatMap_append

theorem decodePrefix_encode (cs : List Char) : decodePrefix (encode cs) = (cs, []) := by
  induction cs with
  | nil => rw [encode, List.flatMap_nil, decodePrefix_eq, next?]
  | cons c cs ih =>
    rw [encode_cons, decodePrefix_eq, next?_encodeChar]
    simp only [ih]

/-- What is encoded is decoded to what it was. -/
theorem decode_encode (cs : List Char) : decode (encode cs) = .ok cs := by
  rw [decode, decodePrefix_encode]
  rfl

/-! ## What is decoded -/

/-- Whether continuation bytes are in order for a form, as many as there are. -/
def Form.Allows (form : Form) : List UInt8 → Prop
  | [] => True
  | b :: more => (form.low ≤ b ∧ b ≤ form.high) ∧ ∀ d ∈ more, isTail d = true

theorem Form.Allows.of_append {form : Form} {tail more : List UInt8}
    (h : form.Allows (tail ++ more)) : form.Allows tail := by
  cases tail with
  | nil => trivial
  | cons b tail => exact ⟨h.1, fun d hd => h.2 d (List.mem_append_left _ hd)⟩

theorem Form.tailIn_eq {form : Form} {rest : List UInt8}
    (h : form.Allows (rest.take form.tail)) : form.tailIn rest = rest.take form.tail := by
  rw [Form.tailIn]
  cases htake : rest.take form.tail with
  | nil => rfl
  | cons b more =>
    rw [htake] at h
    have hmore : more.takeWhile isTail = more := List.takeWhile_eq_self_iff.2 h.2
    simp [h.1, hmore]

theorem Form.allows_of_length {form : Form} {rest : List UInt8}
    (h : (form.tailIn rest).length = (rest.take form.tail).length) :
    form.Allows (rest.take form.tail) := by
  rw [Form.tailIn] at h
  cases htake : rest.take form.tail with
  | nil => trivial
  | cons b more =>
    simp only [htake, Bool.and_eq_true, decide_eq_true_eq] at h
    split at h
    · next hb =>
      have hmore := (List.takeWhile_prefix isTail).eq_of_length (Nat.succ.inj h)
      exact ⟨hb, List.takeWhile_eq_self_iff.1 hmore⟩
    · cases h

/-- A row of bytes begins with a character if and only if it begins with a lead byte
    and as many continuation bytes as it asks for, all in order. -/
theorem next?_eq_some_iff {bytes rest : List UInt8} {c : Char} :
    next? bytes = some (c, rest) ↔ ∃ lead form tail, bytes = lead :: (tail ++ rest) ∧
      Form.ofLead? lead = some form ∧ tail.length = form.tail ∧ form.Allows tail ∧
      c = form.char tail := by
  constructor
  · intro h
    cases bytes with
    | nil => cases h
    | cons lead after =>
      rw [next?] at h
      cases hform : Form.ofLead? lead with
      | none => simp [hform] at h
      | some form =>
        simp only [hform, Option.ite_none_right_eq_some, Option.some.injEq, Prod.mk.injEq] at h
        obtain ⟨hlength, rfl, rfl⟩ := h
        have htake : (after.take form.tail).length ≤ form.tail := List.length_take_le _ _
        have hle : (form.tailIn after).length ≤ (after.take form.tail).length := by
          rw [Form.tailIn]
          split
          · exact Nat.zero_le _
          · next b more he =>
            rw [he]
            split
            · exact Nat.succ_le_succ (List.takeWhile_prefix isTail).length_le
            · exact Nat.zero_le _
        have hallows := Form.allows_of_length (by omega : (form.tailIn after).length = _)
        rw [Form.tailIn_eq hallows] at hlength ⊢
        exact ⟨lead, form, after.take form.tail, by rw [List.take_append_drop], hform, hlength,
          hallows, rfl⟩
  · rintro ⟨lead, form, tail, rfl, hform, hlength, hallows, rfl⟩
    have htake : (tail ++ rest).take form.tail = tail := List.take_left' hlength
    have htail : form.tailIn (tail ++ rest) = tail := by
      rw [Form.tailIn_eq (by rw [htake]; exact hallows), htake]
    simp [next?, hform, htail, hlength, List.drop_left' hlength]

/-- Lead bytes and their forms, by the size of the character. -/
theorem ofLead?_eq_some {lead : UInt8} {form : Form} (h : Form.ofLead? lead = some form) :
    (∃ n < 0x80, lead = UInt8.ofNat n ∧ form = { bits := n, tail := 0 }) ∨
    (∃ n, (2 ≤ n ∧ n < 0x20) ∧ lead = UInt8.ofNat (n + 0xC0) ∧
      form = { bits := n, tail := 1 }) ∨
    (∃ n < 0x10, lead = UInt8.ofNat (n + 0xE0) ∧ form = .three n) ∨
    (∃ n < 5, lead = UInt8.ofNat (n + 0xF0) ∧ form = .four n) := by
  have hlead {n k : Nat} (hn : n + k = lead.toNat) : lead = UInt8.ofNat (n + k) := by
    rw [hn, UInt8.ofNat_toNat]
  by_cases h1 : lead.toNat < 0x80
  · have hn : lead = UInt8.ofNat lead.toNat := UInt8.ofNat_toNat.symm
    rw [hn, ofLead?_one h1] at h
    exact .inl ⟨lead.toNat, h1, hn, (Option.some.inj h).symm⟩
  by_cases h2 : 0xC2 ≤ lead.toNat ∧ lead.toNat < 0xE0
  · obtain ⟨n, hn⟩ := Nat.exists_eq_add_of_le' (show 0xC0 ≤ lead.toNat by omega)
    have hbounds : 2 ≤ n ∧ n < 0x20 := by omega
    rw [hlead hn.symm, ofLead?_two hbounds] at h
    exact .inr (.inl ⟨n, hbounds, hlead hn.symm, (Option.some.inj h).symm⟩)
  by_cases h3 : 0xE0 ≤ lead.toNat ∧ lead.toNat < 0xF0
  · obtain ⟨n, hn⟩ := Nat.exists_eq_add_of_le' h3.1
    have hbound : n < 0x10 := by omega
    rw [hlead hn.symm, ofLead?_three hbound] at h
    exact .inr (.inr (.inl ⟨n, hbound, hlead hn.symm, (Option.some.inj h).symm⟩))
  by_cases h4 : 0xF0 ≤ lead.toNat ∧ lead.toNat < 0xF5
  · obtain ⟨n, hn⟩ := Nat.exists_eq_add_of_le' h4.1
    have hbound : n < 5 := by omega
    rw [hlead hn.symm, ofLead?_four hbound] at h
    exact .inr (.inr (.inr ⟨n, hbound, hlead hn.symm, (Option.some.inj h).symm⟩))
  -- All other bytes lead nothing.
  · have hnone : Form.ofLead? lead = none := by
      by_cases h5 : lead.toNat < 0xC2
      · rw [Form.ofLead?, if_neg h1, if_pos h5]
      · rw [Form.ofLead?, if_neg h1, if_neg h5, if_neg (by omega), if_neg (by omega),
          if_neg (by omega), if_neg (by omega), if_neg (by omega), if_neg (by omega),
          if_neg (by omega)]
    rw [hnone] at h
    cases h

theorem toNat_char {form : Form} {tail : List UInt8} (v : Nat)
    (hv : tail.foldl (fun n b => 64 * n + b.toNat % 64) form.bits = v)
    (h : v < 0xD800 ∨ 0xDFFF < v ∧ v < 0x110000) : (form.char tail).toNat = v := by
  have hvalid : v.isValidChar := h
  rw [Form.char, hv, Char.ofNat, dif_pos hvalid]
  rfl

theorem tailByte_eq {b : UInt8} {v : Nat} (hb : 128 ≤ b.toNat ∧ b.toNat ≤ 191)
    (hv : v % 64 = b.toNat % 64) : tailByte v = b := by
  rw [← UInt8.toNat_inj, toNat_tailByte]
  omega

theorem toNat_of_isTail {b : UInt8} (h : isTail b = true) : 128 ≤ b.toNat ∧ b.toNat ≤ 191 := by
  simp only [isTail, Bool.and_eq_true, decide_eq_true_eq, UInt8.le_iff_toNat_le] at h
  exact h

theorem toNat_of_three {n : Nat} {b : UInt8}
    (h : (Form.three n).low ≤ b ∧ b ≤ (Form.three n).high) :
    (128 ≤ b.toNat ∧ b.toNat ≤ 191) ∧ (n = 0 → 160 ≤ b.toNat) ∧
      (n = 0xD → b.toNat ≤ 159) := by
  have hlow : (Form.three n).low.toNat = if n = 0 then 160 else 128 := by
    show (if n = 0 then (0xA0 : UInt8) else 0x80).toNat = _
    split <;> rfl
  have hhigh : (Form.three n).high.toNat = if n = 0xD then 159 else 191 := by
    show (if n = 0xD then (0x9F : UInt8) else 0xBF).toNat = _
    split <;> rfl
  rw [UInt8.le_iff_toNat_le, UInt8.le_iff_toNat_le, hlow, hhigh] at h
  split at h <;> split at h <;> omega

theorem toNat_of_four {n : Nat} {b : UInt8}
    (h : (Form.four n).low ≤ b ∧ b ≤ (Form.four n).high) :
    (128 ≤ b.toNat ∧ b.toNat ≤ 191) ∧ (n = 0 → 144 ≤ b.toNat) ∧ (n = 4 → b.toNat ≤ 143) := by
  have hlow : (Form.four n).low.toNat = if n = 0 then 144 else 128 := by
    show (if n = 0 then (0x90 : UInt8) else 0x80).toNat = _
    split <;> rfl
  have hhigh : (Form.four n).high.toNat = if n = 4 then 143 else 191 := by
    show (if n = 4 then (0x8F : UInt8) else 0xBF).toNat = _
    split <;> rfl
  rw [UInt8.le_iff_toNat_le, UInt8.le_iff_toNat_le, hlow, hhigh] at h
  split at h <;> split at h <;> omega

/-- A lead byte with continuation bytes in order is how their character is encoded. -/
theorem encodeChar_char {lead : UInt8} {form : Form} {tail : List UInt8}
    (hform : Form.ofLead? lead = some form) (hlength : tail.length = form.tail)
    (hallows : form.Allows tail) :
    String.utf8EncodeChar (form.char tail) = lead :: tail := by
  rw [encodeChar_eq]
  rcases ofLead?_eq_some hform with ⟨n, hn, rfl, rfl⟩ | ⟨n, hn, rfl, rfl⟩ | ⟨n, hn, rfl, rfl⟩ |
    ⟨n, hn, rfl, rfl⟩
  · obtain rfl := List.length_eq_zero_iff.1 hlength
    rw [toNat_char n rfl (by omega), if_pos (by omega)]
  · obtain ⟨b, rfl⟩ := List.length_eq_one_iff.1 hlength
    have hb : 128 ≤ b.toNat ∧ b.toNat ≤ 191 := hallows.1
    have hlead : (64 * n + b.toNat % 64) / 64 % 0x20 = n := by omega
    rw [toNat_char (64 * n + b.toNat % 64) rfl (by omega), if_neg (by omega), if_pos (by omega),
      hlead, tailByte_eq hb (by omega)]
  · obtain ⟨b, d, rfl⟩ := List.length_eq_two.1 hlength
    obtain ⟨hb, hb0, hbD⟩ := toNat_of_three hallows.1
    have hd := toNat_of_isTail (hallows.2 d List.mem_cons_self)
    -- The bounds of the first byte leave out shorter forms and surrogates.
    have hlead : (64 * (64 * n + b.toNat % 64) + d.toNat % 64) / 4096 % 0x10 = n := by omega
    rw [toNat_char (64 * (64 * n + b.toNat % 64) + d.toNat % 64) rfl (by omega),
      if_neg (by omega), if_neg (by omega), if_pos (by omega), hlead, tailByte_eq hb (by omega),
      tailByte_eq hd (by omega)]
  · obtain ⟨b, d, e, rfl⟩ := List.length_eq_three.1 hlength
    obtain ⟨hb, hb0, hb4⟩ := toNat_of_four hallows.1
    have hd := toNat_of_isTail (hallows.2 d List.mem_cons_self)
    have he := toNat_of_isTail (hallows.2 e (by simp))
    have hlead : (64 * (64 * (64 * n + b.toNat % 64) + d.toNat % 64) + e.toNat % 64) /
        262144 % 0x08 = n := by omega
    rw [toNat_char (64 * (64 * (64 * n + b.toNat % 64) + d.toNat % 64) + e.toNat % 64) rfl
      (by omega), if_neg (by omega), if_neg (by omega), if_neg (by omega), hlead,
      tailByte_eq hb (by omega), tailByte_eq hd (by omega), tailByte_eq he (by omega)]

/-- The bytes of a character that is read are those that it is encoded by. -/
theorem eq_of_next? {bytes rest : List UInt8} {c : Char} (h : next? bytes = some (c, rest)) :
    bytes = String.utf8EncodeChar c ++ rest := by
  obtain ⟨lead, form, tail, rfl, hform, hlength, hallows, rfl⟩ := next?_eq_some_iff.1 h
  rw [encodeChar_char hform hlength hallows]
  rfl

/-- What is decoded of a row of bytes is encoded by its beginning, and what is left
    begins with no character. -/
theorem eq_of_decodePrefix {bytes left : List UInt8} {cs : List Char}
    (h : decodePrefix bytes = (cs, left)) : bytes = encode cs ++ left ∧ next? left = none := by
  induction cs generalizing bytes with
  | nil =>
    rw [decodePrefix_eq] at h
    cases hnext : next? bytes with
    | none =>
      rw [hnext] at h
      obtain rfl := (Prod.mk.inj h).2
      exact ⟨rfl, hnext⟩
    | some first =>
      rw [hnext] at h
      cases h
  | cons c cs ih =>
    rw [decodePrefix_eq] at h
    cases hnext : next? bytes with
    | none =>
      rw [hnext] at h
      cases h
    | some first =>
      obtain ⟨d, rest⟩ := first
      rw [hnext] at h
      simp only [Prod.mk.injEq, List.cons.injEq] at h
      obtain ⟨⟨rfl, hcs⟩, hleft⟩ := h
      obtain ⟨hrest, hnone⟩ := ih (Prod.ext hcs hleft)
      rw [eq_of_next? hnext, encode_cons, List.append_assoc, ← hrest]
      exact ⟨rfl, hnone⟩

/-- A text that is encoded at the beginning of another one is the beginning of it. -/
theorem exists_of_encode_append {cs all : List Char} {rest : List UInt8}
    (h : encode cs ++ rest = encode all) :
    ∃ more, all = cs ++ more ∧ rest = encode more := by
  induction cs generalizing all with
  | nil => exact ⟨all, rfl, h⟩
  | cons c cs ih =>
    cases all with
    | nil =>
      have hnext := congrArg next? h
      rw [encode_cons, List.append_assoc, next?_encodeChar] at hnext
      cases hnext
    | cons d all =>
      have hnext := congrArg next? h
      rw [encode_cons, encode_cons, List.append_assoc, next?_encodeChar, next?_encodeChar] at hnext
      obtain ⟨rfl, hrest⟩ := Prod.mk.inj (Option.some.inj hnext)
      obtain ⟨more, rfl, hmore⟩ := ih hrest
      exact ⟨more, rfl, hmore⟩

end KeyMacro.Utf8
