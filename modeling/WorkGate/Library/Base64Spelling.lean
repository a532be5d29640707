/-
# The one spelling of bytes in base64url

Two or three characters left over carry more bits than the bytes they stand for.  A decoder drops
those bits, so several texts can stand for the same bytes; only the text that leaves them at zero
is the one that is written.
-/

import WorkGate.Library.Base64

namespace WorkGate.Library

namespace Base64Url

/-- The bits of the last character that no byte takes. -/
def unusedBits (digits : List ℕ) : ℕ :=
  match digits.length % 4 with
  | 2 => digits.getLastD 0 % 16
  | 3 => digits.getLastD 0 % 4
  | _ => 0

/-- The bits of the last character of a text that no byte takes. -/
def trailingBits (text : String) : ℕ :=
  unusedBits (text.toList.map fun character => (digitValue character).getD 0)

/-! ## Characters and their numbers -/

theorem digitValue_eq_some {character : Char} {value : ℕ} (h : digitValue character = some value) :
    value < 64 ∧ digit value = character := by
  obtain ⟨hlt, hcharacter, -⟩ := List.idxOf?_eq_some_iff.mp h
  refine ⟨hlt, ?_⟩
  rw [digit, List.getD_eq_getElem?_getD, List.getElem?_eq_getElem hlt]
  exact hcharacter

theorem mapM_digitValue_eq_some {characters : List Char} {digits : List ℕ}
    (h : characters.mapM digitValue = some digits) :
    (∀ value ∈ digits, value < 64) ∧ digits.map digit = characters ∧
      digits = characters.map fun character => (digitValue character).getD 0 := by
  induction characters generalizing digits with
  | nil =>
      cases h
      simp
  | cons character characters ih =>
      rw [List.mapM_cons] at h
      obtain ⟨value, hvalue, h⟩ := Option.bind_eq_some_iff.mp h
      obtain ⟨rest, hrest, h⟩ := Option.bind_eq_some_iff.mp h
      cases h
      obtain ⟨hlt, hmap, hrest⟩ := ih hrest
      obtain ⟨hfirst, hcharacter⟩ := digitValue_eq_some hvalue
      refine ⟨List.forall_mem_cons.mpr ⟨hfirst, hlt⟩, ?_, ?_⟩
      · rw [List.map_cons, hcharacter, hmap]
      · rw [List.map_cons, hvalue, ← hrest]
        rfl

/-! ## Numbers and bytes -/

/-- Only one character over keeps numbers from being bytes. -/
theorem exists_decodeDigits {digits : List ℕ} (hlength : digits.length % 4 ≠ 1) :
    ∃ bytes, decodeDigits digits = some bytes := by
  induction digits using decodeDigits.induct with
  | case1 => exact ⟨[], rfl⟩
  | case2 first => simp at hlength
  | case3 first second => exact ⟨_, rfl⟩
  | case4 first second third => exact ⟨_, rfl⟩
  | case5 first second third fourth rest ih =>
      simp only [List.length_cons] at hlength
      obtain ⟨bytes, hbytes⟩ := ih (by omega)
      rw [decodeDigits, hbytes]
      exact ⟨_, rfl⟩

theorem length_decodeDigits {digits : List ℕ} {bytes : List UInt8}
    (h : decodeDigits digits = some bytes) : bytes.length = digits.length * 3 / 4 := by
  induction digits using decodeDigits.induct generalizing bytes with
  | case1 =>
      cases h
      rfl
  | case2 first => cases h
  | case3 first second =>
      cases h
      simp
  | case4 first second third =>
      cases h
      simp
  | case5 first second third fourth rest ih =>
      obtain ⟨tail, htail, rfl⟩ := Option.map_eq_some_iff.mp h
      simp only [List.length_cons, ih htail]
      omega

theorem unusedBits_cons (first second third fourth : ℕ) (rest : List ℕ) :
    unusedBits (first :: second :: third :: fourth :: rest) = unusedBits rest := by
  have hlength : (first :: second :: third :: fourth :: rest).length % 4 = rest.length % 4 := by
    simp only [List.length_cons]
    omega
  rw [unusedBits, unusedBits, hlength]
  cases rest with
  | nil => rfl
  | cons fifth rest => rfl

theorem toNat_ofNat_of_lt {value : ℕ} (h : value < 256) : (UInt8.ofNat value).toNat = value := by
  rw [UInt8.toNat_ofNat']
  exact Nat.mod_eq_of_lt h

/-- Numbers are those of their bytes exactly when they leave the unused bits at zero. -/
theorem encodeDigits_decodeDigits_iff {digits : List ℕ} {bytes : List UInt8}
    (hdigits : ∀ value ∈ digits, value < 64) (h : decodeDigits digits = some bytes) :
    encodeDigits bytes = digits ↔ unusedBits digits = 0 := by
  induction digits using decodeDigits.induct generalizing bytes with
  | case1 =>
      cases h
      simp [encodeDigits, unusedBits]
  | case2 first => cases h
  | case3 first second =>
      cases h
      simp only [List.forall_mem_cons] at hdigits
      obtain ⟨hfirst, hsecond, -⟩ := hdigits
      have hbyte := toNat_ofNat_of_lt (show first * 4 + second / 16 < 256 by omega)
      have hunused : unusedBits [first, second] = second % 16 := rfl
      simp only [encodeDigits, hbyte, hunused, List.cons.injEq, and_true]
      omega
  | case4 first second third =>
      cases h
      simp only [List.forall_mem_cons] at hdigits
      obtain ⟨hfirst, hsecond, hthird, -⟩ := hdigits
      have hhigh := toNat_ofNat_of_lt (show first * 4 + second / 16 < 256 by omega)
      have hlow := toNat_ofNat_of_lt (show second % 16 * 16 + third / 4 < 256 by omega)
      have hunused : unusedBits [first, second, third] = third % 4 := rfl
      simp only [encodeDigits, hhigh, hlow, hunused, List.cons.injEq, and_true]
      omega
  | case5 first second third fourth rest ih =>
      obtain ⟨tail, htail, rfl⟩ := Option.map_eq_some_iff.mp h
      simp only [List.forall_mem_cons] at hdigits
      obtain ⟨hfirst, hsecond, hthird, hfourth, hrest⟩ := hdigits
      have hhigh := toNat_ofNat_of_lt (show first * 4 + second / 16 < 256 by omega)
      have hmiddle := toNat_ofNat_of_lt (show second % 16 * 16 + third / 4 < 256 by omega)
      have hlow := toNat_ofNat_of_lt (show third % 4 * 64 + fourth < 256 by omega)
      rw [unusedBits_cons, ← ih hrest htail]
      simp only [encodeDigits, hhigh, hmiddle, hlow, List.cons.injEq]
      constructor
      · rintro ⟨-, -, -, -, h⟩
        exact h
      · intro h
        exact ⟨by omega, by omega, by omega, by omega, h⟩

/-! ## Texts and bytes -/

theorem decode_eq_some {text : String} {bytes : List UInt8} (h : decode text = some bytes) :
    ∃ digits, text.toList.mapM digitValue = some digits ∧ decodeDigits digits = some bytes := by
  rw [decode] at h
  split at h
  · cases h
  · next digits hdigits => exact ⟨digits, hdigits, h⟩

/-- A text is the spelling of its bytes exactly when it leaves the unused bits at zero. -/
theorem encode_decode_iff {text : String} {bytes : List UInt8} (h : decode text = some bytes) :
    encode bytes = text ↔ trailingBits text = 0 := by
  obtain ⟨digits, hdigits, hbytes⟩ := decode_eq_some h
  obtain ⟨hlt, hmap, hvalues⟩ := mapM_digitValue_eq_some hdigits
  rw [trailingBits, ← hvalues, ← encodeDigits_decodeDigits_iff hlt hbytes, encode,
    ← String.toList_inj, String.toList_ofList, encodeBytes_eq_map, ← hmap]
  constructor
  · intro hsame
    have hsmall : ∀ value ∈ encodeDigits bytes, value < 64 := lt_of_mem_encodeDigits
    have hread := mapM_digitValue hsmall
    rw [hsame, mapM_digitValue hlt] at hread
    exact (Option.some.inj hread).symm
  · intro hsame
    rw [hsame]

/-- The encodings of so many bytes are the texts of their length over the alphabet that leave the
unused bits at zero. -/
theorem exists_encode_iff {text : String} {size : ℕ} :
    (∃ bytes : List UInt8, bytes.length = size ∧ encode bytes = text) ↔
      text.toList.length = (size * 4 + 2) / 3 ∧
        (∃ digits, text.toList.mapM digitValue = some digits) ∧ trailingBits text = 0 := by
  constructor
  · rintro ⟨bytes, rfl, rfl⟩
    have hdecode := decode_encode bytes
    obtain ⟨digits, hdigits, -⟩ := decode_eq_some hdecode
    exact ⟨length_encode bytes, ⟨digits, hdigits⟩, (encode_decode_iff hdecode).mp rfl⟩
  · rintro ⟨hlength, ⟨digits, hdigits⟩, hunused⟩
    have hmap := (mapM_digitValue_eq_some hdigits).2.1
    have hsame : digits.length = text.toList.length := by rw [← hmap, List.length_map]
    have hover : digits.length % 4 ≠ 1 := by omega
    obtain ⟨bytes, hbytes⟩ := exists_decodeDigits hover
    have hdecode : decode text = some bytes := by rw [decode, hdigits]; exact hbytes
    refine ⟨bytes, ?_, (encode_decode_iff hdecode).mpr hunused⟩
    rw [length_decodeDigits hbytes]
    omega

end Base64Url

end WorkGate.Library
