/-
# Reading unpadded base64url

Four characters are three bytes; two or three left over are one or two, and the bits that are left
over with them are dropped.  What was written is read back.
-/

import WorkGate.Library.Hex

namespace WorkGate.Library

namespace Base64Url

/-- The number below 64 a character stands for. -/
def digitValue (character : Char) : Option ℕ :=
  "ABCDEFGHIJKLMNOPQRSTUVWXYZabcdefghijklmnopqrstuvwxyz0123456789-_".toList.idxOf? character

/-- The bytes of as many characters, given as their numbers. -/
def decodeDigits : List ℕ → Option (List UInt8)
  | [] => some []
  | [_] => none
  | [first, second] => some [UInt8.ofNat (first * 4 + second / 16)]
  | [first, second, third] =>
      some [UInt8.ofNat (first * 4 + second / 16), UInt8.ofNat (second % 16 * 16 + third / 4)]
  | first :: second :: third :: fourth :: rest =>
      (decodeDigits rest).map fun bytes =>
        UInt8.ofNat (first * 4 + second / 16) :: UInt8.ofNat (second % 16 * 16 + third / 4) ::
          UInt8.ofNat (third % 4 * 64 + fourth) :: bytes

/-- The bytes of unpadded base64url text. -/
def decode (text : String) : Option (List UInt8) :=
  match text.toList.mapM digitValue with
  | none => none
  | some digits => decodeDigits digits

theorem digitValue_digit : ∀ value < 64, digitValue (digit value) = some value := by decide

/-- The numbers of the characters of some bytes. -/
def encodeDigits : List UInt8 → List ℕ
  | [] => []
  | [first] => [first.toNat / 4, first.toNat % 4 * 16]
  | [first, second] =>
      [first.toNat / 4, first.toNat % 4 * 16 + second.toNat / 16, second.toNat % 16 * 4]
  | first :: second :: third :: rest =>
      first.toNat / 4 :: (first.toNat % 4 * 16 + second.toNat / 16) ::
        (second.toNat % 16 * 4 + third.toNat / 64) :: third.toNat % 64 :: encodeDigits rest

theorem encodeBytes_eq_map (bytes : List UInt8) :
    encodeBytes bytes = (encodeDigits bytes).map digit := by
  induction bytes using encodeDigits.induct with
  | case1 => rfl
  | case2 first => rfl
  | case3 first second => rfl
  | case4 first second third rest ih => rw [encodeBytes, encodeDigits, ih]; rfl

theorem lt_of_mem_encodeDigits {bytes : List UInt8} : ∀ value ∈ encodeDigits bytes, value < 64 := by
  induction bytes using encodeDigits.induct with
  | case1 => simp [encodeDigits]
  | case2 first =>
      have hfirst := first.toNat_lt
      simp only [encodeDigits, List.forall_mem_cons]
      refine ⟨by omega, by omega, by simp⟩
  | case3 first second =>
      have hfirst := first.toNat_lt
      have hsecond := second.toNat_lt
      simp only [encodeDigits, List.forall_mem_cons]
      refine ⟨by omega, by omega, by omega, by simp⟩
  | case4 first second third rest ih =>
      have hfirst := first.toNat_lt
      have hsecond := second.toNat_lt
      have hthird := third.toNat_lt
      simp only [encodeDigits, List.forall_mem_cons]
      exact ⟨by omega, by omega, by omega, by omega, ih⟩

theorem mapM_digitValue {values : List ℕ} (hvalues : ∀ value ∈ values, value < 64) :
    (values.map digit).mapM digitValue = some values := by
  induction values with
  | nil => rfl
  | cons value values ih =>
      rw [List.forall_mem_cons] at hvalues
      rw [List.map_cons, List.mapM_cons, digitValue_digit value hvalues.1, ih hvalues.2]
      rfl

theorem ofNat_eq (byte : UInt8) {value : ℕ} (h : value = byte.toNat) :
    UInt8.ofNat value = byte := by
  rw [h, UInt8.ofNat_toNat]

theorem decodeDigits_encodeDigits (bytes : List UInt8) :
    decodeDigits (encodeDigits bytes) = some bytes := by
  induction bytes using encodeDigits.induct with
  | case1 => rfl
  | case2 first =>
      rw [encodeDigits, decodeDigits, ofNat_eq first (by omega)]
  | case3 first second =>
      have hsecond := second.toNat_lt
      rw [encodeDigits, decodeDigits, ofNat_eq first (by omega),
        ofNat_eq second (by omega)]
  | case4 first second third rest ih =>
      have hsecond := second.toNat_lt
      have hthird := third.toNat_lt
      rw [encodeDigits, decodeDigits, ih, ofNat_eq first (by omega),
        ofNat_eq second (by omega), ofNat_eq third (by omega)]
      rfl

/-- What was written is read back. -/
theorem decode_encode (bytes : List UInt8) : decode (encode bytes) = some bytes := by
  rw [decode, encode, String.toList_ofList, encodeBytes_eq_map,
    mapM_digitValue lt_of_mem_encodeDigits]
  exact decodeDigits_encodeDigits bytes

theorem encode_injective : Function.Injective encode := by
  intro first second h
  have hdecoded := decode_encode first
  rw [h, decode_encode] at hdecoded
  exact (Option.some.inj hdecoded).symm

/-- The characters of an encoded text belong to the alphabet. -/
theorem mem_encode {bytes : List UInt8} {character : Char}
    (hmem : character ∈ (encode bytes).toList) :
    ∃ value < 64, digit value = character := by
  rw [encode, String.toList_ofList, encodeBytes_eq_map, List.mem_map] at hmem
  obtain ⟨value, hvalue, hdigit⟩ := hmem
  exact ⟨value, lt_of_mem_encodeDigits value hvalue, hdigit⟩

theorem length_encodeDigits (bytes : List UInt8) :
    (encodeDigits bytes).length = (bytes.length * 4 + 2) / 3 := by
  induction bytes using encodeDigits.induct with
  | case1 => rfl
  | case2 first => simp [encodeDigits]
  | case3 first second => simp [encodeDigits]
  | case4 first second third rest ih =>
      simp only [encodeDigits, List.length_cons, ih]
      omega

/-- How long the text of some bytes is. -/
theorem length_encode (bytes : List UInt8) :
    (encode bytes).length = (bytes.length * 4 + 2) / 3 := by
  rw [encode, String.length_ofList, encodeBytes_eq_map, List.length_map, length_encodeDigits]

end Base64Url

end WorkGate.Library
