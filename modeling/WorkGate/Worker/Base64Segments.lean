/-
# Base64url segments (web/crypto-bytes.ts, web/worker-serial.ts)

`encodeBase64Url` writes bytes in one way; `decodeBase64Url` drops what the last character says
beyond them, so callers that need the one spelling encode again and compare.  The tokens and the
nonces of the serial protocol need not: their patterns fix the last character.
-/

import WorkGate.Library.Base64Spelling
import WorkGate.Serial.Records
import WorkGate.Worker.LeaseArtifacts

namespace WorkGate

open WorkGate.Library

/-! ## The alphabet -/

theorem digitValue_of_isOpaqueIdCharacter {character : Char}
    (h : isOpaqueIdCharacter character = true) :
    ∃ value, Base64Url.digitValue character = some value := by
  have hascii : ∀ value < 128, isOpaqueIdCharacter (Char.ofNat value) = true →
      (Base64Url.digitValue (Char.ofNat value)).isSome = true := by decide +kernel
  have hvalue := hascii character.toNat (toNat_lt_of_isOpaqueIdCharacter h)
  rw [Char.ofNat_toNat] at hvalue
  exact Option.isSome_iff_exists.mp (hvalue h)

theorem isOpaqueIdCharacter_of_digitValue {character : Char} {value : ℕ}
    (h : Base64Url.digitValue character = some value) : isOpaqueIdCharacter character = true := by
  obtain ⟨hlt, rfl⟩ := Base64Url.digitValue_eq_some h
  exact (digit_facts value hlt).1

/-- The characters of the pattern are those that stand for a number. -/
theorem all_isOpaqueIdCharacter_iff {characters : List Char} :
    characters.all isOpaqueIdCharacter = true ↔
      ∃ digits, characters.mapM Base64Url.digitValue = some digits := by
  induction characters with
  | nil => exact ⟨fun _ => ⟨[], rfl⟩, fun _ => rfl⟩
  | cons character characters ih =>
      rw [List.all_cons, Bool.and_eq_true, ih, List.mapM_cons]
      constructor
      · rintro ⟨hcharacter, digits, hdigits⟩
        obtain ⟨value, hvalue⟩ := digitValue_of_isOpaqueIdCharacter hcharacter
        rw [hvalue, hdigits]
        exact ⟨value :: digits, rfl⟩
      · rintro ⟨digits, h⟩
        obtain ⟨value, hvalue, h⟩ := Option.bind_eq_some_iff.mp h
        obtain ⟨rest, hrest, -⟩ := Option.bind_eq_some_iff.mp h
        exact ⟨isOpaqueIdCharacter_of_digitValue hvalue, rest, hrest⟩

/-! ## Segments -/

/-- What a decoded segment is. -/
theorem decode_of_decodeBase64Url {units : CodeUnits} {maximumCharacters : ℕ} {bytes : List UInt8}
    (h : decodeBase64Url units maximumCharacters = some bytes) :
    ∃ text, units = CodeUnits.ofString text ∧ Base64Url.decode text = some bytes := by
  simp only [decodeBase64Url, Option.bind_eq_bind, Option.bind_eq_some_iff] at h
  obtain ⟨_, -, text, htext, _, -, hdecode⟩ := h
  exact ⟨text, CodeUnits.maybeText_eq_some.mp htext, hdecode⟩

/-! ## Tokens -/

/-- A pattern of characters and a last one among these holds of exactly the encodings of so many
bytes, where the last characters listed are those whose unused bits are zero. -/
theorem tokenText_iff {length size : ℕ} {last : List Char} {text : String}
    (hlength : length = (size * 4 + 2) / 3)
    (hlast : ∀ digits : List ℕ, digits.length = length → (∀ value ∈ digits, value < 64) →
      ((digits.map Base64Url.digit).getLast?.any (last.contains ·) = true ↔
        Base64Url.unusedBits digits = 0)) :
    tokenText length last text = true ↔
      ∃ bytes : List UInt8, bytes.length = size ∧ Base64Url.encode bytes = text := by
  rw [Base64Url.exists_encode_iff, tokenText, Bool.and_eq_true, Bool.and_eq_true,
    decide_eq_true_iff, all_isOpaqueIdCharacter_iff, ← hlength, and_assoc]
  refine and_congr_right fun hsize => and_congr_right ?_
  rintro ⟨digits, hdigits⟩
  obtain ⟨hsmall, hmap, hvalues⟩ := Base64Url.mapM_digitValue_eq_some hdigits
  have hcount : digits.length = length := by rw [← hsize, ← hmap, List.length_map]
  rw [Base64Url.trailingBits, ← hvalues, ← hlast digits hcount hsmall, hmap]

theorem getLast_digits {digits : List ℕ} {last : List Char} {modulus : ℕ} (hsome : digits ≠ [])
    (hlast : ∀ value < 64, last.contains (Base64Url.digit value) = true ↔ value % modulus = 0)
    (hsmall : ∀ value ∈ digits, value < 64) :
    (digits.map Base64Url.digit).getLast?.any (last.contains ·) = true ↔
      digits.getLastD 0 % modulus = 0 := by
  rw [List.getLast?_map, List.getLast?_eq_some_getLast hsome, Option.map_some, Option.any_some,
    hlast _ (hsmall _ (List.getLast_mem hsome)), List.getLastD_eq_getLast?,
    List.getLast?_eq_some_getLast hsome, Option.getD_some]

/-- A token is sixteen bytes. -/
theorem serialToken_iff {text : String} : serialToken text = true ↔
    ∃ bytes : List UInt8, bytes.length = 16 ∧ Base64Url.encode bytes = text := by
  have hdigits : ∀ value < 64, ['A', 'Q', 'g', 'w'].contains (Base64Url.digit value) = true ↔
      value % 16 = 0 := by decide +kernel
  refine tokenText_iff (by decide) ?_
  intro digits hlength hsmall
  have hsome : digits ≠ [] := by
    rintro rfl
    cases hlength
  rw [getLast_digits hsome hdigits hsmall, Base64Url.unusedBits, hlength]
  exact Iff.rfl

/-- A nonce is thirty-two bytes. -/
theorem serialNonce_iff {text : String} : serialNonce text = true ↔
    ∃ bytes : List UInt8, bytes.length = 32 ∧ Base64Url.encode bytes = text := by
  have hdigits : ∀ value < 64, "AEIMQUYcgkosw048".toList.contains (Base64Url.digit value) = true ↔
      value % 4 = 0 := by decide +kernel
  have hsame : serialNonce text = tokenText 43 "AEIMQUYcgkosw048".toList text := by
    rw [serialNonce, isDigest, validIdentifier, tokenText, ← Bool.decide_and]
    congr 3
    · exact propext (by omega)
    · funext character
      exact (List.contains_eq_mem _ _).symm
  rw [hsame]
  refine tokenText_iff (by decide) ?_
  intro digits hlength hsmall
  have hsome : digits ≠ [] := by
    rintro rfl
    cases hlength
  rw [getLast_digits hsome hdigits hsmall, Base64Url.unusedBits, hlength]
  exact Iff.rfl

/-- A value passes a test of its text where it is such a text. -/
theorem any_plainText_iff {value : JsValue} {test : String → Bool} {size : ℕ}
    (htest : ∀ text, test text = true ↔
      ∃ bytes : List UInt8, bytes.length = size ∧ Base64Url.encode bytes = text) :
    (plainText value).any test = true ↔ ∃ bytes : List UInt8, bytes.length = size ∧
      value = .string (CodeUnits.ofString (Base64Url.encode bytes)) := by
  rw [Option.any_eq_true]
  constructor
  · rintro ⟨text, hplain, h⟩
    obtain ⟨units, hunits, htext⟩ := Option.bind_eq_some_iff.mp hplain
    obtain ⟨bytes, hsize, rfl⟩ := (htest text).mp h
    refine ⟨bytes, hsize, ?_⟩
    cases value with
    | string found =>
        cases hunits
        rw [CodeUnits.maybeText_eq_some.mp htext]
    | undefined => cases hunits
    | null => cases hunits
    | bool flag => cases hunits
    | number number => cases hunits
    | array elements => cases hunits
    | object members => cases hunits
  · rintro ⟨bytes, hsize, rfl⟩
    exact ⟨_, plainText_jsText _, (htest _).mpr ⟨bytes, hsize, rfl⟩⟩

/-- What was encoded is decoded; what is decoded was encoded exactly when its unused bits are
zero; and the tokens and nonces are the encodings of sixteen and of thirty-two bytes. -/
theorem base64Url_codec :
    (∀ (bytes : List UInt8) (maximumCharacters : ℕ), bytes ≠ [] →
      (Base64Url.encode bytes).length ≤ maximumCharacters →
      decodeBase64Url (CodeUnits.ofString (Base64Url.encode bytes)) maximumCharacters =
        some bytes) ∧
    (∀ (units : CodeUnits) (maximumCharacters : ℕ) (bytes : List UInt8),
      decodeBase64Url units maximumCharacters = some bytes →
      ∃ text, units = CodeUnits.ofString text ∧
        (Base64Url.encode bytes = text ↔ Base64Url.trailingBits text = 0)) ∧
    (∀ value : JsValue, (plainText value).any serialToken = true ↔
      ∃ bytes : List UInt8, bytes.length = 16 ∧
        value = .string (CodeUnits.ofString (Base64Url.encode bytes))) ∧
    ∀ value : JsValue, (plainText value).any serialNonce = true ↔
      ∃ bytes : List UInt8, bytes.length = 32 ∧
        value = .string (CodeUnits.ofString (Base64Url.encode bytes)) := by
  refine ⟨?_, ?_, fun value => any_plainText_iff fun text => serialToken_iff,
    fun value => any_plainText_iff fun text => serialNonce_iff⟩
  · intro bytes maximumCharacters hsome hfits
    rw [Base64Url.length_encode] at hfits
    exact decodeBase64Url_encode hsome hfits
  · intro units maximumCharacters bytes h
    obtain ⟨text, rfl, hdecode⟩ := decode_of_decodeBase64Url h
    exact ⟨text, rfl, Base64Url.encode_decode_iff hdecode⟩

/-- Four bits of the text `AB` belong to no byte, and one of them is set. -/
theorem base64Url_codec_dropped_bits :
    decodeBase64Url (CodeUnits.ofString "AB") 2 = some [0] ∧
      decodeBase64Url (CodeUnits.ofString (Base64Url.encode [0])) 2 = some [0] ∧
      ∃ text, CodeUnits.ofString "AB" = CodeUnits.ofString text ∧
        (Base64Url.encode [0] = text ↔ Base64Url.trailingBits text = 0) := by
  have hdecoded : decodeBase64Url (CodeUnits.ofString "AB") 2 = some [0] := by decide +kernel
  exact ⟨hdecoded, base64Url_codec.1 [0] 2 (by decide) (by decide +kernel),
    base64Url_codec.2.1 _ 2 [0] hdecoded⟩

end WorkGate
