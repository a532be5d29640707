/-
# Base58Check addresses (src/pool_offer/selection.rs)

The Authority accepts exactly the texts that spell a version, twenty bytes and their checksum.
-/

import WorkGate.Headless.Base58
import WorkGate.Library.Radix

namespace WorkGate

open WorkGate.Library

/-- Bytes in Base58: one `1` for each zero in front, then the digits of the number. -/
def base58Encode (bytes : List UInt8) : String :=
  String.ofList ((Radix.convert 256 58 (bytes.map UInt8.toNat)).map
    fun digit => base58Alphabet.getD digit '1')

/-- The first bytes of the hash of the hash. -/
def base58Checksum (deps : Dependencies) (bytes : List UInt8) : List UInt8 :=
  (deps.sha256 (deps.sha256 bytes)).take 4

/-- What an address of the main net spells. -/
def IsBase58checkMainnet (deps : Dependencies) (value : String) : Prop :=
  ∃ version payload, (version = 0x00 ∨ version = 0x05) ∧ payload.length = 20 ∧
    value = base58Encode (version :: payload ++ base58Checksum deps (version :: payload))

/-! ## Digits -/

theorem idxOf?_base58Alphabet :
    ∀ digit < 58, base58Alphabet.idxOf? (base58Alphabet.getD digit '1') = some digit :=
  fun digit hdigit => (Headless.base58Alphabet_table digit hdigit).1

/-- A text has digits when it is written with them. -/
theorem mapM_base58Alphabet_iff {characters : List Char} {digits : List ℕ} :
    (characters.mapM fun character => base58Alphabet.idxOf? character) = some digits ↔
      (∀ digit ∈ digits, digit < 58) ∧
        characters = digits.map fun digit => base58Alphabet.getD digit '1' := by
  induction characters generalizing digits with
  | nil =>
      rw [List.mapM_nil, Option.pure_def, Option.some_inj]
      constructor
      · intro h
        rw [← h]
        exact ⟨fun _ hmem => absurd hmem List.not_mem_nil, rfl⟩
      · intro h
        exact (List.map_eq_nil_iff.mp h.2.symm).symm
  | cons character characters ih =>
      simp only [List.mapM_cons, Option.bind_eq_bind, Option.pure_def, Option.bind_eq_some_iff,
        Option.some_inj]
      constructor
      · rintro ⟨digit, hdigit, rest, hrest, rfl⟩
        obtain ⟨hbelow, hspelled⟩ := ih.mp hrest
        obtain ⟨hlt, hcharacter, -⟩ := List.idxOf?_eq_some_iff.mp hdigit
        have hsmall : digit < 58 := hlt
        rw [List.forall_mem_cons, List.map_cons, ← hspelled, List.getD_eq_getElem _ _ hlt,
          hcharacter]
        exact ⟨⟨hsmall, hbelow⟩, rfl⟩
      · rintro ⟨hbelow, hspelled⟩
        cases digits with
        | nil => cases hspelled
        | cons digit rest =>
            rw [List.forall_mem_cons] at hbelow
            obtain ⟨rfl, hrest⟩ := List.cons.inj hspelled
            exact ⟨digit, idxOf?_base58Alphabet digit hbelow.1, rest,
              ih.mpr ⟨hbelow.2, hrest⟩, rfl⟩

/-- The digits of some bytes, as numbers. -/
theorem map_toNat_ofNat {digits : List ℕ} (h : ∀ digit ∈ digits, digit < 256) :
    (digits.map UInt8.ofNat).map UInt8.toNat = digits := by
  induction digits with
  | nil => rfl
  | cons digit digits ih =>
      rw [List.forall_mem_cons] at h
      rw [List.map_cons, List.map_cons, ih h.2, UInt8.toNat_ofNat', Nat.mod_eq_of_lt h.1]

theorem toNat_lt_of_mem {bytes : List UInt8} : ∀ digit ∈ bytes.map UInt8.toNat, digit < 256 := by
  intro digit hmem
  obtain ⟨byte, -, rfl⟩ := List.mem_map.mp hmem
  exact byte.toNat_lt

/-- What the loop decodes is the number in the other radix. -/
theorem decoded_eq {characters : List Char} {digits : List ℕ}
    (h : (characters.mapM fun character => base58Alphabet.idxOf? character) = some digits) :
    List.replicate (characters.takeWhile (· == '1')).length 0 ++
        (digits.foldl (fun bytes digit => pushBase58 digit bytes) []).reverse =
      (Radix.convert 58 256 digits).map UInt8.ofNat := by
  have hbytes := Headless.foldl_pushBase58 digits 0
  rw [Nat.digits_zero, List.map_nil] at hbytes
  have hvalue : Headless.numericFrom 0 digits = Radix.value 58 digits :=
    (Radix.value_eq_foldl 58 digits).symm
  rw [hbytes, hvalue, (Headless.digits_of_mapM h).2.2.1, Radix.convert, List.map_append,
    List.map_replicate, List.map_reverse]
  rfl

/-! ## Bytes -/

/-- What the Authority asks of decoded bytes. -/
def acceptsDecoded (deps : Dependencies) (decoded : List UInt8) : Bool :=
  decoded.length == 25 && (decoded.head? == some 0x00 || decoded.head? == some 0x05) &&
    decoded.drop 21 == base58Checksum deps (decoded.take 21)

theorem length_base58Checksum (deps : Dependencies) (bytes : List UInt8) :
    (base58Checksum deps bytes).length = 4 := by
  rw [base58Checksum, List.length_take, deps.sha256_length]
  rfl

theorem acceptsDecoded_iff {deps : Dependencies} {decoded : List UInt8} :
    acceptsDecoded deps decoded = true ↔
      ∃ version payload, (version = 0x00 ∨ version = 0x05) ∧ payload.length = 20 ∧
        decoded = version :: payload ++ base58Checksum deps (version :: payload) := by
  constructor
  · intro h
    rw [acceptsDecoded, Bool.and_eq_true, Bool.and_eq_true, Bool.or_eq_true, beq_iff_eq,
      beq_iff_eq, beq_iff_eq, beq_iff_eq] at h
    obtain ⟨⟨hlength, hversion⟩, hchecksum⟩ := h
    cases decoded with
    | nil => cases hlength
    | cons version rest =>
        have htaken : (version :: rest).take 21 = version :: rest.take 20 := rfl
        have hpayload : (rest.take 20).length = 20 := by
          rw [List.length_cons] at hlength
          rw [List.length_take]
          omega
        refine ⟨version, rest.take 20, ?_, hpayload, ?_⟩
        · simpa using hversion
        · rw [← htaken, ← hchecksum, List.take_append_drop]
  · rintro ⟨version, payload, hversion, hlength, rfl⟩
    have htaken : (version :: payload ++ base58Checksum deps (version :: payload)).take 21 =
        version :: payload := List.take_left' (by rw [List.length_cons, hlength])
    have hdropped : (version :: payload ++ base58Checksum deps (version :: payload)).drop 21 =
        base58Checksum deps (version :: payload) :=
      List.drop_left' (by rw [List.length_cons, hlength])
    rw [acceptsDecoded, htaken, hdropped, List.length_append, length_base58Checksum,
      List.length_cons, hlength]
    simpa using hversion

/-- The Authority accepts an address exactly when it spells a version, a payload and their
checksum. -/
theorem validBase58checkMainnet_iff (deps : Dependencies) (value : String) :
    validBase58checkMainnet deps value = true ↔ IsBase58checkMainnet deps value := by
  constructor
  · intro h
    rw [validBase58checkMainnet] at h
    cases hdigits : value.toList.mapM fun character => base58Alphabet.idxOf? character with
    | none =>
        rw [hdigits] at h
        cases h
    | some digits =>
        rw [hdigits] at h
        dsimp only at h
        rw [decoded_eq hdigits] at h
        obtain ⟨version, payload, hversion, hlength, hdecoded⟩ := acceptsDecoded_iff.mp h
        obtain ⟨hbelow, hspelled⟩ := mapM_base58Alphabet_iff.mp hdigits
        refine ⟨version, payload, hversion, hlength, ?_⟩
        have hbytes : ∀ digit ∈ Radix.convert 58 256 digits, digit < 256 :=
          fun digit hmem => Radix.lt_of_mem_convert (by decide) hmem
        rw [base58Encode, ← hdecoded, map_toNat_ofNat hbytes,
          Radix.convert_convert (by decide) hbelow, ← hspelled, String.ofList_toList]
  · rintro ⟨version, payload, hversion, hlength, rfl⟩
    generalize hbytes : version :: payload ++ base58Checksum deps (version :: payload) = bytes
    have hdigits : ((base58Encode bytes).toList.mapM
        fun character => base58Alphabet.idxOf? character) =
        some (Radix.convert 256 58 (bytes.map UInt8.toNat)) := by
      rw [base58Encode, String.toList_ofList]
      exact mapM_base58Alphabet_iff.mpr
        ⟨fun digit hmem => Radix.lt_of_mem_convert (by decide) hmem, rfl⟩
    have hback : (Radix.convert 58 256 (Radix.convert 256 58 (bytes.map UInt8.toNat))).map
        UInt8.ofNat = bytes := by
      have hsame : UInt8.ofNat ∘ UInt8.toNat = id := by
        funext byte
        exact UInt8.ofNat_toNat
      rw [Radix.convert_convert (by decide) toNat_lt_of_mem, List.map_map, hsame, List.map_id]
    rw [validBase58checkMainnet, hdigits]
    dsimp only
    rw [decoded_eq hdigits, hback]
    exact acceptsDecoded_iff.mpr ⟨version, payload, hversion, hlength, hbytes.symm⟩

end WorkGate
