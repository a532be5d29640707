/-
# Base58Check on both sides (src/pool_offer/selection.rs, web/headless-pool-offer.ts)

The Authority multiplies a little-endian list of bytes by 58 for each character; the client has
one large integer and takes its bytes at the end.  Both come to the digits of one number in base
256, and a text that decodes to 25 bytes has a length the client admits.
-/

import Mathlib.Data.Nat.Digits.Lemmas
import WorkGate.Headless.PayoutAddresses

namespace WorkGate.Headless

open WorkGate.Library

/-- The number that base 58 digits make below another. -/
def numericFrom (numeric : ℕ) (digits : List ℕ) : ℕ :=
  digits.foldl (fun numeric digit => numeric * 58 + digit) numeric

/-! ## The decoded bytes -/

/-- One round of the Authority's loop keeps the bytes those of a number. -/
theorem pushBase58_digits (carry numeric : ℕ) :
    pushBase58 carry ((Nat.digits 256 numeric).map UInt8.ofNat) =
      (Nat.digits 256 (numeric * 58 + carry)).map UInt8.ofNat := by
  induction numeric using Nat.strong_induction_on generalizing carry with
  | h numeric ih =>
      by_cases hzero : numeric = 0
      · rw [hzero, Nat.zero_mul, Nat.zero_add, Nat.digits_zero]
        rfl
      · have hpositive : 0 < numeric := Nat.pos_of_ne_zero hzero
        have hsplit : numeric * 58 + carry =
            256 * (numeric / 256 * 58) + (numeric % 256 * 58 + carry) := by omega
        have hbyte : (UInt8.ofNat (numeric % 256)).toNat = numeric % 256 := by
          rw [UInt8.toNat_ofNat']
          exact Nat.mod_mod _ _
        have hlow : (numeric * 58 + carry) % 256 = (numeric % 256 * 58 + carry) % 256 := by
          rw [hsplit, Nat.mul_add_mod]
        have hhigh : (numeric * 58 + carry) / 256 =
            numeric / 256 * 58 + (numeric % 256 * 58 + carry) / 256 := by
          rw [hsplit, Nat.mul_add_div (by decide)]
        rw [Nat.digits_def' (by decide) hpositive, List.map_cons, pushBase58, hbyte,
          ih _ (Nat.div_lt_self hpositive (by decide)),
          Nat.digits_def' (by decide) (by omega : 0 < numeric * 58 + carry), List.map_cons, hlow,
          hhigh]
        congr 1
        apply UInt8.toNat_inj.mp
        rw [UInt8.toNat_ofNat', UInt8.toNat_ofNat', Nat.mod_mod]

theorem foldl_pushBase58 (digits : List ℕ) (numeric : ℕ) :
    digits.foldl (fun bytes digit => pushBase58 digit bytes)
        ((Nat.digits 256 numeric).map UInt8.ofNat) =
      (Nat.digits 256 (numericFrom numeric digits)).map UInt8.ofNat := by
  induction digits generalizing numeric with
  | nil => rfl
  | cons digit digits ih =>
      rw [List.foldl_cons, pushBase58_digits, ih]
      rfl

/-- The client's loop puts the bytes of a number in front, the leading one first. -/
theorem unshiftBytes_eq (numeric : ℕ) (decoded : List UInt8) :
    unshiftBytes numeric decoded =
      ((Nat.digits 256 numeric).map UInt8.ofNat).reverse ++ decoded := by
  induction numeric using Nat.strong_induction_on generalizing decoded with
  | h numeric ih =>
      rw [unshiftBytes]
      split
      · next hpositive =>
          have hbyte : numeric &&& 0xff = numeric % 256 := Nat.and_two_pow_sub_one_eq_mod numeric 8
          have hrest : numeric >>> 8 = numeric / 256 := Nat.shiftRight_eq_div_pow numeric 8
          rw [hbyte, hrest, ih _ (Nat.div_lt_self hpositive (by decide)),
            Nat.digits_def' (by decide) hpositive, List.map_cons, List.reverse_cons,
            List.append_assoc, List.singleton_append]
      · next hzero =>
          rw [Nat.eq_zero_of_not_pos hzero, Nat.digits_zero]
          rfl

theorem foldl_unshift_zero (characters : List Char) (decoded : List UInt8) :
    characters.foldl (fun decoded _ => 0 :: decoded) decoded =
      List.replicate characters.length 0 ++ decoded := by
  induction characters generalizing decoded with
  | nil => rfl
  | cons character characters ih =>
      rw [List.foldl_cons, ih, List.length_cons, List.replicate_succ', List.append_assoc,
        List.singleton_append]

/-- The client compares the four bytes of the checksum as the Authority does. -/
theorem all_zipIdx_eq (checksum digest : List UInt8) (h : checksum.length = 4) :
    checksum.zipIdx.all (fun (byte, index) => digest[index]? == some byte) =
      (checksum == digest.take 4) := by
  rw [Bool.eq_iff_iff, List.all_eq_true, beq_iff_eq, ← h, ← List.prefix_iff_eq_take,
    List.prefix_iff_getElem?]
  constructor
  · intro hall index hindex
    have hmem : (checksum[index], index) ∈ checksum.zipIdx := by
      rw [List.mem_zipIdx_iff_getElem?]
      exact List.getElem?_eq_getElem hindex
    exact beq_iff_eq.mp (hall _ hmem)
  · rintro hprefix ⟨byte, index⟩ hmem
    rw [List.mem_zipIdx_iff_getElem?] at hmem
    obtain ⟨hindex, hbyte⟩ := List.getElem?_eq_some_iff.mp hmem
    rw [beq_iff_eq, hprefix index hindex, hbyte]

/-- Both sides judge Base58Check texts alike. -/
theorem validBase58CheckMainnet_eq (deps : Dependencies) (address : String) :
    validBase58CheckMainnet deps address = validBase58checkMainnet deps address := by
  rw [validBase58CheckMainnet, validBase58checkMainnet]
  cases address.toList.mapM fun character => base58Alphabet.idxOf? character with
  | none => rfl
  | some digits =>
      have hbytes := foldl_pushBase58 digits 0
      rw [Nat.digits_zero, List.map_nil] at hbytes
      dsimp only
      rw [hbytes, foldl_unshift_zero, unshiftBytes_eq, List.append_nil, ← numericFrom]
      generalize List.replicate (address.toList.takeWhile (· == '1')).length (0 : UInt8) ++
        ((Nat.digits 256 (numericFrom 0 digits)).map UInt8.ofNat).reverse = decoded
      by_cases hlength : decoded.length = 25
      · have hchecksum : (decoded.drop 21).length = 4 := by
          rw [List.length_drop, hlength]
        rw [all_zipIdx_eq _ _ hchecksum, hlength]
        cases decoded.head? with
        | none => rfl
        | some first =>
            by_cases hzero : first = 0
            · simp [hzero]
            · by_cases hfive : first = 5
              · simp [hfive]
              · simp [hzero, hfive]
      · simp [hlength]

/-! ## Lengths -/

/-- Digits below a number multiply it and add less than the power they have grown by. -/
theorem numericFrom_bounds {digits : List ℕ} (h : ∀ digit ∈ digits, digit < 58) (numeric : ℕ) :
    numeric * 58 ^ digits.length ≤ numericFrom numeric digits ∧
      numericFrom numeric digits < (numeric + 1) * 58 ^ digits.length := by
  induction digits generalizing numeric with
  | nil =>
      rw [numericFrom, List.foldl_nil, List.length_nil, Nat.pow_zero, Nat.mul_one, Nat.mul_one]
      exact ⟨le_rfl, Nat.lt_succ_self numeric⟩
  | cons digit digits ih =>
      rw [List.forall_mem_cons] at h
      obtain ⟨hlower, hupper⟩ := ih h.2 (numeric * 58 + digit)
      rw [List.length_cons, Nat.pow_succ']
      constructor
      · calc numeric * (58 * 58 ^ digits.length) = numeric * 58 * 58 ^ digits.length := by
              rw [Nat.mul_assoc]
          _ ≤ (numeric * 58 + digit) * 58 ^ digits.length :=
              Nat.mul_le_mul_right _ (Nat.le_add_right _ _)
          _ ≤ numericFrom numeric (digit :: digits) := hlower
      · calc numericFrom numeric (digit :: digits)
            < (numeric * 58 + digit + 1) * 58 ^ digits.length := hupper
          _ ≤ (numeric + 1) * 58 * 58 ^ digits.length :=
              Nat.mul_le_mul_right _ (by omega)
          _ = (numeric + 1) * (58 * 58 ^ digits.length) := by rw [Nat.mul_assoc]

/-- After its leading zeros a number has the size its digits give it. -/
theorem numericFrom_size {digits : List ℕ} (h : ∀ digit ∈ digits, digit < 58) :
    ∃ rest, digits.length = (digits.takeWhile (· == 0)).length + rest ∧
      numericFrom 0 digits < 58 ^ rest ∧
        (rest ≠ 0 → 58 ^ (rest - 1) ≤ numericFrom 0 digits) := by
  induction digits with
  | nil => exact ⟨0, rfl, Nat.one_pos, fun hrest => absurd rfl hrest⟩
  | cons digit digits ih =>
      rw [List.forall_mem_cons] at h
      by_cases hzero : digit = 0
      · obtain ⟨rest, hlength, hupper, hlower⟩ := ih h.2
        refine ⟨rest, ?_, ?_, ?_⟩
        · rw [hzero, List.takeWhile_cons_of_pos rfl, List.length_cons, List.length_cons, hlength]
          omega
        · rw [hzero]
          exact hupper
        · rw [hzero]
          exact hlower
      · obtain ⟨hlower, hupper⟩ := numericFrom_bounds h.2 digit
        have hfirst : numericFrom 0 (digit :: digits) = numericFrom digit digits := by
          rw [numericFrom, List.foldl_cons, Nat.zero_mul, Nat.zero_add]
          rfl
        refine ⟨digits.length + 1, ?_, ?_, fun _ => ?_⟩
        · rw [List.takeWhile_cons_of_neg (by simpa using hzero), List.length_nil, List.length_cons,
            Nat.zero_add]
        · rw [hfirst, Nat.pow_succ']
          exact hupper.trans_le (Nat.mul_le_mul_right _ h.1)
        · rw [hfirst, Nat.add_sub_cancel]
          calc 58 ^ digits.length = 1 * 58 ^ digits.length := (Nat.one_mul _).symm
            _ ≤ digit * 58 ^ digits.length :=
                Nat.mul_le_mul_right _ (Nat.one_le_iff_ne_zero.mpr hzero)
            _ ≤ numericFrom digit digits := hlower

/-- The characters of the digits: each has its place, and is ASCII. -/
theorem base58Alphabet_table : ∀ digit < 58,
    base58Alphabet.idxOf? (base58Alphabet.getD digit '1') = some digit ∧
      (base58Alphabet.getD digit '1').toNat < 128 ∧
      (base58Alphabet.getD digit '1' = '1' ↔ digit = 0) := by
  decide +kernel

/-- What the digits of a text say of its characters. -/
theorem digits_of_mapM {characters : List Char} {digits : List ℕ}
    (h : (characters.mapM fun character => base58Alphabet.idxOf? character) = some digits) :
    characters.length = digits.length ∧ (∀ digit ∈ digits, digit < 58) ∧
      (characters.takeWhile (· == '1')).length = (digits.takeWhile (· == 0)).length ∧
        ∀ character ∈ characters, character.toNat < 128 := by
  induction characters generalizing digits with
  | nil =>
      rw [List.mapM_nil, Option.pure_def, Option.some_inj] at h
      subst h
      simp
  | cons character characters ih =>
      simp only [List.mapM_cons, Option.bind_eq_bind, Option.pure_def, Option.bind_eq_some_iff,
        Option.some_inj] at h
      obtain ⟨digit, hdigit, rest, hrest, rfl⟩ := h
      obtain ⟨hlength, hdigits, hzeros, hascii⟩ := ih hrest
      obtain ⟨hlt, hcharacter, -⟩ := List.idxOf?_eq_some_iff.mp hdigit
      have hsmall : digit < 58 := hlt
      have hfacts := (base58Alphabet_table digit hsmall).2
      rw [List.getD_eq_getElem _ _ hlt, hcharacter] at hfacts
      refine ⟨by rw [List.length_cons, List.length_cons, hlength], ?_, ?_, ?_⟩
      · rw [List.forall_mem_cons]
        exact ⟨hsmall, hdigits⟩
      · by_cases hzero : digit = 0
        · rw [hzero, hfacts.2.mpr hzero, List.takeWhile_cons_of_pos rfl,
            List.takeWhile_cons_of_pos rfl, List.length_cons, List.length_cons, hzeros]
        · have hone := mt hfacts.2.mp hzero
          rw [List.takeWhile_cons_of_neg (by simpa using hone),
            List.takeWhile_cons_of_neg (by simpa using hzero)]
          rfl
      · rw [List.forall_mem_cons]
        exact ⟨hfacts.1, hascii⟩

/-- A text that decodes to 25 bytes has between 25 and 50 characters. -/
theorem length_of_validBase58 {deps : Dependencies} {address : String}
    (h : validBase58checkMainnet deps address = true) :
    (∀ character ∈ address.toList, character.toNat < 128) ∧
      25 ≤ address.toList.length ∧ address.toList.length ≤ 50 := by
  rw [validBase58checkMainnet] at h
  cases hdigits : address.toList.mapM fun character => base58Alphabet.idxOf? character with
  | none =>
      rw [hdigits] at h
      cases h
  | some digits =>
      rw [hdigits] at h
      dsimp only at h
      obtain ⟨hlength, hbelow, hzeros, hascii⟩ := digits_of_mapM hdigits
      refine ⟨hascii, ?_⟩
      have hbytes := foldl_pushBase58 digits 0
      rw [Nat.digits_zero, List.map_nil] at hbytes
      rw [hbytes, Bool.and_eq_true, Bool.and_eq_true, beq_iff_eq, List.length_append,
        List.length_replicate, List.length_reverse, List.length_map, hzeros] at h
      have htotal := h.1.1
      obtain ⟨rest, hrest, hupper, hlower⟩ := numericFrom_size hbelow
      rw [hlength, hrest]
      have hfits : numericFrom 0 digits < 256 ^ (Nat.digits 256 (numericFrom 0 digits)).length :=
        Nat.lt_base_pow_length_digits (by decide)
      constructor
      · by_cases hnumeric : numericFrom 0 digits = 0
        · rw [hnumeric, Nat.digits_zero, List.length_nil] at htotal
          omega
        · have hfilled := Nat.base_pow_length_digits_le 256 _ (by decide) hnumeric
          have hcompare : 256 ^ (Nat.digits 256 (numericFrom 0 digits)).length <
              256 ^ (rest + 1) := by
            calc 256 ^ (Nat.digits 256 (numericFrom 0 digits)).length
                ≤ 256 * numericFrom 0 digits := hfilled
              _ < 256 * 58 ^ rest := Nat.mul_lt_mul_of_pos_left hupper (by decide)
              _ ≤ 256 * 256 ^ rest :=
                  Nat.mul_le_mul_left _ (Nat.pow_le_pow_left (by decide) rest)
              _ = 256 ^ (rest + 1) := (Nat.pow_succ').symm
          have hexponent := (Nat.pow_lt_pow_iff_right (by decide)).mp hcompare
          omega
      · by_cases hempty : rest = 0
        · omega
        · have hcompare : 58 ^ (rest - 1) <
              58 ^ (2 * (Nat.digits 256 (numericFrom 0 digits)).length) := by
            calc 58 ^ (rest - 1) ≤ numericFrom 0 digits := hlower hempty
              _ < 256 ^ (Nat.digits 256 (numericFrom 0 digits)).length := hfits
              _ ≤ (58 ^ 2) ^ (Nat.digits 256 (numericFrom 0 digits)).length :=
                  Nat.pow_le_pow_left (by decide) _
              _ = 58 ^ (2 * (Nat.digits 256 (numericFrom 0 digits)).length) :=
                  (Nat.pow_mul 58 2 _).symm
          have hexponent := (Nat.pow_lt_pow_iff_right (by decide)).mp hcompare
          omega

end WorkGate.Headless
