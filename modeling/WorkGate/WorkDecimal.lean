/-
# Work values as decimal text (src/work.rs)

JSON contracts carry work as a decimal string.  Parsing multiplies and adds over the bytes
of the text and printing divides by ten, both in 64-bit limbs with 128-bit columns; the
text is accepted only in the form in which it is printed.
-/

import WorkGate.Library.Ascii
import WorkGate.Library.Decimal
import WorkGate.Work

namespace WorkGate

open WorkGate.Library

namespace Uint256

def maybeCheckedMulSmallAdd (x : Uint256) (multiplier addend : BitVec 64) : Option Uint256 :=
  let product := Limbs.mulAddLimbs x.limbs (multiplier.setWidth 128) (addend.setWidth 128)
  if product.2 = 0 then some ⟨product.1, by rw [Limbs.length_mulAddLimbs, x.size]⟩ else none

def divideSmall (x : Uint256) (divisor : BitVec 64) : Uint256 × BitVec 64 :=
  let columns := Limbs.divideLimbs x.limbs (divisor.setWidth 128)
  (⟨columns.1.map (BitVec.setWidth 64), by rw [List.length_map, Limbs.length_divideLimbs, x.size]⟩,
    columns.2.setWidth 64)

theorem toNat_setWidth_wide (word : BitVec 64) : (word.setWidth 128).toNat = word.toNat := by
  have hword := word.isLt
  rw [BitVec.toNat_setWidth, Nat.mod_eq_of_lt (by omega)]

/-- The checked multiplication is exact, and refused exactly when the result does not fit
256 bits. -/
theorem maybeCheckedMulSmallAdd_eq_some_iff {x z : Uint256} {multiplier addend : BitVec 64} :
    x.maybeCheckedMulSmallAdd multiplier addend = some z ↔
      z.toNat = x.toNat * multiplier.toNat + addend.toNat := by
  have hexact := (Limbs.value_mulAddLimbs (by decide : 2 ^ 64 * 2 ^ 64 ≤ 2 ^ 128) x.limbs
    (multiplier.setWidth 128) (addend.setWidth 128) (by rw [toNat_setWidth_wide]; exact multiplier.isLt)
    (by rw [toNat_setWidth_wide]; exact addend.isLt)).1
  rw [toNat_setWidth_wide, toNat_setWidth_wide, x.size] at hexact
  constructor
  · intro h
    simp only [maybeCheckedMulSmallAdd] at h
    split at h
    · next hcarry =>
        cases h
        simpa [hcarry, toNat] using hexact
    · cases h
  · intro h
    have hfits := z.toNat_lt
    have hcarry : (Limbs.mulAddLimbs x.limbs (multiplier.setWidth 128)
        (addend.setWidth 128)).2 = 0 := by
      apply BitVec.eq_of_toNat_eq
      by_contra hcarry
      have hpositive := Nat.pos_of_ne_zero hcarry
      have hlarge := Nat.mul_le_mul_left (2 ^ (64 * 4)) hpositive
      simp only [toNat] at h hfits
      norm_num at hlarge hexact hfits
      omega
    simp only [maybeCheckedMulSmallAdd, hcarry, ↓reduceIte, Option.some.injEq]
    apply toNat_injective
    rw [h]
    simpa [hcarry, toNat] using hexact

/-- Dividing by a small number computes quotient and remainder. -/
theorem divideSmall_spec (x : Uint256) (divisor : BitVec 64) (hpositive : 0 < divisor.toNat) :
    (x.divideSmall divisor).1.toNat = x.toNat / divisor.toNat ∧
      (x.divideSmall divisor).2.toNat = x.toNat % divisor.toNat := by
  have hdivisor := divisor.isLt
  obtain ⟨hexact, hremainder, -⟩ := Limbs.value_divideLimbs x.limbs
    (divisor.setWidth 128) (by rwa [toNat_setWidth_wide])
    (by rw [toNat_setWidth_wide]; omega)
  rw [toNat_setWidth_wide] at hexact hremainder
  simp only [divideSmall, toNat]
  rw [BitVec.toNat_setWidth, Nat.mod_eq_of_lt (hremainder.trans hdivisor), ← hexact]
  constructor
  · rw [Nat.mul_comm, Nat.mul_add_div hpositive, Nat.div_eq_of_lt hremainder, Nat.add_zero]
  · rw [Nat.mul_comm, Nat.mul_add_mod, Nat.mod_eq_of_lt hremainder]

theorem toNat_pos_of_ne_zero {x : Uint256} (h : x ≠ zero) : 0 < x.toNat := by
  apply Nat.pos_of_ne_zero
  intro hzero
  apply h
  apply toNat_injective
  rw [hzero, toNat_zero]

/-- The digits pushed by the printing loop, the least significant first. -/
def decimalDigits (remaining : Uint256) : List Char :=
  if h : remaining = zero then []
  else
    let column := remaining.divideSmall 10
    Char.ofNat (48 + UInt8.ofNat column.2.toNat).toNat :: decimalDigits column.1
termination_by remaining.toNat
decreasing_by
  rw [(remaining.divideSmall_spec 10 (by decide)).1]
  exact Nat.div_lt_self (toNat_pos_of_ne_zero h) (by decide)

def toDecimalString (x : Uint256) : String :=
  if x = zero then "0" else String.ofList x.decimalDigits.reverse

/-- The loop pushes the digits of the number. -/
theorem reverse_decimalDigits (x : Uint256) (hne : x ≠ zero) :
    x.decimalDigits.reverse = Nat.toDigits 10 x.toNat := by
  induction x using decimalDigits.induct with
  | case1 => exact absurd rfl hne
  | case2 x h column ih =>
      have hdigit : ∀ value < 10, Char.ofNat (48 + UInt8.ofNat value).toNat = value.digitChar := by
        decide
      obtain ⟨hquotient, hremainder⟩ := x.divideSmall_spec 10 (by decide)
      have hten : (10 : BitVec 64).toNat = 10 := by decide
      rw [hten] at hquotient hremainder
      rw [decimalDigits, dif_neg h, List.reverse_cons]
      simp only [hremainder]
      rw [hdigit _ (Nat.mod_lt _ (by decide))]
      by_cases hlast : (x.divideSmall 10).1 = zero
      · rw [hlast, toNat_zero] at hquotient
        have hsmall : x.toNat < 10 := by omega
        rw [hlast, decimalDigits, dif_pos rfl, Nat.toDigits_of_lt_base hsmall,
          Nat.mod_eq_of_lt hsmall]
        rfl
      · have hpositive := toNat_pos_of_ne_zero hlast
        rw [ih hlast, hquotient, ← Nat.toDigits_of_base_le (by decide) (by omega)]

/-- What is printed is the decimal text of the number. -/
theorem toList_toDecimalString (x : Uint256) :
    x.toDecimalString.toList = Nat.toDigits 10 x.toNat := by
  rw [toDecimalString]
  split
  · next hzero => rw [hzero, toNat_zero]; rfl
  · next hne => rw [String.toList_ofList, reverse_decimalDigits x hne]

end Uint256

def CreditedWork.toDecimalString (work : CreditedWork) : String := work.value.toDecimalString

def VerifiedProgress.toDecimalString (progress : VerifiedProgress) : String :=
  progress.value.toDecimalString

/-- `u8::is_ascii_digit`. -/
def isAsciiDigit (byte : UInt8) : Bool := 48 ≤ byte && byte ≤ 57

/-- The form of the text: not empty, no zero in front, digits only. -/
def isCanonicalWork (value : String) : Bool :=
  !value.isEmpty && !(value.toList.head? == some '0') && (asBytes value).all isAsciiDigit

/-- The loop over the bytes of the text. -/
def parseWork (parsed : Uint256) : List UInt8 → Except WorkError Uint256
  | [] => .ok parsed
  | byte :: bytes =>
      match parsed.maybeCheckedMulSmallAdd 10 (BitVec.ofNat 64 (byte - 48).toNat) with
      | some next => parseWork next bytes
      | none => .error .creditedWorkOverflow

theorem isCanonicalWork_iff (value : String) :
    isCanonicalWork value = true ↔ Decimal.Canonical value.toList := by
  have hdigit : ∀ byte, isAsciiDigit byte = true → byte.toNat < 128 := by
    intro byte hbyte
    simp only [isAsciiDigit, Bool.and_eq_true, decide_eq_true_eq, UInt8.le_iff_toNat_le] at hbyte
    exact Nat.lt_of_le_of_lt hbyte.2 (by decide)
  have hbytes := forall_mem_asBytes_iff hdigit value
  have hcharacter (character : Char) : (character.toNat < 128 ∧
      isAsciiDigit (asciiByte character) = true) ↔ character.isDigit = true := by
    constructor
    · rintro ⟨hascii, htest⟩
      simp only [isAsciiDigit, Bool.and_eq_true, decide_eq_true_eq, UInt8.le_iff_toNat_le,
        toNat_asciiByte hascii] at htest
      simp only [Char.isDigit, Bool.and_eq_true, decide_eq_true_eq]
      exact htest
    · intro h
      have hbounds := Decimal.toNat_of_isDigit h
      have hascii : character.toNat < 128 := by omega
      refine ⟨hascii, ?_⟩
      simp only [isAsciiDigit, Bool.and_eq_true, decide_eq_true_eq, UInt8.le_iff_toNat_le,
        toNat_asciiByte hascii]
      exact hbounds
  simp only [hcharacter] at hbytes
  rw [isCanonicalWork, Bool.and_eq_true, Bool.and_eq_true, List.all_eq_true, hbytes]
  constructor
  · rintro ⟨⟨hnonempty, hleading⟩, hdigits⟩
    refine ⟨?_, by simpa using hleading, hdigits⟩
    intro hnil
    simp [String.toList_eq_nil_iff.mp hnil] at hnonempty
  · rintro ⟨hnonempty, hleading, hdigits⟩
    refine ⟨⟨?_, by simpa using hleading⟩, hdigits⟩
    simpa [String.isEmpty_iff, ← String.toList_eq_nil_iff] using hnonempty

theorem asBytes_of_digits {value : String}
    (hdigits : ∀ digit ∈ value.toList, digit.isDigit = true) :
    asBytes value = value.toList.map asciiByte := by
  apply asBytes_of_ascii
  intro digit hdigit
  have hbounds := Decimal.toNat_of_isDigit (hdigits digit hdigit)
  omega

theorem le_ofDigitChars (digits : List Char) (parsed : ℕ) :
    parsed ≤ Nat.ofDigitChars 10 digits parsed := by
  induction digits generalizing parsed with
  | nil => simp
  | cons digit digits ih =>
      rw [Nat.ofDigitChars_cons]
      have hrest := ih (10 * parsed + (digit.toNat - '0'.toNat))
      omega

/-- Reading digits one by one gives the number they write, and is refused exactly when
that number does not fit. -/
theorem parseWork_eq_ok_iff {digits : List Char} (hdigits : ∀ digit ∈ digits, digit.isDigit = true)
    (parsed result : Uint256) : parseWork parsed (digits.map asciiByte) = .ok result ↔
      result.toNat = Nat.ofDigitChars 10 digits parsed.toNat := by
  induction digits generalizing parsed with
  | nil =>
      rw [List.map_nil, parseWork, Nat.ofDigitChars_nil, Except.ok.injEq]
      constructor
      · rintro rfl
        rfl
      · intro h
        exact (Uint256.toNat_injective h).symm
  | cons digit digits ih =>
      rw [List.forall_mem_cons] at hdigits
      obtain ⟨hlow, hhigh⟩ := Decimal.toNat_of_isDigit hdigits.1
      have hbyte : (BitVec.ofNat 64 (asciiByte digit - 48).toNat).toNat = digit.toNat - 48 := by
        have hle : (48 : UInt8) ≤ asciiByte digit := by
          rw [UInt8.le_iff_toNat_le, toNat_asciiByte (by omega)]
          exact hlow
        rw [UInt8.toNat_sub_of_le _ _ hle, toNat_asciiByte (by omega), BitVec.toNat_ofNat]
        exact Nat.mod_eq_of_lt (by omega)
      have hten : (10 : BitVec 64).toNat = 10 := by decide
      have hnought : '0'.toNat = 48 := rfl
      rw [List.map_cons, parseWork, Nat.ofDigitChars_cons, hnought]
      split
      · next next hnext =>
          have hvalue := Uint256.maybeCheckedMulSmallAdd_eq_some_iff.mp hnext
          rw [hbyte, hten, Nat.mul_comm] at hvalue
          rw [ih hdigits.2, hvalue]
      · next hnone =>
          constructor
          · rintro ⟨⟩
          · intro h
            -- The number only grows with the digits left, so it cannot fit either.
            exfalso
            have hgrows := le_ofDigitChars digits (10 * parsed.toNat + (digit.toNat - 48))
            have hfits := result.toNat_lt
            obtain ⟨next, hnext⟩ := Uint256.exists_toNat_eq
              (10 * parsed.toNat + (digit.toNat - 48)) (by omega)
            have hsome : parsed.maybeCheckedMulSmallAdd 10
                (BitVec.ofNat 64 (asciiByte digit - 48).toNat) = some next := by
              rw [Uint256.maybeCheckedMulSmallAdd_eq_some_iff, hnext, hbyte, hten, Nat.mul_comm]
            rw [hsome] at hnone
            cases hnone

/-- `TryFrom<String> for CreditedWork`. -/
def CreditedWork.tryFrom (value : String) : Except WorkError CreditedWork :=
  if hcanonical : isCanonicalWork value = true then
    match hparsed : parseWork Uint256.zero (asBytes value) with
    | .ok parsed => .ok ⟨parsed, by
        have hform := (isCanonicalWork_iff value).mp hcanonical
        rw [asBytes_of_digits hform.all_digits, parseWork_eq_ok_iff hform.all_digits] at hparsed
        rw [hparsed, Uint256.toNat_zero]
        exact hform.ofDigitChars_pos⟩
    | .error error => .error error
  else .error .invalidCreditedWorkDecimal

/-- `TryFrom<String> for VerifiedProgress`. -/
def VerifiedProgress.tryFrom (value : String) : Except WorkError VerifiedProgress :=
  if value = "0" then .ok VerifiedProgress.zero
  else
    match CreditedWork.tryFrom value with
    | .ok work => .ok ⟨work.value⟩
    | .error error => .error error

/-- What is accepted: a canonical numeral whose number fits, read as that number. -/
theorem CreditedWork.tryFrom_eq_ok_iff {value : String} {work : CreditedWork} :
    CreditedWork.tryFrom value = .ok work ↔
      Decimal.Canonical value.toList ∧
        work.value.toNat = Nat.ofDigitChars 10 value.toList 0 := by
  rw [← isCanonicalWork_iff]
  constructor
  · intro h
    rw [CreditedWork.tryFrom] at h
    split at h
    · next hcanonical =>
        have hform := (isCanonicalWork_iff value).mp hcanonical
        split at h
        · next parsed hparsed =>
            cases h
            rw [asBytes_of_digits hform.all_digits, parseWork_eq_ok_iff hform.all_digits,
              Uint256.toNat_zero] at hparsed
            exact ⟨hcanonical, hparsed⟩
        · cases h
    · cases h
  · rintro ⟨hcanonical, hvalue⟩
    have hform := (isCanonicalWork_iff value).mp hcanonical
    have hparsed : parseWork Uint256.zero (asBytes value) = .ok work.value := by
      rw [asBytes_of_digits hform.all_digits, parseWork_eq_ok_iff hform.all_digits,
        Uint256.toNat_zero]
      exact hvalue
    rw [CreditedWork.tryFrom, dif_pos hcanonical]
    split
    · next parsed hother =>
        rw [hparsed] at hother
        cases hother
        rfl
    · next error hother =>
        rw [hparsed] at hother
        cases hother

theorem CreditedWork.canonical_toDecimalString (work : CreditedWork) :
    Decimal.Canonical work.toDecimalString.toList := by
  rw [CreditedWork.toDecimalString, Uint256.toList_toDecimalString]
  exact Decimal.canonical_toDigits work.positive

/-- The decimal codec of work values.  Every work value is read back from its text;
the texts accepted are exactly the canonical numerals of the numbers below `2 ^ 256`,
each read as its number and printed again as it was; and progress accepts these and
`"0"`. -/
theorem decimal_codec :
    (∀ work : CreditedWork, CreditedWork.tryFrom work.toDecimalString = .ok work) ∧
      (∀ value, (∃ work, CreditedWork.tryFrom value = .ok work) ↔
        Decimal.Canonical value.toList ∧ Nat.ofDigitChars 10 value.toList 0 < 2 ^ 256) ∧
      (∀ value work, CreditedWork.tryFrom value = .ok work →
        work.value.toNat = Nat.ofDigitChars 10 value.toList 0 ∧ work.toDecimalString = value) ∧
      (∀ value progress, VerifiedProgress.tryFrom value = .ok progress ↔
        value = "0" ∧ progress = VerifiedProgress.zero ∨
          ∃ work, CreditedWork.tryFrom value = .ok work ∧ progress = ⟨work.value⟩) ∧
      ∀ progress : VerifiedProgress,
        VerifiedProgress.tryFrom progress.toDecimalString = .ok progress := by
  have hback (work : CreditedWork) : CreditedWork.tryFrom work.toDecimalString = .ok work := by
    rw [CreditedWork.tryFrom_eq_ok_iff]
    refine ⟨work.canonical_toDecimalString, ?_⟩
    rw [CreditedWork.toDecimalString, Uint256.toList_toDecimalString,
      Nat.ofDigitChars_ten_toDigits]
  have hprogress (value : String) (progress : VerifiedProgress) :
      VerifiedProgress.tryFrom value = .ok progress ↔
        value = "0" ∧ progress = VerifiedProgress.zero ∨
          ∃ work, CreditedWork.tryFrom value = .ok work ∧ progress = ⟨work.value⟩ := by
    have hzero : ∀ work, CreditedWork.tryFrom "0" ≠ .ok work := by
      intro work hwork
      exact (CreditedWork.tryFrom_eq_ok_iff.mp hwork).1.no_leading_zero rfl
    rw [VerifiedProgress.tryFrom]
    split
    · next hvalue =>
        subst hvalue
        simp [hzero, eq_comm]
    · next hvalue =>
        cases CreditedWork.tryFrom value with
        | ok work => simp [hvalue, eq_comm]
        | error error => simp [hvalue]
  refine ⟨hback, ?_, ?_, hprogress, ?_⟩
  · intro value
    constructor
    · rintro ⟨work, hwork⟩
      obtain ⟨hcanonical, hvalue⟩ := CreditedWork.tryFrom_eq_ok_iff.mp hwork
      exact ⟨hcanonical, hvalue ▸ work.value.toNat_lt⟩
    · rintro ⟨hcanonical, hfits⟩
      obtain ⟨parsed, hparsed⟩ := Uint256.exists_toNat_eq _ hfits
      have hpositive : 0 < parsed.toNat := by
        rw [hparsed]
        exact hcanonical.ofDigitChars_pos
      exact ⟨⟨parsed, hpositive⟩, CreditedWork.tryFrom_eq_ok_iff.mpr ⟨hcanonical, hparsed⟩⟩
  · intro value work hwork
    obtain ⟨hcanonical, hvalue⟩ := CreditedWork.tryFrom_eq_ok_iff.mp hwork
    refine ⟨hvalue, ?_⟩
    apply String.toList_inj.mp
    rw [CreditedWork.toDecimalString, Uint256.toList_toDecimalString, hvalue,
      hcanonical.toDigits_ofDigitChars]
  · intro progress
    rw [hprogress]
    by_cases hzero : progress.value = Uint256.zero
    · apply Or.inl
      rw [VerifiedProgress.toDecimalString, hzero]
      exact ⟨rfl, congrArg VerifiedProgress.mk hzero⟩
    · apply Or.inr
      have hwork := hback ⟨progress.value, Uint256.toNat_pos_of_ne_zero hzero⟩
      exact ⟨_, hwork, rfl⟩

end WorkGate
