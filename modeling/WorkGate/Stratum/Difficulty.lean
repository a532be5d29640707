/-
# The target of a difficulty (src/stratum_v1/target.rs)

A pool announces its difficulty as a decimal number, and the Pool Adapter holds shares to
the target that difficulty stands for, computed exactly: the number is read as a ratio of
64-bit integers, and the target of difficulty one is multiplied and divided byte by byte.
-/

import Mathlib.Algebra.Order.Floor.Semifield
import Mathlib.Data.Nat.Cast.Field
import Mathlib.Data.Rat.Floor
import WorkGate.Library.Numeral
import WorkGate.Stratum.Target

namespace WorkGate

open WorkGate.Library

/-! ## Scaling a target -/

/-- The product with its carry is exact, and the carry stays below the multiplier, so no
column comes near the 128 bits it is computed in. -/
theorem multiplyBytes_spec (multiplier : ℕ) (bytes : List UInt8) :
    (multiplyBytes multiplier bytes).1.length = bytes.length ∧
      256 ^ bytes.length * (multiplyBytes multiplier bytes).2 +
          Limbs.bigEndian (multiplyBytes multiplier bytes).1 =
        Limbs.bigEndian bytes * multiplier ∧
      (multiplyBytes multiplier bytes).2 ≤ multiplier := by
  induction bytes with
  | nil => simp [multiplyBytes]
  | cons byte rest ih =>
      obtain ⟨hlength, hexact, hcarry⟩ := ih
      have hbyte : byte.toNat ≤ 255 := Nat.le_of_lt_succ byte.toNat_lt
      simp only [multiplyBytes]
      generalize multiplyBytes multiplier rest = product at hlength hexact hcarry ⊢
      refine ⟨by simp [hlength], ?_, ?_⟩
      · have hsplit := Nat.div_add_mod (byte.toNat * multiplier + product.2) 256
        have hkept : (UInt8.ofNat (byte.toNat * multiplier + product.2)).toNat =
            (byte.toNat * multiplier + product.2) % 256 := UInt8.toNat_ofNat'
        rw [Limbs.bigEndian_cons, Limbs.bigEndian_cons, hkept, hlength, List.length_cons]
        calc
          256 ^ (rest.length + 1) * ((byte.toNat * multiplier + product.2) / 256) +
              (256 ^ rest.length * ((byte.toNat * multiplier + product.2) % 256) +
                Limbs.bigEndian product.1) =
            256 ^ rest.length * (256 * ((byte.toNat * multiplier + product.2) / 256) +
              (byte.toNat * multiplier + product.2) % 256) + Limbs.bigEndian product.1 := by ring
          _ = 256 ^ rest.length * (byte.toNat * multiplier) +
              (256 ^ rest.length * product.2 + Limbs.bigEndian product.1) := by
            rw [hsplit]
            ring
          _ = (256 ^ rest.length * byte.toNat + Limbs.bigEndian rest) * multiplier := by
            rw [hexact]
            ring
      · have hcolumn : byte.toNat * multiplier + product.2 ≤ 256 * multiplier := by
          calc
            byte.toNat * multiplier + product.2 ≤ 255 * multiplier + multiplier :=
              Nat.add_le_add (Nat.mul_le_mul_right _ hbyte) hcarry
            _ = 256 * multiplier := by ring
        exact Nat.div_le_of_le_mul hcolumn

/-- The bytes above the product hold the whole carry. -/
theorem bigEndian_carryBytes {carry : ℕ} (hfits : carry < 2 ^ 64) :
    Limbs.bigEndian (carryBytes carry) = carry := by
  have hbyte (value : ℕ) : (UInt8.ofNat value).toNat = value % 256 := UInt8.toNat_ofNat'
  simp only [carryBytes, List.range, List.range.loop, List.reverse_cons, List.reverse_nil,
    List.nil_append, List.cons_append, List.map_cons, List.map_nil, Limbs.bigEndian_cons,
    Limbs.bigEndian_nil, List.length_cons, List.length_nil, hbyte]
  norm_num
  omega

/-- Dividing byte by byte never meets a digit that does not fit a byte, and computes the
quotient. -/
theorem divideBytes_spec {divisor remainder : ℕ} (hremainder : remainder < divisor)
    (bytes : List UInt8) : ∃ quotient, divideBytes divisor remainder bytes = some quotient ∧
      quotient.length = bytes.length ∧
      Limbs.bigEndian quotient =
        (remainder * 256 ^ bytes.length + Limbs.bigEndian bytes) / divisor := by
  induction bytes generalizing remainder with
  | nil =>
      refine ⟨[], rfl, rfl, ?_⟩
      simp [Nat.div_eq_of_lt hremainder]
  | cons byte rest ih =>
      have hpositive : 0 < divisor := by omega
      have hbyte : byte.toNat < 256 := byte.toNat_lt
      have hdigit : (remainder * 256 + byte.toNat) / divisor < 256 := by
        apply Nat.div_lt_of_lt_mul
        nlinarith
      obtain ⟨quotient, hquotient, hlength, hvalue⟩ :=
        ih (Nat.mod_lt (remainder * 256 + byte.toNat) hpositive)
      refine ⟨UInt8.ofNat ((remainder * 256 + byte.toNat) / divisor) :: quotient, ?_, ?_, ?_⟩
      · simp only [divideBytes, hquotient, Option.map_some]
        rw [if_neg (by omega)]
      · rw [List.length_cons, List.length_cons, hlength]
      · have hkept : (UInt8.ofNat ((remainder * 256 + byte.toNat) / divisor)).toNat =
            (remainder * 256 + byte.toNat) / divisor := by
          rw [UInt8.toNat_ofNat']
          exact Nat.mod_eq_of_lt hdigit
        have hsplit := Nat.div_add_mod (remainder * 256 + byte.toNat) divisor
        rw [Limbs.bigEndian_cons, Limbs.bigEndian_cons, hkept, hlength, hvalue,
          List.length_cons]
        generalize (remainder * 256 + byte.toNat) / divisor = digit at hsplit ⊢
        generalize (remainder * 256 + byte.toNat) % divisor = next at hsplit ⊢
        have hwhole : remainder * 256 ^ (rest.length + 1) +
            (256 ^ rest.length * byte.toNat + Limbs.bigEndian rest) =
              divisor * (256 ^ rest.length * digit) +
                (next * 256 ^ rest.length + Limbs.bigEndian rest) := by
          calc
            remainder * 256 ^ (rest.length + 1) +
                (256 ^ rest.length * byte.toNat + Limbs.bigEndian rest) =
              (remainder * 256 + byte.toNat) * 256 ^ rest.length + Limbs.bigEndian rest := by ring
            _ = divisor * (256 ^ rest.length * digit) +
                (next * 256 ^ rest.length + Limbs.bigEndian rest) := by
              rw [← hsplit]
              ring
        rw [hwhole, Nat.mul_add_div hpositive]

/-- A byte string has a byte set exactly when it is not zero. -/
theorem any_ne_zero_iff (bytes : List UInt8) :
    bytes.any (· != 0) = true ↔ 0 < Limbs.bigEndian bytes := by
  constructor
  · intro hany
    apply Nat.pos_of_ne_zero
    intro hzero
    rw [Limbs.bigEndian_eq_zero hzero] at hany
    simp at hany
  · intro hpositive
    by_contra hnone
    have hzero : ∀ byte ∈ bytes, byte = 0 := by simpa using hnone
    rw [List.eq_replicate_of_mem hzero] at hpositive
    generalize bytes.length = size at hpositive
    induction size with
    | zero => simp at hpositive
    | succ size ih =>
        rw [List.replicate_succ, Limbs.bigEndian_cons] at hpositive
        apply ih
        simpa using hpositive

theorem bigEndian_replicate_255 : Limbs.bigEndian (List.replicate 32 255) = 2 ^ 256 - 1 := by
  decide +kernel

/-- Scaling is exact, and saturates instead of failing. -/
theorem scaleTarget_spec (target : List UInt8) (hsize : target.length = 32) {multiplier divisor : ℕ}
    (hmultiplier : multiplier < 2 ^ 64) (hdivisor : 0 < divisor) : ∃ scaled,
    scaleTarget target multiplier divisor = .ok scaled ∧
      scaled.toNat = min (2 ^ 256 - 1) (Limbs.bigEndian target * multiplier / divisor) := by
  obtain ⟨hlength, hexact, hcarry⟩ := multiplyBytes_spec multiplier target
  have hcarried := bigEndian_carryBytes (lt_of_le_of_lt hcarry hmultiplier)
  obtain ⟨quotient, hquotient, hquotientLength, hvalue⟩ := divideBytes_spec hdivisor
    (carryBytes (multiplyBytes multiplier target).2 ++ (multiplyBytes multiplier target).1)
  rw [Limbs.bigEndian_append, hlength, hcarried, hexact, Nat.zero_mul, Nat.zero_add] at hvalue
  have hquotientSize : quotient.length = 40 := by
    rw [hquotientLength, List.length_append, hlength, hsize]
    rfl
  have hlow : (quotient.drop 8).length = 32 := by rw [List.length_drop, hquotientSize]
  have hsplit : Limbs.bigEndian quotient =
      256 ^ 32 * Limbs.bigEndian (quotient.take 8) + Limbs.bigEndian (quotient.drop 8) := by
    conv_lhs => rw [← List.take_append_drop 8 quotient]
    rw [Limbs.bigEndian_append, hlow]
  have hbelow := Limbs.bigEndian_lt (quotient.drop 8)
  rw [hlow] at hbelow
  simp only [scaleTarget, hquotient]
  rw [if_neg (by omega)]
  by_cases hhigh : (quotient.take 8).any (· != 0) = true
  · -- A byte above the 32 is set: the exact target does not fit.
    have hpositive := (any_ne_zero_iff _).mp hhigh
    rw [if_pos hhigh]
    refine ⟨_, rfl, ?_⟩
    rw [Bytes.toNat, bigEndian_replicate_255, ← hvalue, hsplit, Nat.min_eq_left]
    omega
  · have hzero : Limbs.bigEndian (quotient.take 8) = 0 := by
      rw [any_ne_zero_iff] at hhigh
      omega
    rw [if_neg hhigh, Bytes.ofList, dif_pos hlow]
    refine ⟨_, rfl, ?_⟩
    rw [Bytes.toNat, ← hvalue, hsplit, hzero, Nat.mul_zero, Nat.zero_add, Nat.min_eq_right]
    omega

/-! ## Reading a difficulty -/

section Reading

open Decimal (Numeral IsDigits read)

theorem parseDigits_of_isDigits {digits : List Char} (h : IsDigits digits) :
    parseDigits digits = some (read digits) := by
  have hempty : digits.isEmpty = false := by simpa using h.nonempty
  have hall : digits.all Char.isDigit = true := by simpa using h.all_digits
  rw [parseDigits, hempty, hall]
  rfl

theorem parseU64_of_isDigits {digits : List Char} (h : IsDigits digits) :
    parseU64 digits = (some (read digits)).filter (· < 2 ^ 64) := by
  rw [← parseDigits_of_isDigits h]
  cases digits with
  | nil => rfl
  | cons digit digits =>
      have hsign : digit ≠ '+' := by
        rintro rfl
        exact h.not_mem (by decide) List.mem_cons_self
      rw [parseU64]
      simpa using hsign

/-- What passes a bound is the number itself. -/
theorem filtered_eq_some {test : ℕ → Bool} {number : ℕ} {value : ℤ}
    (h : (do let found ← (some number).filter test; pure (found : ℤ)) = some value) :
    value = number := by
  cases htest : test number with
  | true =>
      rw [Option.filter_some, if_pos htest] at h
      cases h
      rfl
  | false =>
      rw [Option.filter_some, if_neg (by rw [htest]; decide)] at h
      cases h

/-- A signed exponent is read exactly, where it fits. -/
theorem parseI32_eq_some {sign : Decimal.Sign} {digits : List Char} (h : IsDigits digits)
    {value : ℤ} (hvalue : parseI32 (sign.text ++ digits) = some value) :
    value = sign.apply (read digits) := by
  cases sign with
  | minus =>
      rw [Decimal.Sign.text, List.singleton_append, parseI32, parseDigits_of_isDigits h,
        Option.map_eq_some_iff] at hvalue
      obtain ⟨magnitude, hmagnitude, rfl⟩ := hvalue
      rw [filtered_eq_some hmagnitude]
      rfl
  | plus =>
      rw [Decimal.Sign.text, List.singleton_append, parseI32, parseDigits_of_isDigits h,
        Option.map_eq_some_iff] at hvalue
      obtain ⟨magnitude, hmagnitude, rfl⟩ := hvalue
      exact filtered_eq_some hmagnitude
  | none =>
      have hread := parseDigits_of_isDigits h
      cases digits with
      | nil => exact absurd rfl h.nonempty
      | cons digit digits =>
          have hminus : digit ≠ '-' := by
            rintro rfl
            exact h.not_mem (by decide) List.mem_cons_self
          have hplus : digit ≠ '+' := by
            rintro rfl
            exact h.not_mem (by decide) List.mem_cons_self
          rw [Decimal.Sign.text, List.nil_append, parseI32] at hvalue
          · rw [hread, Option.map_eq_some_iff] at hvalue
            obtain ⟨magnitude, hmagnitude, rfl⟩ := hvalue
            exact filtered_eq_some hmagnitude
          · simpa using hminus
          · simpa using hplus

/-- The mantissa and, where it can be accepted, the exponent of a numeral. -/
theorem splitExponent_text (numeral : Numeral) :
    (splitExponent numeral.text).1 = numeral.mantissa ∧
      (-18 ≤ (splitExponent numeral.text).2 →
        (splitExponent numeral.text).2 = numeral.exponent) := by
  have hmantissa : ∀ character ∈ numeral.mantissa,
      (character != 'e' && character != 'E') = true := by
    intro character hcharacter
    rw [Bool.and_eq_true, bne_iff_ne, bne_iff_ne]
    constructor
    · rintro rfl
      exact numeral.mantissa_not_mem (by decide) (by decide) (by decide) hcharacter
    · rintro rfl
      exact numeral.mantissa_not_mem (by decide) (by decide) (by decide) hcharacter
  rw [splitExponent, Numeral.text, List.takeWhile_append_of_pos hmantissa,
    List.dropWhile_append_of_pos hmantissa, Numeral.exponent]
  cases numeral.maybeExponent with
  | none => simp
  | some exponent =>
      have hletter : (exponent.letter != 'e' && exponent.letter != 'E') = false := by
        rcases exponent.isLetter with hletter | hletter
        · simp [hletter]
        · simp [hletter]
      simp only [Option.map_some, Option.getD_some, Decimal.Exponent.text, List.takeWhile_cons,
        List.dropWhile_cons, hletter, Bool.false_eq_true, ↓reduceIte, List.append_nil, true_and]
      intro hrange
      cases hparsed : parseI32 (exponent.sign.text ++ exponent.digits) with
      | none =>
          rw [hparsed] at hrange
          norm_num at hrange
      | some value => exact parseI32_eq_some exponent.isDigits hparsed

theorem splitFraction_mantissa (numeral : Numeral) :
    splitFraction numeral.mantissa = (numeral.front, numeral.maybeFraction) := by
  have hfront : ∀ character ∈ numeral.front, (character != '.') = true := by
    intro character hcharacter
    rw [bne_iff_ne]
    rintro rfl
    exact numeral.front_not_mem (by decide) (by decide) hcharacter
  rw [splitFraction, Numeral.mantissa, List.takeWhile_append_of_pos hfront,
    List.dropWhile_append_of_pos hfront]
  cases numeral.maybeFraction with
  | none => simp
  | some fraction => simp

/-- The ratio of a mantissa is its exact value over a power of ten, in 64 bits. -/
structure MantissaRatio (whole fraction : List Char) (ratio : ℕ × ℕ) : Prop where
  numerator : ratio.1 = read whole * 10 ^ fraction.length + read fraction
  denominator : ratio.2 = 10 ^ fraction.length
  positive : 0 < ratio.1
  numerator_lt : ratio.1 < 2 ^ 64

theorem mantissaRatio_spec {whole fraction : List Char} {ratio : ℕ × ℕ} (hwhole : IsDigits whole)
    (hfraction : fraction = [] ∨ IsDigits fraction) (hlength : fraction.length ≤ 18)
    (h : mantissaRatio whole fraction = some ratio) : MantissaRatio whole fraction ratio := by
  have hread : (parseU64 fraction).getD 0 = read fraction := by
    rcases hfraction with rfl | hdigits
    · rfl
    · have hfits : read fraction < 2 ^ 64 := by
        calc
          read fraction < 10 ^ fraction.length := Decimal.read_lt hdigits.all_digits
          _ ≤ 10 ^ 18 := Nat.pow_le_pow_right (by decide) hlength
          _ < 2 ^ 64 := by decide
      rw [parseU64_of_isDigits hdigits, Option.filter_some, if_pos (by simpa using hfits)]
      rfl
  simp only [mantissaRatio, Option.bind_eq_bind, Option.bind_eq_some_iff, hread,
    parseU64_of_isDigits hwhole, checkedPowerOfTen, checkedMul, checkedAdd,
    Option.ite_none_right_eq_some, Option.filter_eq_some_iff, Option.some.injEq] at h
  obtain ⟨denominator, ⟨-, rfl⟩, scaled, ⟨read, ⟨rfl, -⟩, -, rfl⟩, numerator, ⟨hfits, rfl⟩,
    hpositive, rfl⟩ := h
  exact ⟨Nat.add_comm _ _, rfl, hpositive, hfits⟩

/-- Multiplying by the power of ten keeps the ratio exact, and in 64 bits. -/
theorem scaleRatio_spec {numerator denominator : ℕ} {exponent : ℤ} {ratio : ℕ × ℕ}
    (hnumerator : 0 < numerator) (hfits : numerator < 2 ^ 64) (hdenominator : 0 < denominator)
    (hfits' : denominator < 2 ^ 64) (h : scaleRatio numerator denominator exponent = some ratio) :
    0 < ratio.1 ∧ ratio.1 < 2 ^ 64 ∧ 0 < ratio.2 ∧ ratio.2 < 2 ^ 64 ∧
      (ratio.1 : ℚ) / ratio.2 = numerator / denominator * 10 ^ exponent := by
  simp only [scaleRatio, Option.bind_eq_bind, Option.bind_eq_some_iff, checkedPowerOfTen,
    checkedMul, Option.ite_none_right_eq_some, Option.some.injEq] at h
  obtain ⟨power, ⟨-, rfl⟩, h⟩ := h
  have hpower : 0 < 10 ^ exponent.natAbs := by positivity
  rcases lt_trichotomy exponent 0 with hnegative | rfl | hpositive
  · rw [if_neg (by omega), if_pos hnegative] at h
    simp only [Option.bind_eq_some_iff, Option.ite_none_right_eq_some, Option.some.injEq] at h
    obtain ⟨product, ⟨hproduct, rfl⟩, rfl⟩ := h
    refine ⟨hnumerator, hfits, Nat.mul_pos hdenominator hpower, hproduct, ?_⟩
    have hexponent : exponent = -(exponent.natAbs : ℤ) := by omega
    rw [hexponent, Int.natAbs_neg, Int.natAbs_natCast, zpow_neg, zpow_natCast, Nat.cast_mul,
      Nat.cast_pow, Nat.cast_ofNat, ← div_eq_mul_inv, div_div]
  · rw [if_neg (lt_irrefl _), if_neg (lt_irrefl _), Option.some.injEq] at h
    subst h
    exact ⟨hnumerator, hfits, hdenominator, hfits', by simp⟩
  · rw [if_pos hpositive] at h
    simp only [Option.bind_eq_some_iff, Option.ite_none_right_eq_some, Option.some.injEq] at h
    obtain ⟨product, ⟨hproduct, rfl⟩, rfl⟩ := h
    refine ⟨Nat.mul_pos hnumerator hpower, hproduct, hdenominator, hfits', ?_⟩
    have hexponent : exponent = (exponent.natAbs : ℤ) := by omega
    rw [hexponent, Int.natAbs_natCast, zpow_natCast, Nat.cast_mul, Nat.cast_pow, Nat.cast_ofNat,
      mul_div_right_comm]

/-- The ratio of an accepted difficulty is in lowest terms and exactly the number it was
printed as. -/
structure ExactRatio (value : ℚ) (ratio : ℕ × ℕ) : Prop where
  value_eq : (ratio.1 : ℚ) / ratio.2 = value
  coprime : Nat.Coprime ratio.1 ratio.2
  numerator_pos : 0 < ratio.1
  denominator_pos : 0 < ratio.2
  numerator_lt : ratio.1 < 2 ^ 64
  denominator_lt : ratio.2 < 2 ^ 64

theorem reduced_exactRatio {numerator denominator : ℕ} (hnumerator : 0 < numerator)
    (hdenominator : 0 < denominator) (hfits : numerator < 2 ^ 64)
    (hfits' : denominator < 2 ^ 64) :
    ExactRatio (numerator / denominator)
      (numerator / greatestCommonDivisor numerator denominator,
        denominator / greatestCommonDivisor numerator denominator) := by
  rw [greatestCommonDivisor_eq]
  have hdivisor := Nat.gcd_pos_of_pos_left denominator hnumerator
  have hleft := Nat.gcd_dvd_left numerator denominator
  have hright := Nat.gcd_dvd_right numerator denominator
  constructor
  · rw [Nat.cast_div hleft (by positivity), Nat.cast_div hright (by positivity)]
    rw [div_div_div_cancel_right₀ (by positivity)]
  · exact Nat.coprime_div_gcd_div_gcd hdivisor
  · exact Nat.div_pos (Nat.le_of_dvd hnumerator hleft) hdivisor
  · exact Nat.div_pos (Nat.le_of_dvd hdenominator hright) hdivisor
  · exact lt_of_le_of_lt (Nat.div_le_self _ _) hfits
  · exact lt_of_le_of_lt (Nat.div_le_self _ _) hfits'

/-- An accepted difficulty is read as exactly the number it was printed as. -/
theorem decimalRatio_exact {number : JsonNumber} {numeral : Numeral}
    (hprint : number.text.toList = numeral.text) {ratio : ℕ × ℕ}
    (h : decimalRatio (.number number) = some ratio) : ExactRatio numeral.value ratio := by
  obtain ⟨hmantissa, hexponent⟩ := splitExponent_text numeral
  simp only [decimalRatio, Json.asNumber, Option.bind_eq_bind, Option.bind_some, hprint,
    hmantissa, splitFraction_mantissa, Option.ite_none_left_eq_some, not_not,
    Option.bind_eq_some_iff, Bool.not_eq_true, Bool.or_eq_false_iff, decide_eq_false_iff_not,
    Option.some.injEq] at h
  obtain ⟨⟨hlow, -⟩, ⟨hsign, hlength⟩, mantissa, hratio, scaled, hscaled, rfl⟩ := h
  have hpositive : numeral.negative = false := by
    by_contra hnegative
    rw [Bool.not_eq_false] at hnegative
    simp [Numeral.front, hnegative] at hsign
  have hfront : numeral.front = numeral.whole := by rw [Numeral.front, hpositive]; rfl
  have hfraction : numeral.fraction = [] ∨ IsDigits numeral.fraction := by
    rw [Numeral.fraction]
    cases hmaybe : numeral.maybeFraction with
    | none => exact .inl rfl
    | some fraction => exact .inr (numeral.fractionDigits fraction hmaybe)
  have hshort : numeral.fraction.length ≤ 18 := by
    rw [Numeral.fraction]
    cases hmaybe : numeral.maybeFraction with
    | none => simp
    | some fraction =>
        rw [hmaybe] at hlength
        simpa using hlength
  rw [hfront] at hratio
  obtain ⟨hnumerator, hdenominator, hnonzero, hfits⟩ :=
    mantissaRatio_spec numeral.wholeDigits hfraction hshort hratio
  have hdenominatorPos : 0 < mantissa.2 := by
    rw [hdenominator]
    positivity
  have hdenominatorFits : mantissa.2 < 2 ^ 64 := by
    rw [hdenominator]
    calc
      10 ^ numeral.fraction.length ≤ 10 ^ 18 := Nat.pow_le_pow_right (by decide) hshort
      _ < 2 ^ 64 := by decide
  rw [hexponent hlow] at hscaled
  obtain ⟨hscaledPos, hscaledFits, hdivisorPos, hdivisorFits, hvalue⟩ :=
    scaleRatio_spec hnonzero hfits hdenominatorPos hdenominatorFits hscaled
  have hexact := reduced_exactRatio hscaledPos hdivisorPos hscaledFits hdivisorFits
  have hmantissaValue : (mantissa.1 : ℚ) / mantissa.2 =
      read numeral.whole + read numeral.fraction / 10 ^ numeral.fraction.length := by
    have hten : (10 : ℚ) ^ numeral.fraction.length ≠ 0 := by positivity
    rw [hnumerator, hdenominator]
    push_cast
    field_simp
  have hnumeral : numeral.value = scaled.1 / scaled.2 := by
    rw [hvalue, hmantissaValue, Numeral.value, hpositive]
    simp
  rwa [hnumeral]

theorem bigEndian_difficultyOneTarget :
    Limbs.bigEndian difficultyOneTarget = 0xffff * 2 ^ 208 := by
  decide +kernel

/-- Difficulty to target, for a number that prints as a numeral: where the difficulty is
accepted, it is read as exactly that number in lowest terms, and scaling succeeds with the
exact target, cut off at the largest there is and never zero. -/
theorem targetForDifficulty_exact {number : JsonNumber} {numeral : Numeral}
    (hprint : number.text.toList = numeral.text) {ratio : ℕ × ℕ}
    (haccepted : decimalRatio (.number number) = some ratio) :
    ExactRatio numeral.value ratio ∧ 0 < numeral.value ∧ ∃ target,
      targetForDifficulty (.number number) = .ok target ∧
        target.toNat = min (2 ^ 256 - 1) ⌊(0xffff * 2 ^ 208 : ℚ) / numeral.value⌋₊ ∧
        0 < target.toNat := by
  have hexact := decimalRatio_exact hprint haccepted
  obtain ⟨hvalue, -, hnumerator, hdenominator, hnumeratorFits, hdenominatorFits⟩ := id hexact
  have hpositive : 0 < numeral.value := by
    rw [← hvalue]
    positivity
  obtain ⟨target, htarget, htargetValue⟩ :=
    scaleTarget_spec difficultyOneTarget rfl hdenominatorFits hnumerator
  rw [bigEndian_difficultyOneTarget] at htargetValue
  have hfloor : ⌊(0xffff * 2 ^ 208 : ℚ) / numeral.value⌋₊ =
      0xffff * 2 ^ 208 * ratio.2 / ratio.1 := by
    rw [← hvalue, ← Nat.floor_div_eq_div (K := ℚ), div_div_eq_mul_div, Nat.cast_mul]
    norm_num
  refine ⟨hexact, hpositive, target, ?_, by rw [htargetValue, hfloor], ?_⟩
  · rw [targetForDifficulty, haccepted]
    exact htarget
  · have hquotient : 0 < 0xffff * 2 ^ 208 * ratio.2 / ratio.1 := by
      apply Nat.div_pos _ hnumerator
      calc
        ratio.1 ≤ 2 ^ 64 := hnumeratorFits.le
        _ ≤ 0xffff * 2 ^ 208 := by norm_num
        _ ≤ 0xffff * 2 ^ 208 * ratio.2 := Nat.le_mul_of_pos_right _ hdenominator
    rw [htargetValue]
    exact lt_min (by norm_num) hquotient

/-- `1.25e-3`, the way a printer writes it. -/
def smallDifficulty : Numeral where
  negative := false
  whole := ['1']
  maybeFraction := some ['2', '5']
  maybeExponent := some ⟨'e', .minus, ['3'], .inl rfl, ⟨by decide, forall_mem_of_all (by decide)⟩⟩
  wholeDigits := ⟨by decide, forall_mem_of_all (by decide)⟩
  fractionDigits := by
    rintro fraction ⟨⟩
    exact ⟨by decide, forall_mem_of_all (by decide)⟩

theorem smallDifficulty_exact : ∃ target,
    targetForDifficulty (.number (.float "1.25e-3")) = .ok target ∧
      target.toNat = min (2 ^ 256 - 1) ⌊(0xffff * 2 ^ 208 : ℚ) / smallDifficulty.value⌋₊ := by
  have haccepted : decimalRatio (.number (.float "1.25e-3")) = some (1, 800) := by
    decide +kernel
  have hprint : (JsonNumber.float "1.25e-3").text.toList = smallDifficulty.text := by
    decide +kernel
  obtain ⟨-, -, target, htarget, hvalue, -⟩ := targetForDifficulty_exact hprint haccepted
  exact ⟨target, htarget, hvalue⟩

end Reading

end WorkGate
