/-
# Ed25519 public keys (web/ed25519-public-key.ts)

The check is arithmetic on numbers.  Over the field of `2 ^ 255 - 19` elements it is the group of
the curve: the sums are those of the group, double and add is the multiple of a point, and what is
decompressed is the point with that ordinate and sign.
-/

import Mathlib.NumberTheory.LegendreSymbol.Basic
import Mathlib.Tactic.NormNum.Prime
import WorkGate.Library.EdwardsCurves
import WorkGate.Library.Primality
import WorkGate.Worker.LeaseArtifacts

namespace WorkGate

open WorkGate.Library

/-! ## The field -/

/-- The primes below a thousand among the divisors that follow. -/
def smallPrimes : List ℕ :=
  [2, 3, 5, 7, 13, 17, 19, 23, 29, 31, 41, 43, 47, 59, 83, 97, 103, 107, 127, 131, 173, 223, 353,
    419, 479, 487, 991]

/-- `2 ^ 255 - 19`, below the primes that show it to be one. -/
def fieldPrimeTable : List Primality.Certificate :=
  [⟨1723, 3, [2, 3, 7, 41]⟩,
   ⟨2437, 2, [2, 2, 3, 7, 29]⟩,
   ⟨3727, 3, [2, 3, 3, 3, 3, 23]⟩,
   ⟨4153, 5, [2, 2, 2, 3, 173]⟩,
   ⟨9463, 3, [2, 3, 19, 83]⟩,
   ⟨32573, 2, [2, 2, 17, 479]⟩,
   ⟨37853, 2, [2, 2, 9463]⟩,
   ⟨57467, 2, [2, 59, 487]⟩,
   ⟨65147, 2, [2, 32573]⟩,
   ⟨75707, 2, [2, 37853]⟩,
   ⟨132049, 26, [2, 2, 2, 2, 3, 3, 7, 131]⟩,
   ⟨430751, 17, [2, 5, 5, 5, 1723]⟩,
   ⟨569003, 2, [2, 7, 97, 419]⟩,
   ⟨1923133, 2, [2, 2, 3, 43, 3727]⟩,
   ⟨8574133, 2, [2, 2, 3, 7, 103, 991]⟩,
   ⟨2773320623, 5, [2, 2437, 569003]⟩,
   ⟨72106336199, 7, [2, 13, 2773320623]⟩,
   ⟨1919519569386763, 2, [2, 3, 7, 19, 47, 47, 127, 8574133]⟩,
   ⟨31757755568855353, 10, [2, 2, 2, 3, 31, 107, 223, 4153, 430751]⟩,
   ⟨75445702479781427272750846543864801, 7, [2, 2, 2, 2, 2, 3, 3, 5, 5, 75707, 72106336199,
      1919519569386763]⟩,
   ⟨74058212732561358302231226437062788676166966415465897661863160754340907, 2, [2, 3, 353, 57467,
      132049, 1923133, 31757755568855353, 75445702479781427272750846543864801]⟩,
   ⟨57896044618658097711785492504343953926634992332820282019728792003956564819949, 2, [2, 2, 3,
      65147, 74058212732561358302231226437062788676166966415465897661863160754340907]⟩]

theorem prime_ed25519FieldPrime : ed25519FieldPrime.Prime := by
  have hsmall : ∀ number ∈ smallPrimes, number.Prime := by
    norm_num [smallPrimes]
  have hpasses : Primality.allPass smallPrimes fieldPrimeTable = true := by
    decide +kernel
  exact Primality.prime_of_allPass hsmall hpasses _ (List.getLast_mem (l := fieldPrimeTable) nofun)

instance : Fact ed25519FieldPrime.Prime := ⟨prime_ed25519FieldPrime⟩

/-- The field the numbers stand for. -/
abbrev Ed25519Field := ZMod ed25519FieldPrime

theorem one_lt_ed25519FieldPrime : 1 < ed25519FieldPrime := by decide

/-- A reduced number is the value of the element it stands for. -/
theorem eq_val_of_cast {number : ℕ} {element : Ed25519Field} (hlt : number < ed25519FieldPrime)
    (h : (number : Ed25519Field) = element) : number = element.val := by
  rw [← h, ZMod.val_natCast_of_lt hlt]

theorem mod_lt_ed25519FieldPrime (number : ℕ) : number % ed25519FieldPrime < ed25519FieldPrime :=
  Nat.mod_lt _ (by decide)

theorem fieldPowerFrom_eq (fuel result factor remaining : ℕ) :
    fieldPowerFrom fuel result factor remaining =
      Primality.powerFrom ed25519FieldPrime fuel result factor remaining := by
  induction fuel generalizing result factor remaining with
  | zero => rfl
  | succ fuel ih =>
      rw [fieldPowerFrom, Primality.powerFrom]
      simp only [ih]

theorem fieldPower_lt (base exponent : ℕ) : fieldPower base exponent < ed25519FieldPrime := by
  rw [fieldPower, fieldPowerFrom_eq]
  exact Primality.powerFrom_lt one_lt_ed25519FieldPrime _ _ _

theorem cast_fieldPower (base : ℕ) {exponent : ℕ} (h : exponent < 2 ^ 256) :
    (fieldPower base exponent : Ed25519Field) = base ^ exponent := by
  rw [fieldPower, fieldPowerFrom_eq, Primality.cast_powerFrom _ _ h, Nat.cast_one, one_mul,
    ZMod.natCast_mod]

theorem fieldNegative_lt (value : ℕ) : fieldNegative value < ed25519FieldPrime :=
  mod_lt_ed25519FieldPrime _

theorem cast_fieldNegative {value : ℕ} (h : value ≤ ed25519FieldPrime) :
    (fieldNegative value : Ed25519Field) = -value := by
  rw [fieldNegative, ZMod.natCast_mod, Nat.cast_sub h, ZMod.natCast_self, zero_sub]

theorem cast_fieldInverse (value : ℕ) :
    (fieldInverse value : Ed25519Field) = (value : Ed25519Field)⁻¹ := by
  rw [fieldInverse, cast_fieldPower value (by decide)]
  by_cases hzero : (value : Ed25519Field) = 0
  · rw [hzero, inv_zero, zero_pow (by decide)]
  · apply eq_inv_of_mul_eq_one_left
    rw [← pow_succ]
    exact ZMod.pow_card_sub_one_eq_one hzero

/-! ## The curve -/

/-- What the constants are: `d` is no square, and the root is one of `-1`. -/
theorem ed25519_constants :
    ed25519SqrtM1 * ed25519SqrtM1 % ed25519FieldPrime = ed25519FieldPrime - 1 ∧
      ed25519D % ed25519FieldPrime ≠ 0 ∧
      Primality.power ed25519FieldPrime ed25519D (ed25519FieldPrime / 2) ≠ 1 := by
  decide +kernel

theorem cast_ed25519D : (ed25519D : Ed25519Field) = -(121665 / 121666) := by
  rw [ed25519D, cast_fieldNegative (mod_lt_ed25519FieldPrime _).le, ZMod.natCast_mod,
    Nat.cast_mul, cast_fieldInverse, ← div_eq_mul_inv]
  norm_num

theorem sqrtM1_mul_sqrtM1 : (ed25519SqrtM1 : Ed25519Field) * ed25519SqrtM1 = -1 := by
  rw [← Nat.cast_mul, ← ZMod.natCast_mod, ed25519_constants.1, Nat.cast_sub (by decide),
    ZMod.natCast_self, Nat.cast_one, zero_sub]

theorem not_isSquare_ed25519D : ¬ IsSquare (ed25519D : Ed25519Field) := by
  have hsome : (ed25519D : Ed25519Field) ≠ 0 := by
    intro hzero
    rw [ZMod.natCast_eq_zero_iff] at hzero
    exact ed25519_constants.2.1 (Nat.mod_eq_zero_of_dvd hzero)
  rw [ZMod.euler_criterion _ hsome]
  exact mt (Primality.power_eq_one_iff one_lt_ed25519FieldPrime _ _).mpr ed25519_constants.2.2

/-- The curve of the keys. -/
def ed25519 : EdwardsCurve Ed25519Field where
  d := ed25519D
  root := ed25519SqrtM1
  root_mul_root := sqrtM1_mul_sqrtM1
  not_isSquare_d := not_isSquare_ed25519D
  two_ne_zero := by
    intro hzero
    have hdivides : ed25519FieldPrime ∣ 2 := (ZMod.natCast_eq_zero_iff 2 _).mp hzero
    exact absurd (Nat.le_of_dvd (by decide) hdivides) (by decide)

/-- The numbers that write a point. -/
def residues (point : ed25519.Point) : EdwardsPoint := ⟨point.x.val, point.y.val⟩

theorem residues_injective : Function.Injective residues := by
  intro first second h
  have hx := congrArg EdwardsPoint.x h
  have hy := congrArg EdwardsPoint.y h
  exact EdwardsCurve.Point.ext (ZMod.val_injective _ hx) (ZMod.val_injective _ hy)

@[simp]
theorem residues_zero : residues 0 = ed25519Identity := rfl

/-- `addPoints` is the sum of the group. -/
theorem addPoints_residues (first second : ed25519.Point) :
    addPoints (residues first) (residues second) = residues (first + second) := by
  have hvalue : ∀ element : Ed25519Field, (element.val : Ed25519Field) = element :=
    ZMod.natCast_zmod_val
  have hproduct : ((ed25519D * first.x.val * second.x.val * first.y.val * second.y.val %
      ed25519FieldPrime : ℕ) : Ed25519Field) = first.product second := by
    rw [ZMod.natCast_mod, Nat.cast_mul, Nat.cast_mul, Nat.cast_mul, Nat.cast_mul, hvalue, hvalue,
      hvalue, hvalue]
    rfl
  have hnegative := cast_fieldNegative (mod_lt_ed25519FieldPrime (ed25519D * first.x.val *
    second.x.val * first.y.val * second.y.val)).le
  have hx : (addPoints (residues first) (residues second)).x = (first + second).x.val := by
    apply eq_val_of_cast (mod_lt_ed25519FieldPrime _)
    simp only [residues]
    rw [ZMod.natCast_mod, Nat.cast_mul, cast_fieldInverse, ZMod.natCast_mod, ZMod.natCast_mod,
      Nat.cast_add, Nat.cast_add, hproduct, Nat.cast_mul, Nat.cast_mul, hvalue, hvalue, hvalue,
      hvalue, Nat.cast_one]
    rfl
  have hy : (addPoints (residues first) (residues second)).y = (first + second).y.val := by
    apply eq_val_of_cast (mod_lt_ed25519FieldPrime _)
    simp only [residues]
    rw [ZMod.natCast_mod, Nat.cast_mul, cast_fieldInverse, ZMod.natCast_mod, ZMod.natCast_mod,
      Nat.cast_add, Nat.cast_add, hnegative, hproduct, Nat.cast_mul, Nat.cast_mul, hvalue, hvalue,
      hvalue, hvalue, Nat.cast_one, ← sub_eq_add_neg]
    rfl
  exact congrArg₂ EdwardsPoint.mk hx hy

/-- Double and add is the multiple of a point. -/
theorem scalarMultiplyFrom_residues (result point : ed25519.Point) {fuel scalar : ℕ}
    (h : scalar < 2 ^ fuel) :
    scalarMultiplyFrom fuel (residues result) (residues point) scalar =
      residues (result + scalar • point) := by
  induction fuel generalizing result point scalar with
  | zero =>
      have hzero : scalar = 0 := by simpa using h
      rw [hzero, zero_nsmul, add_zero]
      rfl
  | succ fuel ih =>
      have hhalf : scalar / 2 < 2 ^ fuel := by
        rw [pow_succ] at h
        omega
      have hbits := Nat.div_add_mod scalar 2
      have htwice : (scalar / 2) • (point + point) = (2 * (scalar / 2)) • point := by
        rw [← two_nsmul, ← mul_nsmul]
      rw [scalarMultiplyFrom]
      by_cases hzero : scalar = 0
      · rw [hzero, zero_nsmul, add_zero]
        rfl
      rw [beq_false_of_ne hzero, cond_false, addPoints_residues, addPoints_residues]
      rcases Nat.mod_two_eq_zero_or_one scalar with heven | hodd
      · rw [heven, Nat.add_zero] at hbits
        rw [heven]
        show scalarMultiplyFrom fuel (residues result) (residues (point + point)) _ = _
        rw [ih _ _ hhalf, htwice, hbits]
      · rw [hodd] at hbits
        rw [hodd]
        show scalarMultiplyFrom fuel (residues (result + point)) (residues (point + point)) _ = _
        rw [ih _ _ hhalf, htwice, add_assoc, ← succ_nsmul', hbits]

/-- `scalarMultiply` is the multiple of the group. -/
theorem scalarMultiply_residues (point : ed25519.Point) {scalar : ℕ} (h : scalar < 2 ^ 256) :
    scalarMultiply (residues point) scalar = residues (scalar • point) := by
  rw [scalarMultiply, ← residues_zero, scalarMultiplyFrom_residues _ _ h, zero_add]

/-! ## Decompression -/

/-- The right side of the equation for the square of the abscissa has a denominator. -/
theorem denominator_ne_zero (y : Ed25519Field) : ed25519.d * (y * y) + 1 ≠ 0 := by
  intro hzero
  apply ed25519.not_isSquare_d
  have hy : y ≠ 0 := by
    rintro rfl
    simp at hzero
  refine ⟨ed25519.root / y, ?_⟩
  rw [div_mul_div_comm, ed25519.root_mul_root, eq_div_iff (mul_ne_zero hy hy)]
  linear_combination hzero

/-- The square of the abscissa of a point with the ordinate. -/
def abscissaSquared (y : Ed25519Field) : Ed25519Field := (y * y - 1) / (ed25519.d * (y * y) + 1)

/-- The curve says what the square of the abscissa is. -/
theorem equation_iff (x y : Ed25519Field) :
    -(x * x) + y * y = 1 + ed25519.d * (x * x) * (y * y) ↔ x * x = abscissaSquared y := by
  rw [abscissaSquared, eq_div_iff (denominator_ne_zero y)]
  constructor <;> intro h <;> linear_combination -h

/-- A square has the root that is computed, up to a root of `-1`. -/
theorem root_of_isSquare {square : Ed25519Field} (h : IsSquare square) :
    square ^ ((ed25519FieldPrime + 3) / 8) * square ^ ((ed25519FieldPrime + 3) / 8) = square ∨
      square ^ ((ed25519FieldPrime + 3) / 8) * square ^ ((ed25519FieldPrime + 3) / 8) =
        -square := by
  by_cases hzero : square = 0
  · left
    rw [hzero, zero_pow (by decide), mul_zero]
  obtain ⟨base, rfl⟩ := h
  have hbase : base ≠ 0 := by
    rintro rfl
    exact hzero (mul_zero 0)
  have hquarter : (base * base) ^ ((ed25519FieldPrime - 1) / 4) *
      (base * base) ^ ((ed25519FieldPrime - 1) / 4) = 1 := by
    rw [← sq base, ← pow_mul, ← pow_add,
      show 2 * ((ed25519FieldPrime - 1) / 4) + 2 * ((ed25519FieldPrime - 1) / 4) =
        ed25519FieldPrime - 1 by decide]
    exact ZMod.pow_card_sub_one_eq_one hbase
  have hsplit : (base * base) ^ ((ed25519FieldPrime + 3) / 8) *
      (base * base) ^ ((ed25519FieldPrime + 3) / 8) =
        base * base * (base * base) ^ ((ed25519FieldPrime - 1) / 4) := by
    rw [← pow_add, ← pow_succ',
      show (ed25519FieldPrime + 3) / 8 + (ed25519FieldPrime + 3) / 8 =
        (ed25519FieldPrime - 1) / 4 + 1 by decide]
  rw [hsplit]
  rcases mul_self_eq_one_iff.mp hquarter with hone | hminus
  · left
    rw [hone, mul_one]
  · right
    rw [hminus, mul_neg, mul_one]

theorem mod_eq_iff {number reduced : ℕ} (h : reduced < ed25519FieldPrime) :
    number % ed25519FieldPrime = reduced ↔ (number : Ed25519Field) = reduced := by
  rw [ZMod.natCast_eq_natCast_iff', Nat.mod_eq_of_lt h]

/-- The number that is tried is a root of every square. -/
theorem candidate_iff {square : ℕ} (hlt : square < ed25519FieldPrime) {root candidate : ℕ}
    (hroot : root = fieldPower square ((ed25519FieldPrime + 3) / 8))
    (hcandidate : candidate = bif root * root % ed25519FieldPrime == square then root
      else root * ed25519SqrtM1 % ed25519FieldPrime) :
    candidate * candidate % ed25519FieldPrime = square ↔ IsSquare (square : Ed25519Field) := by
  constructor
  · intro h
    rw [mod_eq_iff hlt, Nat.cast_mul] at h
    exact ⟨candidate, h.symm⟩
  · intro h
    have hpower : (root : Ed25519Field) =
        (square : Ed25519Field) ^ ((ed25519FieldPrime + 3) / 8) := by
      rw [hroot, cast_fieldPower _ (by decide)]
    have hroots := root_of_isSquare h
    rw [← hpower] at hroots
    by_cases hfound : root * root % ed25519FieldPrime = square
    · rw [hcandidate, beq_iff_eq.mpr hfound]
      exact hfound
    · rw [hcandidate, beq_false_of_ne hfound, cond_false, mod_eq_iff hlt, Nat.cast_mul,
        ZMod.natCast_mod, Nat.cast_mul]
      rw [mod_eq_iff hlt, Nat.cast_mul] at hfound
      have hother := hroots.resolve_left hfound
      linear_combination (ed25519SqrtM1 * ed25519SqrtM1 : Ed25519Field) * hother -
        (square : Ed25519Field) * sqrtM1_mul_sqrtM1

theorem ed25519FieldPrime_mod_two : ed25519FieldPrime % 2 = 1 := by decide

/-- Of two elements with one square at most one has the parity. -/
theorem eq_of_parity {first second : Ed25519Field} (hsquare : first * first = second * second)
    (hparity : first.val % 2 = second.val % 2) : first = second := by
  rcases mul_self_eq_mul_self_iff.mp hsquare with heq | hneg
  · exact heq
  · by_cases hzero : second = 0
    · rw [hneg, hzero, neg_zero]
    · have hpositive := Nat.pos_of_ne_zero (mt (ZMod.val_eq_zero second).mp hzero)
      have hbelow := ZMod.val_lt second
      have hodd := ed25519FieldPrime_mod_two
      rw [hneg, ZMod.neg_val, if_neg hzero] at hparity
      omega

/-- The sign picks the element of its parity. -/
theorem signed_candidate {candidate sign : ℕ} (hlt : candidate < ed25519FieldPrime)
    (hsign : sign < 2) (hzero : ¬ (candidate = 0 ∧ sign = 1)) {signed : ℕ}
    (hsigned : signed = bif candidate % 2 == sign then candidate else fieldNegative candidate) :
    signed < ed25519FieldPrime ∧ signed % 2 = sign ∧
      (signed : Ed25519Field) * signed = candidate * candidate := by
  by_cases heq : candidate % 2 = sign
  · rw [beq_iff_eq.mpr heq, cond_true] at hsigned
    rw [hsigned]
    exact ⟨hlt, heq, rfl⟩
  · rw [beq_false_of_ne heq, cond_false] at hsigned
    have hodd := ed25519FieldPrime_mod_two
    refine ⟨hsigned ▸ fieldNegative_lt candidate, ?_, ?_⟩
    · have hpositive : 0 < candidate := by omega
      have hdifference := Nat.sub_lt (Nat.zero_lt_of_lt hlt) hpositive
      rw [hsigned, fieldNegative, Nat.mod_eq_of_lt hdifference]
      omega
    · rw [hsigned, cast_fieldNegative hlt.le, neg_mul_neg]

/-- The square of the abscissa, as it is computed. -/
theorem cast_square (y : ℕ) :
    (((y * y % ed25519FieldPrime + fieldNegative 1) % ed25519FieldPrime *
      fieldInverse ((ed25519D * (y * y % ed25519FieldPrime) + 1) % ed25519FieldPrime) %
        ed25519FieldPrime : ℕ) : Ed25519Field) = abscissaSquared y := by
  have hd : ed25519.d = ed25519D := rfl
  rw [ZMod.natCast_mod, Nat.cast_mul, cast_fieldInverse, ZMod.natCast_mod, ZMod.natCast_mod,
    Nat.cast_add, Nat.cast_add, Nat.cast_mul, ZMod.natCast_mod, Nat.cast_mul,
    cast_fieldNegative one_lt_ed25519FieldPrime.le, Nat.cast_one, ← sub_eq_add_neg, abscissaSquared,
    hd, div_eq_mul_inv]

/-- A point with the ordinate has the square as its abscissa's. -/
theorem mul_self_of_val_eq {point : ed25519.Point} {y : ℕ} (h : point.y.val = y) :
    point.x * point.x = abscissaSquared y := by
  rw [← h, ZMod.natCast_zmod_val]
  exact (equation_iff _ _).mp point.equation

/-- A root of the square, given its sign, is the abscissa. -/
theorem signed_iff {y sign candidate : ℕ} (hy : y < ed25519FieldPrime) (hsign : sign < 2)
    (hlt : candidate < ed25519FieldPrime)
    (hroot : (candidate : Ed25519Field) * candidate = abscissaSquared y)
    (hzero : ¬ (candidate = 0 ∧ sign = 1)) (found : EdwardsPoint) :
    ⟨bif candidate % 2 == sign then candidate else fieldNegative candidate, y⟩ = found ↔
      ∃ point : ed25519.Point, point.y.val = y ∧ point.x.val % 2 = sign ∧
        residues point = found := by
  obtain ⟨hsmall, hparity, hsame⟩ := signed_candidate hlt hsign hzero rfl
  generalize (bif candidate % 2 == sign then candidate else fieldNegative candidate) = signed
    at hsmall hparity hsame ⊢
  constructor
  · rintro rfl
    refine ⟨⟨signed, y, (equation_iff _ _).mpr (hsame.trans hroot)⟩, ?_, ?_, ?_⟩
    · exact ZMod.val_natCast_of_lt hy
    · rw [ZMod.val_natCast_of_lt hsmall, hparity]
    · rw [residues, ZMod.val_natCast_of_lt hsmall, ZMod.val_natCast_of_lt hy]
  · rintro ⟨point, hpoint, hsigned, rfl⟩
    have hx : (signed : Ed25519Field) = point.x := by
      apply eq_of_parity (hsame.trans (hroot.trans (mul_self_of_val_eq hpoint).symm))
      rw [ZMod.val_natCast_of_lt hsmall, hparity, hsigned]
    rw [residues, ← hx, ZMod.val_natCast_of_lt hsmall, hpoint]

/-- `maybeDecompressEd25519` finds the point with the ordinate and the parity, if there is one. -/
theorem maybeDecompressEd25519_eq_some_iff {y sign : ℕ} (hy : y < ed25519FieldPrime)
    (hsign : sign < 2) (found : EdwardsPoint) :
    maybeDecompressEd25519 y sign = some found ↔ ∃ point : ed25519.Point,
      point.y.val = y ∧ point.x.val % 2 = sign ∧ residues point = found := by
  have hsquare := cast_square y
  have hsquareBelow := mod_lt_ed25519FieldPrime ((y * y % ed25519FieldPrime + fieldNegative 1) %
    ed25519FieldPrime * fieldInverse ((ed25519D * (y * y % ed25519FieldPrime) + 1) %
      ed25519FieldPrime))
  rw [maybeDecompressEd25519]
  generalize (y * y % ed25519FieldPrime + fieldNegative 1) % ed25519FieldPrime *
    fieldInverse ((ed25519D * (y * y % ed25519FieldPrime) + 1) % ed25519FieldPrime) %
      ed25519FieldPrime = square at hsquare hsquareBelow ⊢
  have hrootBelow := fieldPower_lt square ((ed25519FieldPrime + 3) / 8)
  generalize hroot : fieldPower square ((ed25519FieldPrime + 3) / 8) = root at hrootBelow ⊢
  generalize hcandidate : (bif root * root % ed25519FieldPrime == square then root
    else root * ed25519SqrtM1 % ed25519FieldPrime) = candidate
  have hiff := candidate_iff hsquareBelow hroot.symm hcandidate.symm
  have hbelow : candidate < ed25519FieldPrime := by
    rw [← hcandidate, Bool.cond_eq_ite]
    split
    · exact hrootBelow
    · exact mod_lt_ed25519FieldPrime _
  by_cases hfound : candidate * candidate % ed25519FieldPrime = square
  · have hcandidateRoot : (candidate : Ed25519Field) * candidate = abscissaSquared y := by
      rw [← hsquare, ← Nat.cast_mul]
      exact (mod_eq_iff hsquareBelow).mp hfound
    rw [if_neg (not_not.mpr hfound)]
    by_cases hzero : candidate = 0 ∧ sign = 1
    · -- Zero has the other parity only.
      rw [if_pos hzero]
      constructor
      · intro h
        cases h
      · rintro ⟨point, hpoint, hparity, -⟩
        rw [hzero.1, Nat.cast_zero, mul_zero, ← mul_self_of_val_eq hpoint] at hcandidateRoot
        rw [mul_self_eq_zero.mp hcandidateRoot.symm, ZMod.val_zero, hzero.2] at hparity
        cases hparity
    · rw [if_neg hzero, Option.some_inj]
      exact signed_iff hy hsign hbelow hcandidateRoot hzero found
  · rw [if_pos hfound]
    constructor
    · intro h
      cases h
    · rintro ⟨point, hpoint, -, -⟩
      rw [hiff, hsquare, ← mul_self_of_val_eq hpoint] at hfound
      exact absurd ⟨point.x, rfl⟩ hfound

/-! ## Keys -/

theorem littleEndianInteger_lt (bytes : List UInt8) :
    littleEndianInteger bytes < 256 ^ bytes.length := by
  induction bytes with
  | nil => decide
  | cons byte bytes ih =>
      have hbyte := byte.toNat_lt
      rw [littleEndianInteger, List.length_cons, pow_succ]
      omega

/-- The number that is encoded for a point: its ordinate below the parity of its abscissa. -/
def encodedNumber (point : ed25519.Point) : ℕ := point.y.val + 2 ^ 255 * (point.x.val % 2)

theorem encodedNumber_eq_iff {number y : ℕ} (hy : y = number % 2 ^ 255) (point : ed25519.Point) :
    number = encodedNumber point ↔ point.y.val = y ∧ point.x.val % 2 = number / 2 ^ 255 := by
  have hbelow : point.y.val < 2 ^ 255 :=
    (ZMod.val_lt point.y).trans (by decide)
  rw [encodedNumber, hy]
  omega

theorem encodedSign_lt {bytes : List UInt8} (hlength : bytes.length = 32) :
    littleEndianInteger bytes / 2 ^ 255 < 2 := by
  have hlt := littleEndianInteger_lt bytes
  rw [hlength] at hlt
  omega

theorem ed25519SubgroupOrder_lt : ed25519SubgroupOrder < 2 ^ 256 := by decide

/-- An accepted key is the base64url of the encoding of a point that is not the identity and that
the order of the subgroup takes to it. -/
theorem exists_point_of_isCanonicalPrimeSubgroup {text : String}
    (h : isCanonicalPrimeSubgroupEd25519PublicKey text = true) :
    ∃ bytes : List UInt8, bytes.length = 32 ∧ Base64Url.encode bytes = text ∧
      ∃ point : ed25519.Point, littleEndianInteger bytes = encodedNumber point ∧
        point ≠ 0 ∧ ed25519SubgroupOrder • point = 0 := by
  rw [isCanonicalPrimeSubgroupEd25519PublicKey, Bool.and_eq_true] at h
  obtain ⟨-, h⟩ := h
  cases hdecode : decodeBase64Url (CodeUnits.ofString text) 43 with
  | none =>
      rw [hdecode] at h
      cases h
  | some bytes =>
      rw [hdecode] at h
      simp only [Bool.and_eq_true, decide_eq_true_eq] at h
      obtain ⟨⟨hlength, hspelled⟩, hy, hpoint⟩ := h
      have hsign : littleEndianInteger bytes / 2 ^ 255 < 2 := encodedSign_lt hlength
      split at hpoint
      · cases hpoint
      · next found hfound =>
          obtain ⟨point, hordinate, hparity, rfl⟩ :=
            (maybeDecompressEd25519_eq_some_iff hy hsign found).mp hfound
          obtain ⟨hsome, hmultiple⟩ := Bool.and_eq_true_iff.mp hpoint
          have hother := of_decide_eq_true hsome
          have hidentity := of_decide_eq_true hmultiple
          rw [← residues_zero, residues_injective.ne_iff] at hother
          rw [scalarMultiply_residues point ed25519SubgroupOrder_lt, ← residues_zero,
            residues_injective.eq_iff] at hidentity
          exact ⟨bytes, hlength, hspelled, point,
            (encodedNumber_eq_iff rfl point).mpr ⟨hordinate, hparity⟩, hother, hidentity⟩

/-- Whatever encodes such a point is accepted. -/
theorem isCanonicalPrimeSubgroup_encode {bytes : List UInt8} (hlength : bytes.length = 32)
    {point : ed25519.Point} (hnumber : littleEndianInteger bytes = encodedNumber point)
    (hsome : point ≠ 0) (hmultiple : ed25519SubgroupOrder • point = 0) :
    isCanonicalPrimeSubgroupEd25519PublicKey (Base64Url.encode bytes) = true := by
  rw [isCanonicalPrimeSubgroupEd25519PublicKey, Bool.and_eq_true]
  refine ⟨isDigest_encode hlength, ?_⟩
  have hbytes : bytes ≠ [] := by
    rintro rfl
    cases hlength
  rw [decodeBase64Url_encode hbytes (by omega)]
  obtain ⟨hordinate, hparity⟩ := (encodedNumber_eq_iff rfl point).mp hnumber
  have hy : littleEndianInteger bytes % 2 ^ 255 < ed25519FieldPrime :=
    hordinate ▸ ZMod.val_lt point.y
  have hfound := (maybeDecompressEd25519_eq_some_iff hy (encodedSign_lt hlength)
    (residues point)).mpr ⟨point, hordinate, hparity, rfl⟩
  have hother : residues point ≠ ed25519Identity := residues_injective.ne hsome
  have hidentity : scalarMultiply (residues point) ed25519SubgroupOrder = ed25519Identity := by
    rw [scalarMultiply_residues point ed25519SubgroupOrder_lt, hmultiple, residues_zero]
  simp only [hfound, hlength, hy, hidentity, decide_true, Bool.and_true, decide_eq_true hother]

/-- A key is accepted exactly when it is the base64url of the encoding of a point that is not the
identity and that the order of the subgroup takes to it. -/
theorem isCanonicalPrimeSubgroupEd25519PublicKey_iff (text : String) :
    isCanonicalPrimeSubgroupEd25519PublicKey text = true ↔
      ∃ bytes : List UInt8, bytes.length = 32 ∧ Base64Url.encode bytes = text ∧
        ∃ point : ed25519.Point, littleEndianInteger bytes = encodedNumber point ∧
          point ≠ 0 ∧ ed25519SubgroupOrder • point = 0 := by
  constructor
  · exact exists_point_of_isCanonicalPrimeSubgroup
  · rintro ⟨bytes, hlength, rfl, point, hnumber, hsome, hmultiple⟩
    exact isCanonicalPrimeSubgroup_encode hlength hnumber hsome hmultiple

/-! ## Multiples without division -/

/-- A point by three numbers: its coordinates are the first two over the third. -/
structure ProjectivePoint where
  x : ℕ
  y : ℕ
  z : ℕ

namespace ProjectivePoint

/-- The numbers write a point. -/
structure Writes (written : ProjectivePoint) (point : ed25519.Point) : Prop where
  z_ne_zero : (written.z : Ed25519Field) ≠ 0
  x_eq : (written.x : Ed25519Field) = point.x * written.z
  y_eq : (written.y : Ed25519Field) = point.y * written.z

/-- The sum, its two denominators multiplied into the third number. -/
def add (left right : ProjectivePoint) : ProjectivePoint :=
  let scale := left.z * right.z % ed25519FieldPrime
  let product := ed25519D * (left.x * right.x % ed25519FieldPrime) % ed25519FieldPrime *
    (left.y * right.y % ed25519FieldPrime) % ed25519FieldPrime
  let lower := (scale * scale + fieldNegative product) % ed25519FieldPrime
  let upper := (scale * scale + product) % ed25519FieldPrime
  { x := scale * lower % ed25519FieldPrime * (left.x * right.y + left.y * right.x) %
      ed25519FieldPrime
    y := scale * upper % ed25519FieldPrime * (left.y * right.y + left.x * right.x) %
      ed25519FieldPrime
    z := lower * upper % ed25519FieldPrime }

theorem Writes.add {left right : ProjectivePoint} {first second : ed25519.Point}
    (hleft : left.Writes first) (hright : right.Writes second) :
    (left.add right).Writes (first + second) := by
  have hx := EdwardsCurve.Point.add_x_mul first second
  have hy := EdwardsCurve.Point.add_y_mul first second
  have hplus := EdwardsCurve.Point.one_add_product_ne_zero first second
  have hminus := EdwardsCurve.Point.one_sub_product_ne_zero first second
  have hscale := mul_ne_zero hleft.z_ne_zero hright.z_ne_zero
  have hd : ed25519.d = ed25519D := rfl
  -- Everything is the sum's own number times the square of the two third numbers.
  have hproduct : (ed25519D : Ed25519Field) * (left.x * right.x) * (left.y * right.y) =
      (left.z * right.z) * (left.z * right.z) * first.product second := by
    rw [hleft.x_eq, hleft.y_eq, hright.x_eq, hright.y_eq, EdwardsCurve.Point.product, hd]
    ring
  have hnegative := cast_fieldNegative (mod_lt_ed25519FieldPrime (ed25519D *
    (left.x * right.x % ed25519FieldPrime) % ed25519FieldPrime *
      (left.y * right.y % ed25519FieldPrime))).le
  constructor
  · simp only [ProjectivePoint.add, ZMod.natCast_mod, Nat.cast_mul, Nat.cast_add, hnegative]
    rw [hproduct]
    have hlower : (left.z * right.z : Ed25519Field) * (left.z * right.z) +
        -(left.z * right.z * (left.z * right.z) * first.product second) ≠ 0 := by
      intro hzero
      apply mul_ne_zero (mul_ne_zero hscale hscale) hminus
      linear_combination hzero
    have hupper : (left.z * right.z : Ed25519Field) * (left.z * right.z) +
        left.z * right.z * (left.z * right.z) * first.product second ≠ 0 := by
      intro hzero
      apply mul_ne_zero (mul_ne_zero hscale hscale) hplus
      linear_combination hzero
    exact mul_ne_zero hlower hupper
  · simp only [ProjectivePoint.add, ZMod.natCast_mod, Nat.cast_mul, Nat.cast_add, hnegative]
    rw [hproduct, hleft.x_eq, hleft.y_eq, hright.x_eq, hright.y_eq]
    linear_combination -(left.z * right.z * (left.z * right.z) * (left.z * right.z) *
      (left.z * right.z) * (1 - first.product second) : Ed25519Field) * hx
  · simp only [ProjectivePoint.add, ZMod.natCast_mod, Nat.cast_mul, Nat.cast_add, hnegative]
    rw [hproduct, hleft.x_eq, hleft.y_eq, hright.x_eq, hright.y_eq]
    linear_combination -(left.z * right.z * (left.z * right.z) * (left.z * right.z) *
      (left.z * right.z) * (1 + first.product second) : Ed25519Field) * hy

/-- Double and add. -/
def multipleFrom : ℕ → ProjectivePoint → ProjectivePoint → ℕ → ProjectivePoint
  | 0, result, _, _ => result
  | fuel + 1, result, addend, remaining =>
      multipleFrom fuel (bif remaining % 2 == 1 then result.add addend else result)
        (addend.add addend) (remaining / 2)

theorem Writes.multipleFrom {fuel scalar : ℕ} (h : scalar < 2 ^ fuel)
    {result addend : ProjectivePoint} {first second : ed25519.Point} (hresult : result.Writes first)
    (haddend : addend.Writes second) :
    (multipleFrom fuel result addend scalar).Writes (first + scalar • second) := by
  induction fuel generalizing result addend first second scalar with
  | zero =>
      have hzero : scalar = 0 := by simpa using h
      rw [hzero, zero_nsmul, add_zero]
      exact hresult
  | succ fuel ih =>
      have hhalf : scalar / 2 < 2 ^ fuel := by
        rw [pow_succ] at h
        omega
      have hbits := Nat.div_add_mod scalar 2
      have htwice : (scalar / 2) • (second + second) = (2 * (scalar / 2)) • second := by
        rw [← two_nsmul, ← mul_nsmul]
      rw [ProjectivePoint.multipleFrom]
      rcases Nat.mod_two_eq_zero_or_one scalar with heven | hodd
      · have hnext := ih hhalf hresult (haddend.add haddend)
        rw [htwice] at hnext
        rw [heven, Nat.add_zero] at hbits
        rw [heven]
        rwa [hbits] at hnext
      · have hnext := ih hhalf (hresult.add haddend) (haddend.add haddend)
        rw [hodd] at hbits
        rw [htwice, add_assoc, ← succ_nsmul', hbits] at hnext
        rw [hodd]
        exact hnext

/-- What writes the identity. -/
theorem Writes.eq_zero_iff {written : ProjectivePoint} {point : ed25519.Point}
    (h : written.Writes point) : point = 0 ↔ written.x % ed25519FieldPrime = 0 ∧
      written.y % ed25519FieldPrime = written.z % ed25519FieldPrime := by
  rw [← ZMod.natCast_eq_natCast_iff', ← Nat.dvd_iff_mod_eq_zero, ← ZMod.natCast_eq_zero_iff,
    h.x_eq, h.y_eq, mul_eq_zero_iff_right h.z_ne_zero, mul_eq_right₀ h.z_ne_zero,
    EdwardsCurve.Point.ext_iff]
  rfl

end ProjectivePoint

/-- A key whose point is known is accepted when the multiple of that point comes out as the
identity. -/
theorem isCanonicalPrimeSubgroupEd25519PublicKey_of_point {bytes : List UInt8} {x y : ℕ}
    (hlength : bytes.length = 32) (hx : x < ed25519FieldPrime) (hy : y < ed25519FieldPrime)
    (hcurve : y * y % ed25519FieldPrime =
      (x * x + (1 + ed25519D * (x * x) * (y * y))) % ed25519FieldPrime)
    (hnumber : littleEndianInteger bytes = y + 2 ^ 255 * (x % 2)) (hsome : y ≠ 1)
    {multiple : ProjectivePoint}
    (hmultiple : ProjectivePoint.multipleFrom 256 ⟨0, 1, 1⟩ ⟨x, y, 1⟩ ed25519SubgroupOrder =
      multiple)
    (hidentity : multiple.x % ed25519FieldPrime = 0 ∧
      multiple.y % ed25519FieldPrime = multiple.z % ed25519FieldPrime) :
    isCanonicalPrimeSubgroupEd25519PublicKey (Base64Url.encode bytes) = true := by
  rw [← ZMod.natCast_eq_natCast_iff', Nat.cast_add, Nat.cast_add, Nat.cast_mul, Nat.cast_mul,
    Nat.cast_mul, Nat.cast_mul, Nat.cast_mul, Nat.cast_mul, Nat.cast_one] at hcurve
  have hd : ed25519.d = ed25519D := rfl
  let point : ed25519.Point := ⟨x, y, by rw [hd]; linear_combination hcurve⟩
  have hzero : ProjectivePoint.Writes ⟨0, 1, 1⟩ 0 := ⟨by simp, by simp, by simp⟩
  have hone : ProjectivePoint.Writes ⟨x, y, 1⟩ point :=
    ⟨by simp, by simp [point], by simp [point]⟩
  have hwrites := hzero.multipleFrom ed25519SubgroupOrder_lt hone
  rw [hmultiple, zero_add] at hwrites
  have hordinate : point.y.val = y := ZMod.val_natCast_of_lt hy
  have habscissa : point.x.val = x := ZMod.val_natCast_of_lt hx
  apply isCanonicalPrimeSubgroup_encode hlength
  · rw [encodedNumber, hordinate, habscissa, hnumber]
  · intro hidentity
    rw [hidentity] at hordinate
    exact hsome hordinate.symm
  · exact hwrites.eq_zero_iff.mpr hidentity

end WorkGate
