/-
# Multi-limb unsigned integers

A number wider than a machine word is a list of limbs, least significant first.
The operations below are the loops one writes over such arrays: addition with a
carry flag that ripples upwards, and comparison from the top limb down.  They are
stated for every limb width and every number of limbs, and proved against the
value of the list in base `2 ^ w`.  Shifting, subtracting and the single bits
follow the same pattern, and together they give bitwise long division.
-/

import Mathlib.Data.List.Induction
import Mathlib.Data.Nat.Digits.Defs
import Mathlib.Tactic.Ring

namespace WorkGate.Library.Limbs

variable {w : ℕ}

/-- The number a list of limbs stands for. -/
def value (limbs : List (BitVec w)) : ℕ :=
  Nat.ofDigits (2 ^ w) (limbs.map BitVec.toNat)

@[simp]
theorem value_nil : value ([] : List (BitVec w)) = 0 := rfl

@[simp]
theorem value_cons (limb : BitVec w) (limbs : List (BitVec w)) :
    value (limb :: limbs) = limb.toNat + 2 ^ w * value limbs := by
  simp [value, Nat.ofDigits_cons]

/-- Limb-wise addition.  Adding the two limbs and adding the carry may each wrap,
but not both. -/
def addCarry : List (BitVec w) → List (BitVec w) → Bool → List (BitVec w) × Bool
  | a :: as, b :: bs, carry =>
      let sum := a + b
      let total := sum + BitVec.ofNat w carry.toNat
      let carryOut := a.uaddOverflow b || sum.uaddOverflow (BitVec.ofNat w carry.toNat)
      let rest := addCarry as bs carryOut
      (total :: rest.1, rest.2)
  | _, _, carry => ([], carry)

@[simp]
theorem length_addCarry (as bs : List (BitVec w)) (carry : Bool) (h : as.length = bs.length) :
    (addCarry as bs carry).1.length = as.length := by
  induction as generalizing bs carry with
  | nil => rfl
  | cons a as ih =>
      cases bs with
      | nil => simp at h
      | cons b bs => simp [addCarry, ih bs _ (by simpa using h)]

/-- One column of the addition: the limb kept and the carry passed on. -/
theorem toNat_add_carry (hw : 0 < w) (a b : BitVec w) (carry : Bool) :
    (a + b + BitVec.ofNat w carry.toNat).toNat +
        2 ^ w * (a.uaddOverflow b || (a + b).uaddOverflow (BitVec.ofNat w carry.toNat)).toNat =
      a.toNat + b.toNat + carry.toNat := by
  have hpow : 2 ≤ 2 ^ w := by
    calc 2 = 2 ^ 1 := rfl
      _ ≤ 2 ^ w := Nat.pow_le_pow_right (by decide) hw
  have ha := a.isLt
  have hb := b.isLt
  have hc : carry.toNat ≤ 1 := by cases carry <;> decide
  simp only [BitVec.uaddOverflow, BitVec.toNat_add, BitVec.toNat_ofNat,
    Nat.mod_eq_of_lt (show carry.toNat < 2 ^ w by omega)]
  by_cases hfirst : 2 ^ w ≤ a.toNat + b.toNat
  · have hsum : (a.toNat + b.toNat) % 2 ^ w = a.toNat + b.toNat - 2 ^ w := by
      rw [Nat.mod_eq_sub_mod hfirst, Nat.mod_eq_of_lt (by omega)]
    rw [hsum, Nat.mod_eq_of_lt (by omega)]
    simp only [hfirst, decide_true, Bool.true_or, Bool.toNat_true]
    omega
  · have hsum : (a.toNat + b.toNat) % 2 ^ w = a.toNat + b.toNat := Nat.mod_eq_of_lt (by omega)
    rw [hsum]
    by_cases hsecond : 2 ^ w ≤ a.toNat + b.toNat + carry.toNat
    · rw [Nat.mod_eq_sub_mod hsecond, Nat.mod_eq_of_lt (by omega)]
      simp [hfirst, hsecond]
    · rw [Nat.mod_eq_of_lt (by omega)]
      simp [hfirst, hsecond]

/-- The ripple addition is exact: what does not fit is in the carry. -/
theorem value_addCarry (hw : 0 < w) (as bs : List (BitVec w)) (carry : Bool)
    (h : as.length = bs.length) :
    value (addCarry as bs carry).1 + 2 ^ (w * as.length) * (addCarry as bs carry).2.toNat =
      value as + value bs + carry.toNat := by
  induction as generalizing bs carry with
  | nil =>
      cases bs with
      | nil => simp [addCarry]
      | cons b bs => simp at h
  | cons a as ih =>
      cases bs with
      | nil => simp at h
      | cons b bs =>
          have hcolumn := toNat_add_carry hw a b carry
          have hrest := ih bs
            (a.uaddOverflow b || (a + b).uaddOverflow (BitVec.ofNat w carry.toNat))
            (by simpa using h)
          simp only [addCarry, value_cons, List.length_cons, Nat.mul_succ, Nat.pow_add]
          generalize (a + b + BitVec.ofNat w carry.toNat).toNat = kept at hcolumn ⊢
          generalize (a.uaddOverflow b ||
            (a + b).uaddOverflow (BitVec.ofNat w carry.toNat)) = passed at hcolumn hrest ⊢
          calc
            kept + 2 ^ w * value (addCarry as bs passed).1 +
                2 ^ (w * as.length) * 2 ^ w * (addCarry as bs passed).2.toNat =
              kept + 2 ^ w * (value (addCarry as bs passed).1 +
                2 ^ (w * as.length) * (addCarry as bs passed).2.toNat) := by ring
            _ = kept + 2 ^ w * passed.toNat + 2 ^ w * value as + 2 ^ w * value bs := by
              rw [hrest]
              ring
            _ = a.toNat + 2 ^ w * value as + (b.toNat + 2 ^ w * value bs) + carry.toNat := by
              rw [hcolumn]
              ring

/-- Comparison from the most significant limb down. -/
def compareLimbs : List (BitVec w) → List (BitVec w) → Ordering
  | a :: as, b :: bs => (compareLimbs as bs).then (compare a.toNat b.toNat)
  | _, _ => .eq

private theorem compare_add_right (m n k : ℕ) : compare (m + k) (n + k) = compare m n := by
  simp [compare, compareOfLessAndEq]

/-- Comparing limbs compares the numbers. -/
theorem compareLimbs_eq (as bs : List (BitVec w)) (h : as.length = bs.length) :
    compareLimbs as bs = compare (value as) (value bs) := by
  induction as generalizing bs with
  | nil =>
      cases bs with
      | nil => rfl
      | cons b bs => simp at h
  | cons a as ih =>
      cases bs with
      | nil => simp at h
      | cons b bs =>
          have ha := a.isLt
          have hb := b.isLt
          rw [compareLimbs, ih bs (by simpa using h), value_cons, value_cons]
          rcases lt_trichotomy (value as) (value bs) with hlt | heq | hgt
          · have hstep : 2 ^ w * value as + 2 ^ w ≤ 2 ^ w * value bs := by
              rw [← Nat.mul_succ]
              exact Nat.mul_le_mul_left _ hlt
            have hwhole : a.toNat + 2 ^ w * value as < b.toNat + 2 ^ w * value bs := by omega
            rw [Nat.compare_eq_lt.mpr hlt, Nat.compare_eq_lt.mpr hwhole]
            rfl
          · rw [heq, Nat.compare_eq_eq.mpr rfl, Ordering.eq_then]
            exact (compare_add_right a.toNat b.toNat (2 ^ w * value bs)).symm
          · have hstep : 2 ^ w * value bs + 2 ^ w ≤ 2 ^ w * value as := by
              rw [← Nat.mul_succ]
              exact Nat.mul_le_mul_left _ hgt
            have hwhole : b.toNat + 2 ^ w * value bs < a.toNat + 2 ^ w * value as := by omega
            rw [Nat.compare_eq_gt.mpr hgt, Nat.compare_eq_gt.mpr hwhole]
            rfl

/-- Shift left by one: each limb takes the top bit of the limb below. -/
def shiftLimbs : List (BitVec w) → BitVec w → List (BitVec w)
  | [], _ => []
  | limb :: limbs, carry => (limb <<< 1 ||| carry) :: shiftLimbs limbs (limb >>> (w - 1))

@[simp]
theorem length_shiftLimbs (limbs : List (BitVec w)) (carry : BitVec w) :
    (shiftLimbs limbs carry).length = limbs.length := by
  induction limbs generalizing carry with
  | nil => rfl
  | cons limb limbs ih => simp [shiftLimbs, ih]

/-- One column of the shift: the limb kept and the bit passed on. -/
theorem toNat_shift_column (hw : 0 < w) (limb carry : BitVec w) (hcarry : carry.toNat ≤ 1) :
    (limb <<< 1 ||| carry).toNat + 2 ^ w * (limb >>> (w - 1)).toNat =
      2 * limb.toNat + carry.toNat := by
  obtain ⟨v, rfl⟩ : ∃ v, w = v + 1 := ⟨w - 1, by omega⟩
  have hlimb := limb.isLt
  have hpow : 2 ^ (v + 1) = 2 * 2 ^ v := by rw [Nat.pow_succ, Nat.mul_comm]
  have hdiv := Nat.div_add_mod limb.toNat (2 ^ v)
  have hlow : limb.toNat % 2 ^ v < 2 ^ v := Nat.mod_lt _ (by positivity)
  have hshift : limb.toNat <<< 1 % 2 ^ (v + 1) = 2 ^ 1 * (limb.toNat % 2 ^ v) := by
    rw [Nat.shiftLeft_eq, Nat.pow_one, Nat.mul_comm, hpow, Nat.mul_mod_mul_left]
  simp only [BitVec.toNat_or, BitVec.toNat_shiftLeft, BitVec.toNat_ushiftRight,
    Nat.add_sub_cancel, Nat.shiftRight_eq_div_pow, hshift]
  rw [← Nat.two_pow_add_eq_or_of_lt (by omega)]
  generalize limb.toNat / 2 ^ v = high at hdiv
  nlinarith [hdiv, hpow]

/-- No bit is lost by the shift when the doubled value still fits. -/
theorem value_shiftLimbs (hw : 0 < w) (limbs : List (BitVec w)) (carry : BitVec w)
    (hcarry : carry.toNat ≤ 1) (hfits : 2 * value limbs + carry.toNat < 2 ^ (w * limbs.length)) :
    value (shiftLimbs limbs carry) = 2 * value limbs + carry.toNat := by
  induction limbs generalizing carry with
  | nil =>
      simp at hfits
      simp [shiftLimbs, hfits]
  | cons limb limbs ih =>
      have hcolumn := toNat_shift_column hw limb carry hcarry
      have htop : (limb >>> (w - 1)).toNat ≤ 1 := by
        have hlt := limb.isLt
        rw [BitVec.toNat_ushiftRight, Nat.shiftRight_eq_div_pow, Nat.div_le_iff_le_mul_add_pred
          (by positivity)]
        have hpow : 2 ^ w = 2 * 2 ^ (w - 1) := by
          rw [← Nat.pow_succ', Nat.succ_eq_add_one, Nat.sub_add_cancel hw]
        have hpos : 0 < 2 ^ (w - 1) := by positivity
        omega
      have hrest : 2 * value limbs + (limb >>> (w - 1)).toNat < 2 ^ (w * limbs.length) := by
        rw [value_cons, List.length_cons, Nat.mul_succ, Nat.pow_add, Nat.mul_comm (2 ^ _)] at hfits
        have hpos : 0 < 2 ^ w := by positivity
        refine Nat.lt_of_mul_lt_mul_left (a := 2 ^ w) ?_
        nlinarith [hcolumn, hfits, Nat.zero_le (limb <<< 1 ||| carry).toNat]
      rw [shiftLimbs, value_cons, value_cons, ih _ htop hrest]
      calc
        (limb <<< 1 ||| carry).toNat + 2 ^ w * (2 * value limbs + (limb >>> (w - 1)).toNat) =
          (limb <<< 1 ||| carry).toNat + 2 ^ w * (limb >>> (w - 1)).toNat +
            2 * (2 ^ w * value limbs) := by ring
        _ = 2 * (limb.toNat + 2 ^ w * value limbs) + carry.toNat := by
          rw [hcolumn]
          ring

/-- Limb-wise subtraction with the borrow that ripples upwards. -/
def subtractLimbs : List (BitVec w) → List (BitVec w) → Bool → List (BitVec w) × Bool
  | a :: as, b :: bs, borrow =>
      let difference := a - b
      let total := difference - BitVec.ofNat w borrow.toNat
      let borrowOut := a.usubOverflow b || difference.usubOverflow (BitVec.ofNat w borrow.toNat)
      let rest := subtractLimbs as bs borrowOut
      (total :: rest.1, rest.2)
  | _, _, borrow => ([], borrow)

@[simp]
theorem length_subtractLimbs (as bs : List (BitVec w)) (borrow : Bool)
    (h : as.length = bs.length) : (subtractLimbs as bs borrow).1.length = as.length := by
  induction as generalizing bs borrow with
  | nil => rfl
  | cons a as ih =>
      cases bs with
      | nil => simp at h
      | cons b bs => simp [subtractLimbs, ih bs _ (by simpa using h)]

/-- One column of the subtraction: the limb kept and the borrow passed on. -/
theorem toNat_sub_borrow (hw : 0 < w) (a b : BitVec w) (borrow : Bool) :
    (a - b - BitVec.ofNat w borrow.toNat).toNat + b.toNat + borrow.toNat =
      a.toNat + 2 ^ w *
        (a.usubOverflow b || (a - b).usubOverflow (BitVec.ofNat w borrow.toNat)).toNat := by
  have hpow : 2 ≤ 2 ^ w := by
    calc 2 = 2 ^ 1 := rfl
      _ ≤ 2 ^ w := Nat.pow_le_pow_right (by decide) hw
  have ha := a.isLt
  have hb := b.isLt
  have hc : borrow.toNat ≤ 1 := by cases borrow <;> decide
  simp only [BitVec.usubOverflow, BitVec.toNat_sub, BitVec.toNat_ofNat,
    Nat.mod_eq_of_lt (show borrow.toNat < 2 ^ w by omega)]
  by_cases hfirst : a.toNat < b.toNat
  · rw [Nat.mod_eq_of_lt (show 2 ^ w - b.toNat + a.toNat < 2 ^ w by omega),
      Nat.mod_eq_sub_mod (by omega), Nat.mod_eq_of_lt (by omega)]
    simp only [hfirst, decide_true, Bool.true_or, Bool.toNat_true]
    omega
  · rw [Nat.mod_eq_sub_mod (show 2 ^ w ≤ 2 ^ w - b.toNat + a.toNat by omega),
      Nat.mod_eq_of_lt (show 2 ^ w - b.toNat + a.toNat - 2 ^ w < 2 ^ w by omega)]
    by_cases hsecond : 2 ^ w - b.toNat + a.toNat - 2 ^ w < borrow.toNat
    · rw [Nat.mod_eq_of_lt (by omega)]
      simp only [hsecond, decide_true, Bool.or_true, Bool.toNat_true]
      omega
    · rw [Nat.mod_eq_sub_mod (by omega), Nat.mod_eq_of_lt (by omega)]
      simp only [hfirst, hsecond, decide_false, Bool.or_false, Bool.toNat_false]
      omega

/-- The ripple subtraction is exact: what was missing is in the borrow. -/
theorem value_subtractLimbs (hw : 0 < w) (as bs : List (BitVec w)) (borrow : Bool)
    (h : as.length = bs.length) :
    value (subtractLimbs as bs borrow).1 + value bs + borrow.toNat =
      value as + 2 ^ (w * as.length) * (subtractLimbs as bs borrow).2.toNat := by
  induction as generalizing bs borrow with
  | nil =>
      cases bs with
      | nil => simp [subtractLimbs]
      | cons b bs => simp at h
  | cons a as ih =>
      cases bs with
      | nil => simp at h
      | cons b bs =>
          have hcolumn := toNat_sub_borrow hw a b borrow
          have hrest := ih bs
            (a.usubOverflow b || (a - b).usubOverflow (BitVec.ofNat w borrow.toNat))
            (by simpa using h)
          simp only [subtractLimbs, value_cons, List.length_cons, Nat.mul_succ, Nat.pow_add]
          generalize (a - b - BitVec.ofNat w borrow.toNat).toNat = kept at hcolumn ⊢
          generalize (a.usubOverflow b ||
            (a - b).usubOverflow (BitVec.ofNat w borrow.toNat)) = passed at hcolumn hrest ⊢
          calc
            kept + 2 ^ w * value (subtractLimbs as bs passed).1 +
                (b.toNat + 2 ^ w * value bs) + borrow.toNat =
              kept + b.toNat + borrow.toNat +
                2 ^ w * (value (subtractLimbs as bs passed).1 + value bs) := by ring
            _ = a.toNat + 2 ^ w * (value (subtractLimbs as bs passed).1 + value bs +
                passed.toNat) := by
              rw [hcolumn]
              ring
            _ = a.toNat + 2 ^ w * value as +
                2 ^ (w * as.length) * 2 ^ w * (subtractLimbs as bs passed).2.toNat := by
              rw [hrest]
              ring

/-- A bit of the number is a bit of one limb. -/
theorem testBit_value (hw : 0 < w) (limbs : List (BitVec w)) (index : ℕ) :
    (value limbs).testBit index = (limbs.getD (index / w) 0).getLsbD (index % w) := by
  induction limbs generalizing index with
  | nil => simp
  | cons limb limbs ih =>
      rw [value_cons, Nat.add_comm, Nat.testBit_two_pow_mul_add _ limb.isLt]
      by_cases hindex : index < w
      · rw [if_pos hindex, Nat.div_eq_of_lt hindex, Nat.mod_eq_of_lt hindex]
        rfl
      · have hle : w ≤ index := Nat.le_of_not_lt hindex
        rw [if_neg hindex, ih, Nat.div_eq_sub_div hw hle, Nat.mod_eq_sub_mod hle]
        rfl

/-- Setting a bit of one limb sets that bit of the number. -/
theorem testBit_value_modify (hw : 0 < w) (limbs : List (BitVec w)) (index : ℕ)
    (hindex : index / w < limbs.length) (position : ℕ) :
    (value (limbs.modify (index / w) fun limb => limb ||| 1#w <<< (index % w))).testBit position =
      ((value limbs).testBit position || decide (position = index)) := by
  rw [testBit_value hw, testBit_value hw]
  by_cases hlimb : position / w = index / w
  · have hmod : position % w < w := Nat.mod_lt _ hw
    have heq : (position = index) ↔ position % w = index % w := by
      constructor
      · rintro rfl
        rfl
      · intro h
        rw [← Nat.div_add_mod position w, ← Nat.div_add_mod index w, hlimb, h]
    rw [hlimb, List.getD_eq_getElem?_getD, List.getD_eq_getElem?_getD, List.getElem?_modify,
      List.getElem?_eq_getElem hindex]
    simp only [↓reduceIte, Option.map_eq_map, Option.map_some, Option.getD_some,
      BitVec.getLsbD_or, BitVec.getLsbD_shiftLeft, BitVec.getLsbD_one, hmod, decide_true,
      Bool.true_and, heq]
    by_cases hless : position % w < index % w
    · have hne : position % w ≠ index % w := by omega
      simp [hless, hne]
    · by_cases hsame : position % w = index % w
      · simp [hsame, hw, Nat.mod_lt index hw]
      · have hpos : position % w - index % w ≠ 0 := by omega
        simp [hsame, hpos]
  · have hne : position ≠ index := fun h => hlimb (by rw [h])
    have hrow : (limbs.modify (index / w) fun limb => limb ||| 1#w <<< (index % w)).getD
        (position / w) 0 = limbs.getD (position / w) 0 := by
      simp [List.getD_eq_getElem?_getD, Ne.symm hlimb]
    rw [hrow]
    simp [hne]

/-- Setting a clear bit above which the number is a multiple adds its power. -/
theorem value_modify_of_dvd (hw : 0 < w) (limbs : List (BitVec w)) (index : ℕ)
    (hindex : index / w < limbs.length) (hdvd : 2 ^ (index + 1) ∣ value limbs) :
    value (limbs.modify (index / w) fun limb => limb ||| 1#w <<< (index % w)) =
      value limbs + 2 ^ index := by
  obtain ⟨quotient, hquotient⟩ := hdvd
  rw [hquotient, Nat.two_pow_add_eq_or_of_lt (Nat.pow_lt_pow_right (by decide) (by omega))]
  apply Nat.eq_of_testBit_eq
  intro position
  rw [testBit_value_modify hw limbs index hindex, hquotient, Nat.testBit_or,
    Nat.testBit_two_pow]
  simp [eq_comm]

/-- A number and its bitwise complement fill every bit. -/
theorem value_map_not (limbs : List (BitVec w)) :
    value (limbs.map fun limb => ~~~limb) + value limbs + 1 = 2 ^ (w * limbs.length) := by
  induction limbs with
  | nil => simp
  | cons limb limbs ih =>
      have hlimb := limb.isLt
      simp only [List.map_cons, value_cons, BitVec.toNat_not, List.length_cons, Nat.mul_succ,
        Nat.pow_add]
      calc
        2 ^ w - 1 - limb.toNat + 2 ^ w * value (limbs.map fun limb => ~~~limb) +
            (limb.toNat + 2 ^ w * value limbs) + 1 =
          2 ^ w - 1 - limb.toNat + limb.toNat + 1 +
            2 ^ w * (value (limbs.map fun limb => ~~~limb) + value limbs) := by ring
        _ = 2 ^ w * (value (limbs.map fun limb => ~~~limb) + value limbs + 1) := by
          rw [show 2 ^ w - 1 - limb.toNat + limb.toNat + 1 = 2 ^ w by omega]
          ring
        _ = 2 ^ (w * limbs.length) * 2 ^ w := by rw [ih, Nat.mul_comm]

/-- The list of limbs is determined by its length and its value. -/
theorem value_injective {as bs : List (BitVec w)} (hlength : as.length = bs.length)
    (hvalue : value as = value bs) : as = bs := by
  induction as generalizing bs with
  | nil => exact (List.length_eq_zero_iff.mp hlength.symm).symm
  | cons a as ih =>
      cases bs with
      | nil => simp at hlength
      | cons b bs =>
          rw [value_cons, value_cons] at hvalue
          have hlow : a.toNat = b.toNat := by
            have hmod := congrArg (· % 2 ^ w) hvalue
            simpa [Nat.add_mul_mod_self_left, Nat.mod_eq_of_lt a.isLt, Nat.mod_eq_of_lt b.isLt]
              using hmod
          have hhigh : value as = value bs := by
            rw [hlow] at hvalue
            exact Nat.eq_of_mul_eq_mul_left (by positivity) (Nat.add_left_cancel hvalue)
          rw [BitVec.eq_of_toNat_eq hlow, ih (by simpa using hlength) hhigh]

/-- A list of limbs stays below its capacity. -/
theorem value_lt (limbs : List (BitVec w)) : value limbs < 2 ^ (w * limbs.length) := by
  have hcomplement := value_map_not limbs
  omega

/-- Every number below the capacity is the value of some limbs. -/
theorem exists_value_eq (size number : ℕ) (h : number < 2 ^ (w * size)) :
    ∃ limbs : List (BitVec w), limbs.length = size ∧ value limbs = number := by
  induction size generalizing number with
  | zero =>
      refine ⟨[], rfl, ?_⟩
      rw [Nat.mul_zero, Nat.pow_zero] at h
      rw [value_nil]
      omega
  | succ size ih =>
      rw [Nat.mul_succ, Nat.pow_add, Nat.mul_comm] at h
      obtain ⟨limbs, hsize, hvalue⟩ := ih (number / 2 ^ w) (Nat.div_lt_of_lt_mul h)
      refine ⟨BitVec.ofNat w number :: limbs, by rw [List.length_cons, hsize], ?_⟩
      rw [value_cons, hvalue, BitVec.toNat_ofNat, Nat.mod_add_div]

/-! ## Multiplying and dividing by one word

The columns are computed in an accumulator of `v` bits, with room for a limb times the word.
-/

variable {v : ℕ}

/-- Multiply by one word and add another: each column keeps a limb and passes the rest on. -/
def mulAddLimbs : List (BitVec w) → BitVec v → BitVec v → List (BitVec w) × BitVec v
  | [], _, carry => ([], carry)
  | limb :: limbs, multiplier, carry =>
      let column := limb.setWidth v * multiplier + carry
      let rest := mulAddLimbs limbs multiplier (column >>> w)
      (column.setWidth w :: rest.1, rest.2)

@[simp]
theorem length_mulAddLimbs (limbs : List (BitVec w)) (multiplier carry : BitVec v) :
    (mulAddLimbs limbs multiplier carry).1.length = limbs.length := by
  induction limbs generalizing carry with
  | nil => rfl
  | cons limb limbs ih => simp [mulAddLimbs, ih]

/-- One column of the multiplication does not wrap, and passes on less than the bound. -/
theorem toNat_mulAdd_column {bound : ℕ} (hroom : 2 ^ w * bound ≤ 2 ^ v) (limb : BitVec w)
    {multiplier carry : BitVec v} (hmultiplier : multiplier.toNat < bound)
    (hcarry : carry.toNat < bound) :
    (limb.setWidth v * multiplier + carry).toNat =
        limb.toNat * multiplier.toNat + carry.toNat ∧
      limb.toNat * multiplier.toNat + carry.toNat < 2 ^ w * bound := by
  have hlimb := limb.isLt
  have hcolumn : limb.toNat * multiplier.toNat + carry.toNat < 2 ^ w * bound := by
    calc
      limb.toNat * multiplier.toNat + carry.toNat < limb.toNat * bound + bound :=
        Nat.add_lt_add_of_le_of_lt (Nat.mul_le_mul_left _ hmultiplier.le) hcarry
      _ = (limb.toNat + 1) * bound := by ring
      _ ≤ 2 ^ w * bound := Nat.mul_le_mul_right _ hlimb
  have hwide : limb.toNat < 2 ^ v := by
    have hle : 2 ^ w ≤ 2 ^ w * bound := Nat.le_mul_of_pos_right _ (by omega)
    omega
  have hproduct : limb.toNat * multiplier.toNat < 2 ^ v := by omega
  constructor
  · rw [BitVec.toNat_add, BitVec.toNat_mul, BitVec.toNat_setWidth, Nat.mod_eq_of_lt hwide,
      Nat.mod_eq_of_lt hproduct, Nat.mod_eq_of_lt (by omega)]
  · exact hcolumn

/-- The multiplication is exact: what does not fit the limbs is in the carry, which stays
within the bound. -/
theorem value_mulAddLimbs {bound : ℕ} (hroom : 2 ^ w * bound ≤ 2 ^ v) (limbs : List (BitVec w))
    (multiplier carry : BitVec v) (hmultiplier : multiplier.toNat < bound)
    (hcarry : carry.toNat < bound) :
    value (mulAddLimbs limbs multiplier carry).1 +
        2 ^ (w * limbs.length) * (mulAddLimbs limbs multiplier carry).2.toNat =
        value limbs * multiplier.toNat + carry.toNat ∧
      (mulAddLimbs limbs multiplier carry).2.toNat < bound := by
  induction limbs generalizing carry with
  | nil => simpa [mulAddLimbs] using hcarry
  | cons limb limbs ih =>
      obtain ⟨hcolumn, hbelow⟩ := toNat_mulAdd_column hroom limb hmultiplier hcarry
      have hpassed : ((limb.setWidth v * multiplier + carry) >>> w).toNat =
          (limb.toNat * multiplier.toNat + carry.toNat) / 2 ^ w := by
        rw [BitVec.toNat_ushiftRight, hcolumn, Nat.shiftRight_eq_div_pow]
      have hkept : ((limb.setWidth v * multiplier + carry).setWidth w).toNat =
          (limb.toNat * multiplier.toNat + carry.toNat) % 2 ^ w := by
        rw [BitVec.toNat_setWidth, hcolumn]
      have hsplit := Nat.mod_add_div (limb.toNat * multiplier.toNat + carry.toNat) (2 ^ w)
      obtain ⟨hrest, hlast⟩ := ih ((limb.setWidth v * multiplier + carry) >>> w) (by
        rw [hpassed]
        exact Nat.div_lt_of_lt_mul hbelow)
      rw [hpassed] at hrest
      simp only [mulAddLimbs, value_cons, List.length_cons, Nat.mul_succ, Nat.pow_add, hkept]
      refine ⟨?_, hlast⟩
      generalize mulAddLimbs limbs multiplier
        ((limb.setWidth v * multiplier + carry) >>> w) = rest at hrest ⊢
      calc
        (limb.toNat * multiplier.toNat + carry.toNat) % 2 ^ w + 2 ^ w * value rest.1 +
            2 ^ (w * limbs.length) * 2 ^ w * rest.2.toNat =
          (limb.toNat * multiplier.toNat + carry.toNat) % 2 ^ w +
            2 ^ w * (value rest.1 + 2 ^ (w * limbs.length) * rest.2.toNat) := by ring
        _ = (limb.toNat * multiplier.toNat + carry.toNat) % 2 ^ w +
              2 ^ w * ((limb.toNat * multiplier.toNat + carry.toNat) / 2 ^ w) +
            2 ^ w * value limbs * multiplier.toNat := by
          rw [hrest]
          ring
        _ = (limb.toNat + 2 ^ w * value limbs) * multiplier.toNat + carry.toNat := by
          rw [hsplit]
          ring

/-- Divide by one word, from the most significant limb down: the quotient of each column,
as wide as the accumulator, and the last remainder. -/
def divideLimbs : List (BitVec w) → BitVec v → List (BitVec v) × BitVec v
  | [], _ => ([], 0)
  | limb :: limbs, divisor =>
      let high := divideLimbs limbs divisor
      let dividend := high.2 <<< w ||| limb.setWidth v
      (dividend / divisor :: high.1, dividend % divisor)

@[simp]
theorem length_divideLimbs (limbs : List (BitVec w)) (divisor : BitVec v) :
    (divideLimbs limbs divisor).1.length = limbs.length := by
  induction limbs with
  | nil => rfl
  | cons limb limbs ih => simp [divideLimbs, ih]

/-- The dividend of a column is not cut off, as the remainder passed on is below the
divisor. -/
theorem toNat_divide_column {divisor : BitVec v} (hroom : 2 ^ w * divisor.toNat ≤ 2 ^ v)
    (limb : BitVec w) {remainder : BitVec v} (hremainder : remainder.toNat < divisor.toNat) :
    (remainder <<< w ||| limb.setWidth v).toNat = 2 ^ w * remainder.toNat + limb.toNat := by
  have hlimb := limb.isLt
  have hwhole : 2 ^ w * remainder.toNat + 2 ^ w ≤ 2 ^ v := by
    calc
      2 ^ w * remainder.toNat + 2 ^ w = 2 ^ w * (remainder.toNat + 1) := by ring
      _ ≤ 2 ^ w * divisor.toNat := Nat.mul_le_mul_left _ hremainder
      _ ≤ 2 ^ v := hroom
  have hhigh : 2 ^ w * remainder.toNat < 2 ^ v := by
    have hpos : 0 < 2 ^ w := by positivity
    omega
  rw [BitVec.toNat_or, BitVec.toNat_shiftLeft, BitVec.toNat_setWidth, Nat.shiftLeft_eq,
    Nat.mul_comm, Nat.mod_eq_of_lt hhigh, Nat.mod_eq_of_lt (by omega),
    ← Nat.two_pow_add_eq_or_of_lt hlimb]

/-- The division is exact, its remainder is below the divisor, and every column of the
quotient fits a limb. -/
theorem value_divideLimbs (limbs : List (BitVec w)) (divisor : BitVec v)
    (hpositive : 0 < divisor.toNat) (hroom : 2 ^ w * divisor.toNat ≤ 2 ^ v) :
    value ((divideLimbs limbs divisor).1.map (BitVec.setWidth w)) * divisor.toNat +
        (divideLimbs limbs divisor).2.toNat = value limbs ∧
      (divideLimbs limbs divisor).2.toNat < divisor.toNat ∧
      ∀ column ∈ (divideLimbs limbs divisor).1, column.toNat < 2 ^ w := by
  induction limbs with
  | nil => simpa [divideLimbs] using hpositive
  | cons limb limbs ih =>
      obtain ⟨hhigh, hremainder, hcolumns⟩ := ih
      have hlimb := limb.isLt
      have hdividend := toNat_divide_column hroom limb hremainder
      simp only [divideLimbs, List.map_cons, value_cons, List.forall_mem_cons]
      generalize divideLimbs limbs divisor = high at hhigh hremainder hcolumns hdividend ⊢
      have hquotient : (high.2 <<< w ||| limb.setWidth v).toNat / divisor.toNat < 2 ^ w := by
        apply Nat.div_lt_of_lt_mul
        rw [hdividend, Nat.mul_comm divisor.toNat]
        calc
          2 ^ w * high.2.toNat + limb.toNat < 2 ^ w * high.2.toNat + 2 ^ w := by omega
          _ = 2 ^ w * (high.2.toNat + 1) := by ring
          _ ≤ 2 ^ w * divisor.toNat := Nat.mul_le_mul_left _ hremainder
      have hsplit := Nat.div_add_mod (high.2 <<< w ||| limb.setWidth v).toNat divisor.toNat
      rw [BitVec.toNat_setWidth, BitVec.toNat_udiv, BitVec.toNat_umod,
        Nat.mod_eq_of_lt hquotient]
      refine ⟨?_, Nat.mod_lt _ hpositive, hquotient, hcolumns⟩
      generalize (high.2 <<< w ||| limb.setWidth v).toNat / divisor.toNat = quotient at hsplit ⊢
      generalize (high.2 <<< w ||| limb.setWidth v).toNat % divisor.toNat = rest at hsplit ⊢
      generalize value (high.1.map (BitVec.setWidth w)) = above at hhigh ⊢
      calc
        (quotient + 2 ^ w * above) * divisor.toNat + rest =
          divisor.toNat * quotient + rest + 2 ^ w * (above * divisor.toNat) := by ring
        _ = 2 ^ w * (above * divisor.toNat + high.2.toNat) + limb.toNat := by
          rw [hsplit, hdividend]
          ring
        _ = limb.toNat + 2 ^ w * value limbs := by
          rw [hhigh]
          ring

/-! ## Big-endian bytes -/

/-- The number a most-significant-first byte string stands for. -/
def bigEndian (bytes : List UInt8) : ℕ :=
  Nat.ofDigits 256 (bytes.reverse.map UInt8.toNat)

@[simp]
theorem bigEndian_nil : bigEndian [] = 0 := rfl

theorem bigEndian_append (high low : List UInt8) :
    bigEndian (high ++ low) = 256 ^ low.length * bigEndian high + bigEndian low := by
  simp [bigEndian, Nat.ofDigits_append, Nat.add_comm]

@[simp]
theorem bigEndian_singleton (byte : UInt8) : bigEndian [byte] = byte.toNat := by
  simp [bigEndian]

theorem bigEndian_cons (byte : UInt8) (bytes : List UInt8) :
    bigEndian (byte :: bytes) = 256 ^ bytes.length * byte.toNat + bigEndian bytes := by
  rw [← List.singleton_append, bigEndian_append, bigEndian_singleton]

theorem bigEndian_lt (bytes : List UInt8) : bigEndian bytes < 256 ^ bytes.length := by
  induction bytes with
  | nil => simp
  | cons byte bytes ih =>
      have hbyte : byte.toNat + 1 ≤ 256 := byte.toNat_lt
      rw [bigEndian_cons, List.length_cons, Nat.pow_succ]
      calc
        256 ^ bytes.length * byte.toNat + bigEndian bytes <
          256 ^ bytes.length * byte.toNat + 256 ^ bytes.length := by omega
        _ = 256 ^ bytes.length * (byte.toNat + 1) := by ring
        _ ≤ 256 ^ bytes.length * 256 := Nat.mul_le_mul_left _ hbyte

/-- Only the all-zero byte string stands for zero. -/
theorem bigEndian_eq_zero {bytes : List UInt8} (h : bigEndian bytes = 0) :
    bytes = List.replicate bytes.length 0 := by
  induction bytes with
  | nil => rfl
  | cons byte bytes ih =>
      rw [bigEndian_cons, Nat.add_eq_zero_iff] at h
      have hbyte : byte.toNat = 0 :=
        (Nat.mul_eq_zero.mp h.1).resolve_left (by positivity)
      have hzero : byte = 0 := UInt8.toNat_inj.mp hbyte
      rw [List.length_cons, List.replicate_succ, ← ih h.2, hzero]

/-- Byte strings compared from the first byte on. -/
def lexLe : List UInt8 → List UInt8 → Bool
  | [], _ => true
  | _ :: _, [] => false
  | a :: as, b :: bs => decide (a < b) || a == b && lexLe as bs

/-- On strings of one length this is the order of the numbers they write. -/
theorem lexLe_iff {as bs : List UInt8} (hlength : as.length = bs.length) :
    lexLe as bs = true ↔ bigEndian as ≤ bigEndian bs := by
  induction as generalizing bs with
  | nil =>
      rw [List.length_nil, eq_comm, List.length_eq_zero_iff] at hlength
      simp [hlength, lexLe]
  | cons a as ih =>
      cases bs with
      | nil => simp at hlength
      | cons b bs =>
          rw [List.length_cons, List.length_cons, Nat.add_right_cancel_iff] at hlength
          have hlow := bigEndian_lt as
          have hlow' := bigEndian_lt bs
          rw [bigEndian_cons, bigEndian_cons, ← hlength]
          rw [← hlength] at hlow'
          simp only [lexLe, Bool.or_eq_true, Bool.and_eq_true, decide_eq_true_eq, beq_iff_eq,
            ih hlength, UInt8.lt_iff_toNat_lt, ← UInt8.toNat_inj]
          generalize 256 ^ as.length = base at hlow hlow' ⊢
          rcases lt_trichotomy a.toNat b.toNat with hlt | heq | hgt
          · have hstep : base * (a.toNat + 1) ≤ base * b.toNat := Nat.mul_le_mul_left base hlt
            rw [Nat.mul_add_one] at hstep
            exact ⟨fun _ => by omega, fun _ => .inl hlt⟩
          · rw [heq]
            simp
          · have hstep : base * (b.toNat + 1) ≤ base * a.toNat := Nat.mul_le_mul_left base hgt
            rw [Nat.mul_add_one] at hstep
            refine ⟨fun h => ?_, fun h => ?_⟩
            · omega
            · omega

/-- A machine word read from big-endian bytes. -/
def limbOfBytes (w : ℕ) (bytes : List UInt8) : BitVec w :=
  bytes.foldl (fun limb byte => limb <<< 8 ||| BitVec.setWidth w byte.toBitVec) 0

/-- Bytes that fit the word are read exactly. -/
theorem toNat_limbOfBytes (bytes : List UInt8) (hfits : 8 * bytes.length ≤ w) :
    (limbOfBytes w bytes).toNat = bigEndian bytes := by
  induction bytes using List.reverseRecOn with
  | nil => simp [limbOfBytes]
  | append_singleton bytes byte ih =>
      rw [List.length_append, List.length_singleton] at hfits
      have hbyte : byte.toNat < 2 ^ 8 := byte.toNat_lt
      have hread := ih (by omega)
      have hhigh : 2 ^ 8 * bigEndian bytes < 2 ^ w := by
        calc
          2 ^ 8 * bigEndian bytes < 2 ^ 8 * 256 ^ bytes.length :=
            Nat.mul_lt_mul_of_pos_left (bigEndian_lt bytes) (by positivity)
          _ = 2 ^ (8 * (bytes.length + 1)) := by
            rw [show 256 = 2 ^ 8 by rfl, ← Nat.pow_mul, ← Nat.pow_add]
            congr 1
            omega
          _ ≤ 2 ^ w := Nat.pow_le_pow_right (by decide) (by omega)
      have hsmall : byte.toNat < 2 ^ w :=
        lt_of_lt_of_le hbyte (Nat.pow_le_pow_right (by decide) (by omega))
      have hfold : limbOfBytes w (bytes ++ [byte]) =
          limbOfBytes w bytes <<< 8 ||| BitVec.setWidth w byte.toBitVec := by
        simp [limbOfBytes]
      rw [hfold, BitVec.toNat_or, BitVec.toNat_shiftLeft, BitVec.toNat_setWidth, hread,
        Nat.shiftLeft_eq, Nat.mul_comm, Nat.mod_eq_of_lt hhigh, UInt8.toNat_toBitVec,
        Nat.mod_eq_of_lt hsmall, ← Nat.two_pow_add_eq_or_of_lt hbyte, bigEndian_append,
        bigEndian_singleton, List.length_singleton, Nat.pow_one]

end WorkGate.Library.Limbs
