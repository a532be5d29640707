/-
# Exact work values (src/work.rs)

A 256-bit target assigned by a Mining Pool is worth a number of expected hashes.
The Authority adds these numbers exactly, in four 64-bit limbs with checked
addition and its own long division; nothing is ever rounded or wrapped.

The limb loops of addition and comparison are those of `Library.Limbs`, so their
meaning as natural numbers comes from there.
-/

import WorkGate.Library.Limbs

namespace WorkGate

open WorkGate.Library

/-- Explicit failures while parsing or accumulating exact work values. -/
inductive WorkError
  | invalidTargetLength
  | zeroTarget
  | zeroCreditedWork
  | invalidCreditedWorkDecimal
  | creditedWorkOverflow
  | creditedWorkOutsideU64
  deriving DecidableEq, Repr

/-- `Uint256([u64; 4])`: four limbs, least significant first. -/
structure Uint256 where
  limbs : List (BitVec 64)
  size : limbs.length = 4
  deriving DecidableEq

namespace Uint256

/-- The natural number the limbs stand for. -/
def toNat (x : Uint256) : ℕ := Limbs.value x.limbs

def zero : Uint256 := ⟨[0, 0, 0, 0], rfl⟩

def one : Uint256 := ⟨[1, 0, 0, 0], rfl⟩

/-- `Uint256::MAX`. -/
def maxValue : Uint256 :=
  ⟨[BitVec.allOnes 64, BitVec.allOnes 64, BitVec.allOnes 64, BitVec.allOnes 64], rfl⟩

/-- The most significant chunk of eight bytes fills the last limb. -/
def fromBeBytes (bytes : List UInt8) : Uint256 where
  limbs := (List.range 4).map fun index =>
    Limbs.limbOfBytes 64 ((bytes.drop (8 * (3 - index))).take 8)
  size := by simp

def maybeCheckedAdd (x y : Uint256) : Option Uint256 :=
  let sum := Limbs.addCarry x.limbs y.limbs false
  if sum.2 then none
  else some ⟨sum.1, by rw [Limbs.length_addCarry _ _ _ (by rw [x.size, y.size]), x.size]⟩

def bitwiseNot (x : Uint256) : Uint256 :=
  ⟨x.limbs.map fun limb => ~~~limb, by simpa using x.size⟩

def bit (x : Uint256) (index : ℕ) : Bool :=
  x.limbs.getD (index / 64) 0 &&& (1#64 <<< (index % 64)) != 0

def setBit (x : Uint256) (index : ℕ) : Uint256 :=
  ⟨x.limbs.modify (index / 64) fun limb => limb ||| 1#64 <<< (index % 64), by simpa using x.size⟩

def shiftLeftOne (x : Uint256) : Uint256 :=
  ⟨Limbs.shiftLimbs x.limbs 0, by rw [Limbs.length_shiftLimbs, x.size]⟩

def subtract (x y : Uint256) : Uint256 :=
  ⟨(Limbs.subtractLimbs x.limbs y.limbs false).1,
    by rw [Limbs.length_subtractLimbs _ _ _ (by rw [x.size, y.size]), x.size]⟩

/-- `Ord for Uint256`. -/
def cmp (x y : Uint256) : Ordering := Limbs.compareLimbs x.limbs y.limbs

/-- One turn of the long division: shift the next bit of the dividend into the
remainder, and subtract the divisor when it fits. -/
def divideStep (dividend divisor : Uint256) (bitIndex : ℕ) (quotient remainder : Uint256) :
    Uint256 × Uint256 :=
  let shifted := remainder.shiftLeftOne
  let filled := if dividend.bit bitIndex then shifted.setBit 0 else shifted
  if filled.cmp divisor = .lt then (quotient, filled)
  else (quotient.setBit bitIndex, filled.subtract divisor)

/-- Long division over all 256 bits, from the top. -/
def divide (dividend divisor : Uint256) : Uint256 :=
  ((List.range 256).reverse.foldl
    (fun state bitIndex => divideStep dividend divisor bitIndex state.1 state.2)
    (zero, zero)).1

theorem toNat_lt (x : Uint256) : x.toNat < 2 ^ 256 := by
  have hbound := Limbs.value_lt x.limbs
  rwa [x.size] at hbound

theorem toNat_injective {x y : Uint256} (h : x.toNat = y.toNat) : x = y := by
  obtain ⟨xs, hxs⟩ := x
  obtain ⟨ys, hys⟩ := y
  have hlimbs : xs = ys := Limbs.value_injective (by rw [hxs, hys]) h
  subst hlimbs
  rfl

theorem exists_toNat_eq (value : ℕ) (h : value < 2 ^ 256) : ∃ x : Uint256, x.toNat = value := by
  obtain ⟨limbs, hsize, hvalue⟩ := Limbs.exists_value_eq (w := 64) 4 value h
  exact ⟨⟨limbs, hsize⟩, hvalue⟩

@[simp]
theorem toNat_zero : zero.toNat = 0 := by decide

/-- Checked addition is exact addition of the values, and is refused exactly when
the sum does not fit 256 bits. -/
theorem maybeCheckedAdd_eq_some_iff {x y z : Uint256} :
    x.maybeCheckedAdd y = some z ↔ z.toNat = x.toNat + y.toNat := by
  have hsizes : x.limbs.length = y.limbs.length := by rw [x.size, y.size]
  have hexact := Limbs.value_addCarry (by decide : 0 < 64) x.limbs y.limbs false hsizes
  rw [x.size] at hexact
  constructor
  · intro h
    simp only [maybeCheckedAdd] at h
    split at h
    · cases h
    · next hcarry =>
        cases h
        simpa [hcarry, toNat] using hexact
  · intro h
    have hfits := z.toNat_lt
    have hcarry : (Limbs.addCarry x.limbs y.limbs false).2 = false := by
      by_contra hcarry
      rw [Bool.not_eq_false] at hcarry
      simp only [hcarry, Bool.toNat_true, Bool.toNat_false, Nat.mul_one, Nat.add_zero] at hexact
      simp only [toNat] at h hfits
      norm_num at hexact hfits
      omega
    simp only [maybeCheckedAdd, hcarry, Bool.false_eq_true, ↓reduceIte, Option.some.injEq]
    apply toNat_injective
    rw [h]
    simpa [hcarry, toNat] using hexact

theorem exists_maybeCheckedAdd {x : Uint256} (hfits : x.toNat + 1 < 2 ^ 256) :
    ∃ z, x.maybeCheckedAdd one = some z ∧ z.toNat = x.toNat + 1 := by
  have hone : one.toNat = 1 := by decide
  obtain ⟨z, hz⟩ := exists_toNat_eq _ hfits
  refine ⟨z, ?_, hz⟩
  rw [maybeCheckedAdd_eq_some_iff, hone, hz]

/-- The order on limbs is the order of the values. -/
theorem cmp_eq (x y : Uint256) : x.cmp y = compare x.toNat y.toNat :=
  Limbs.compareLimbs_eq _ _ (by rw [x.size, y.size])

theorem toNat_fromBeBytes (bytes : List UInt8) (hsize : bytes.length = 32) :
    (fromBeBytes bytes).toNat = Limbs.bigEndian bytes := by
  have hread (index : ℕ) : (Limbs.limbOfBytes 64 ((bytes.drop index).take 8)).toNat =
      Limbs.bigEndian ((bytes.drop index).take 8) :=
    Limbs.toNat_limbOfBytes _ (by rw [List.length_take]; omega)
  -- Peel the four chunks off the byte string, the most significant first.
  have hchunk (index : ℕ) (hindex : index + 8 ≤ 32) : Limbs.bigEndian (bytes.drop index) =
      256 ^ (24 - index) * Limbs.bigEndian ((bytes.drop index).take 8) +
        Limbs.bigEndian (bytes.drop (index + 8)) := by
    conv_lhs => rw [← List.take_append_drop 8 (bytes.drop index)]
    rw [Limbs.bigEndian_append, List.drop_drop, List.length_drop, hsize,
      show 32 - (index + 8) = 24 - index by omega]
  have hzero := hchunk 0 (by decide)
  have hone := hchunk 8 (by decide)
  have htwo := hchunk 16 (by decide)
  have hthree := hchunk 24 (by decide)
  have hend : Limbs.bigEndian (bytes.drop 32) = 0 := by
    rw [List.drop_of_length_le (by omega), Limbs.bigEndian_nil]
  simp only [toNat, fromBeBytes, List.range, List.range.loop, List.map_cons, List.map_nil,
    Limbs.value_cons, Limbs.value_nil, hread]
  rw [← List.drop_zero (l := bytes), hzero, hone, htwo, hthree, hend]
  norm_num
  ring

theorem toNat_bitwiseNot (x : Uint256) : x.bitwiseNot.toNat = 2 ^ 256 - 1 - x.toNat := by
  have hcomplement := Limbs.value_map_not x.limbs
  rw [x.size] at hcomplement
  simp only [bitwiseNot, toNat]
  omega

theorem bit_eq (x : Uint256) (index : ℕ) : x.bit index = x.toNat.testBit index := by
  rw [toNat, Limbs.testBit_value (by decide : 0 < 64), bit,
    show (1#64 <<< (index % 64)) = BitVec.twoPow 64 (index % 64) by rfl, BitVec.and_twoPow]
  have hindex : index % 64 < 64 := Nat.mod_lt _ (by decide)
  split
  · next hset =>
      have hne : BitVec.twoPow 64 (index % 64) ≠ 0#64 := by
        intro hzero
        have hbit := congrArg (fun limb => BitVec.getLsbD limb (index % 64)) hzero
        simp [hindex] at hbit
      rw [hset, bne_iff_ne]
      exact hne
  · next hclear =>
      rw [Bool.not_eq_true] at hclear
      rw [hclear]
      rfl

theorem toNat_setBit (x : Uint256) (index : ℕ) (hindex : index < 256)
    (hdvd : 2 ^ (index + 1) ∣ x.toNat) : (x.setBit index).toNat = x.toNat + 2 ^ index :=
  Limbs.value_modify_of_dvd (by decide) x.limbs index (by rw [x.size]; omega) hdvd

theorem toNat_shiftLeftOne (x : Uint256) (hfits : 2 * x.toNat < 2 ^ 256) :
    x.shiftLeftOne.toNat = 2 * x.toNat := by
  have hexact := Limbs.value_shiftLimbs (by decide) x.limbs 0#64 (by decide)
    (by rw [x.size]; simpa [toNat] using hfits)
  simpa [shiftLeftOne, toNat] using hexact

/-- Taking away no more than there is leaves no borrow. -/
theorem subtractLimbs_no_borrow (x y : Uint256) (hle : y.toNat ≤ x.toNat) :
    (Limbs.subtractLimbs x.limbs y.limbs false).2 = false := by
  have hsizes : x.limbs.length = y.limbs.length := by rw [x.size, y.size]
  have hexact := Limbs.value_subtractLimbs (by decide) x.limbs y.limbs false hsizes
  have hfits := (x.subtract y).toNat_lt
  rw [x.size] at hexact
  simp only [subtract, toNat] at hfits hle
  by_contra hborrow
  rw [Bool.not_eq_false] at hborrow
  simp only [hborrow, Bool.toNat_true, Bool.toNat_false, Nat.add_zero] at hexact
  omega

theorem toNat_subtract (x y : Uint256) (hle : y.toNat ≤ x.toNat) :
    (x.subtract y).toNat = x.toNat - y.toNat := by
  have hsizes : x.limbs.length = y.limbs.length := by rw [x.size, y.size]
  have hexact := Limbs.value_subtractLimbs (by decide) x.limbs y.limbs false hsizes
  rw [subtractLimbs_no_borrow x y hle] at hexact
  simp only [Bool.toNat_false, Nat.mul_zero, Nat.add_zero] at hexact
  simp only [subtract, toNat]
  omega

/-- What the long division has established once the bits from `bitIndex` up are
consumed: they have been divided exactly. -/
structure DivideInvariant (dividend divisor : Uint256) (bitIndex : ℕ)
    (state : Uint256 × Uint256) : Prop where
  remainder_lt : state.2.toNat < divisor.toNat
  exact : ∃ high, state.1.toNat = 2 ^ bitIndex * high ∧
    dividend.toNat / 2 ^ bitIndex = high * divisor.toNat + state.2.toNat

theorem DivideInvariant.step {dividend divisor : Uint256} {bitIndex : ℕ}
    {state : Uint256 × Uint256} (hbound : bitIndex < 256)
    (h : DivideInvariant dividend divisor (bitIndex + 1) state) :
    DivideInvariant dividend divisor bitIndex
      (divideStep dividend divisor bitIndex state.1 state.2) := by
  obtain ⟨hlt, high, hquotient, hexact⟩ := h
  have hdividend := dividend.toNat_lt
  have hnext : dividend.toNat / 2 ^ bitIndex =
      2 * (dividend.toNat / 2 ^ (bitIndex + 1)) + (dividend.toNat.testBit bitIndex).toNat := by
    rw [Nat.pow_succ, ← Nat.div_div_eq_div_mul, Nat.toNat_testBit]
    omega
  have hsmall : dividend.toNat / 2 ^ bitIndex ≤ dividend.toNat := Nat.div_le_self _ _
  have hremainder : state.2.toNat ≤ dividend.toNat / 2 ^ (bitIndex + 1) := by omega
  have hshift := state.2.toNat_shiftLeftOne (by omega)
  have hfilled : (if dividend.bit bitIndex then state.2.shiftLeftOne.setBit 0
      else state.2.shiftLeftOne).toNat =
        2 * state.2.toNat + (dividend.toNat.testBit bitIndex).toNat := by
    rw [bit_eq]
    split
    · next hset =>
        rw [toNat_setBit _ 0 (by decide) (by rw [hshift]; exact Dvd.intro _ rfl), hshift, hset]
        rfl
    · next hclear => simp [hshift, hclear]
  have hquotientBit : (state.1.setBit bitIndex).toNat = 2 ^ bitIndex * (2 * high + 1) := by
    rw [toNat_setBit _ _ hbound (by rw [hquotient]; exact Dvd.intro _ rfl), hquotient]
    ring
  rw [hexact] at hnext
  simp only [divideStep, cmp_eq, Nat.compare_eq_lt]
  generalize (if dividend.bit bitIndex then state.2.shiftLeftOne.setBit 0
    else state.2.shiftLeftOne) = filled at hfilled ⊢
  split
  · next hless =>
      refine ⟨hless, 2 * high, ?_, ?_⟩
      · rw [hquotient]
        ring
      · rw [hnext, hfilled]
        ring
  · next hge =>
      rw [not_lt] at hge
      have hdifference := toNat_subtract _ divisor hge
      have htop : (dividend.toNat.testBit bitIndex).toNat ≤ 1 := Bool.toNat_le _
      refine ⟨?_, 2 * high + 1, hquotientBit, ?_⟩
      · rw [hdifference, hfilled]
        omega
      · rw [hdifference, hfilled, hnext]
        rw [hfilled] at hge
        have hmul : (2 * high + 1) * divisor.toNat =
            2 * (high * divisor.toNat) + divisor.toNat := by
          ring
        omega

/-- The quotient and the remainder the long division holds after some of its turns. -/
def divideAfter (dividend divisor : Uint256) (turns : ℕ) : Uint256 × Uint256 :=
  ((List.range 256).reverse.take turns).foldl
    (fun state bitIndex => divideStep dividend divisor bitIndex state.1 state.2) (zero, zero)

theorem divide_eq_divideAfter (dividend divisor : Uint256) :
    dividend.divide divisor = (divideAfter dividend divisor 256).1 := by
  rw [divideAfter, List.take_of_length_le (by simp)]
  rfl

theorem divideAfter_succ (dividend divisor : Uint256) {turns : ℕ} (hturns : turns < 256) :
    divideAfter dividend divisor (turns + 1) =
      divideStep dividend divisor (255 - turns) (divideAfter dividend divisor turns).1
        (divideAfter dividend divisor turns).2 := by
  have hturn : (List.range 256).reverse[turns]? = some (255 - turns) := by
    rw [List.getElem?_reverse (by simpa using hturns), List.length_range,
      List.getElem?_range (by omega)]
  rw [divideAfter, List.take_add_one, hturn, Option.toList_some, List.foldl_append]
  rfl

theorem DivideInvariant.after (dividend divisor : Uint256) (hdivisor : 0 < divisor.toNat)
    {turns : ℕ} (hturns : turns ≤ 256) :
    DivideInvariant dividend divisor (256 - turns) (divideAfter dividend divisor turns) := by
  induction turns with
  | zero =>
      refine ⟨by simpa [divideAfter] using hdivisor, 0, by simp [divideAfter], ?_⟩
      rw [Nat.sub_zero, Nat.div_eq_of_lt dividend.toNat_lt]
      simp [divideAfter]
  | succ turns ih =>
      have hprevious := ih (by omega)
      rw [show 256 - turns = 255 - turns + 1 by omega] at hprevious
      rw [divideAfter_succ dividend divisor (by omega),
        show 256 - (turns + 1) = 255 - turns by omega]
      exact hprevious.step (by omega)

/-- The long division computes the integer quotient. -/
theorem toNat_divide (dividend divisor : Uint256) (hdivisor : 0 < divisor.toNat) :
    (dividend.divide divisor).toNat = dividend.toNat / divisor.toNat := by
  obtain ⟨hlt, high, hquotient, hexact⟩ :=
    DivideInvariant.after dividend divisor hdivisor (le_refl 256)
  rw [Nat.sub_self, pow_zero, Nat.one_mul] at hquotient
  rw [Nat.sub_self, pow_zero, Nat.div_one] at hexact
  rw [divide_eq_divideAfter, hquotient, hexact, Nat.mul_comm, Nat.mul_add_div hdivisor,
    Nat.div_eq_of_lt hlt, Nat.add_zero]

/-- The remainder with the next bit of the dividend shifted in. -/
def filledRemainder (dividend : Uint256) (bitIndex : ℕ) (remainder : Uint256) : Uint256 :=
  if dividend.bit bitIndex then remainder.shiftLeftOne.setBit 0 else remainder.shiftLeftOne

/-- A turn of the long division that loses nothing: the top bit the shift drops from
the remainder is clear, and the subtraction, where the turn makes one, does not borrow. -/
structure ExactTurn (dividend divisor : Uint256) (bitIndex : ℕ) (remainder : Uint256) : Prop where
  nothing_shifted_out : remainder.bit 255 = false
  no_borrow : (filledRemainder dividend bitIndex remainder).cmp divisor ≠ .lt →
    (Limbs.subtractLimbs (filledRemainder dividend bitIndex remainder).limbs divisor.limbs
      false).2 = false

/-- The remainder is part of the bits consumed so far, so with a bit still to come it
leaves the top bit free, however large the divisor is. -/
theorem DivideInvariant.exactTurn {dividend divisor : Uint256} {bitIndex : ℕ}
    {state : Uint256 × Uint256} (h : DivideInvariant dividend divisor (bitIndex + 1) state) :
    ExactTurn dividend divisor bitIndex state.2 where
  nothing_shifted_out := by
    obtain ⟨-, high, -, hexact⟩ := h
    have hdividend := dividend.toNat_lt
    have hhalf : dividend.toNat / 2 ^ (bitIndex + 1) ≤ dividend.toNat / 2 := by
      rw [Nat.pow_succ', ← Nat.div_div_eq_div_mul]
      exact Nat.div_le_self _ _
    rw [bit_eq]
    apply Nat.testBit_lt_two_pow
    omega
  no_borrow hfits := by
    apply subtractLimbs_no_borrow
    rwa [cmp_eq, Ne, Nat.compare_eq_lt, not_lt] at hfits

end Uint256

/-- A 256-bit target, never zero. -/
structure AssignedTarget where
  bytes : List UInt8
  size : bytes.length = 32
  nonzero : bytes ≠ List.replicate 32 0
  deriving DecidableEq

/-- Parses a fixed-width, most-significant-byte-first target. -/
def AssignedTarget.fromBeBytes (bytes : List UInt8) (hsize : bytes.length = 32) :
    Except WorkError AssignedTarget :=
  if hzero : bytes = List.replicate 32 0 then .error .zeroTarget
  else .ok ⟨bytes, hsize, hzero⟩

/-- Exact integer expected hashes credited for an accepted result.  Every
constructor of the source rejects zero. -/
structure CreditedWork where
  value : Uint256
  positive : 0 < value.toNat
  deriving DecidableEq

/-- Calculates integer expected hashes for this target.  The two `none` branches are
the source's `unreachable!`. -/
def AssignedTarget.maybeCreditedWork (assigned : AssignedTarget) : Option Uint256 :=
  let target := Uint256.fromBeBytes assigned.bytes
  if target = Uint256.maxValue then some Uint256.one
  else do
    let divisor ← target.maybeCheckedAdd Uint256.one
    let quotient := target.bitwiseNot.divide divisor
    quotient.maybeCheckedAdd Uint256.one

/-- The number a target stands for. -/
def AssignedTarget.toNat (assigned : AssignedTarget) : ℕ := Limbs.bigEndian assigned.bytes

theorem AssignedTarget.toNat_pos (assigned : AssignedTarget) : 0 < assigned.toNat := by
  apply Nat.pos_of_ne_zero
  intro hzero
  have hbytes := Limbs.bigEndian_eq_zero hzero
  rw [assigned.size] at hbytes
  exact assigned.nonzero hbytes

/-- The calculation never reaches an `unreachable!`, and credits exactly the
integer part of `2 ^ 256 / (target + 1)`. -/
theorem AssignedTarget.maybeCreditedWork_spec (assigned : AssignedTarget) :
    ∃ work, assigned.maybeCreditedWork = some work ∧
      work.toNat = 2 ^ 256 / (assigned.toNat + 1) := by
  have htarget := Uint256.toNat_fromBeBytes assigned.bytes assigned.size
  have hfits := (Uint256.fromBeBytes assigned.bytes).toNat_lt
  have hpositive := assigned.toNat_pos
  have hmax : Uint256.maxValue.toNat = 2 ^ 256 - 1 := by decide
  rw [AssignedTarget.toNat, ← htarget] at hpositive ⊢
  generalize hvalue : Uint256.fromBeBytes assigned.bytes = target at hpositive hfits ⊢
  simp only [AssignedTarget.maybeCreditedWork, hvalue]
  split
  · next hfull =>
      refine ⟨Uint256.one, rfl, ?_⟩
      rw [hfull, hmax]
      decide
  · next hnotFull =>
      have hroom : target.toNat + 1 < 2 ^ 256 := by
        have hne : target.toNat ≠ 2 ^ 256 - 1 := fun heq =>
          hnotFull (Uint256.toNat_injective (by rw [heq, hmax]))
        omega
      obtain ⟨divisor, hdivisor, hdivisorValue⟩ := Uint256.exists_maybeCheckedAdd hroom
      have hquotient := target.bitwiseNot.toNat_divide divisor (by omega)
      rw [Uint256.toNat_bitwiseNot, hdivisorValue] at hquotient
      have hstep : 2 ^ 256 / (target.toNat + 1) =
          (2 ^ 256 - 1 - target.toNat) / (target.toNat + 1) + 1 := by
        rw [Nat.div_eq_sub_div (by omega) (by omega), Nat.sub_sub, Nat.add_comm 1]
      have hhalf : (2 ^ 256 - 1 - target.toNat) / (target.toNat + 1) ≤
          (2 ^ 256 - 1 - target.toNat) / 2 := Nat.div_le_div_left (by omega) (by decide)
      obtain ⟨work, hwork, hworkValue⟩ :=
        Uint256.exists_maybeCheckedAdd (x := target.bitwiseNot.divide divisor) (by omega)
      refine ⟨work, by simp [hdivisor, hwork], ?_⟩
      rw [hworkValue, hquotient, hstep]

/-- The calculation as the total function it is. -/
def AssignedTarget.creditedWork (assigned : AssignedTarget) : CreditedWork where
  value := assigned.maybeCreditedWork.get (by
    obtain ⟨work, hwork, -⟩ := assigned.maybeCreditedWork_spec
    rw [hwork]
    rfl)
  positive := by
    obtain ⟨work, hwork, hvalue⟩ := assigned.maybeCreditedWork_spec
    have hfits := (Uint256.fromBeBytes assigned.bytes).toNat_lt
    rw [Uint256.toNat_fromBeBytes _ assigned.size] at hfits
    simp only [hwork, Option.get_some, hvalue]
    exact Nat.div_pos hfits (by omega)

theorem AssignedTarget.toNat_creditedWork (assigned : AssignedTarget) :
    assigned.creditedWork.value.toNat = 2 ^ 256 / (assigned.toNat + 1) := by
  obtain ⟨work, hwork, hvalue⟩ := assigned.maybeCreditedWork_spec
  simp only [AssignedTarget.creditedWork, hwork, Option.get_some, hvalue]

/-- Crediting a target is exact: the branches marked unreachable stay unreached, the work
is the integer part of `2 ^ 256 / (target + 1)`, and where the long division is needed it
divides by a nonzero divisor and loses no bit and borrows nothing in any of its turns. -/
theorem AssignedTarget.creditedWork_exact (assigned : AssignedTarget) :
    assigned.maybeCreditedWork = some assigned.creditedWork.value ∧
      assigned.creditedWork.value.toNat = 2 ^ 256 / (assigned.toNat + 1) ∧
      ∀ divisor, (Uint256.fromBeBytes assigned.bytes).maybeCheckedAdd Uint256.one = some divisor →
        divisor ≠ Uint256.zero ∧ ∀ turns < 256,
          Uint256.ExactTurn (Uint256.fromBeBytes assigned.bytes).bitwiseNot divisor (255 - turns)
            (Uint256.divideAfter (Uint256.fromBeBytes assigned.bytes).bitwiseNot divisor
              turns).2 := by
  refine ⟨by simp [AssignedTarget.creditedWork], assigned.toNat_creditedWork, ?_⟩
  intro divisor hdivisor
  have hvalue := Uint256.maybeCheckedAdd_eq_some_iff.mp hdivisor
  have hone : Uint256.one.toNat = 1 := by decide
  have hpositive : 0 < divisor.toNat := by omega
  constructor
  · intro hzero
    rw [hzero, Uint256.toNat_zero] at hpositive
    exact lt_irrefl _ hpositive
  · intro turns hturns
    have hinvariant := Uint256.DivideInvariant.after
      (Uint256.fromBeBytes assigned.bytes).bitwiseNot divisor hpositive hturns.le
    rw [show 256 - turns = 255 - turns + 1 by omega] at hinvariant
    exact hinvariant.exactTurn

/-- Exact cumulative Credited Work, including the zero-progress state. -/
structure VerifiedProgress where
  value : Uint256
  deriving DecidableEq

/-- Returns zero Verified Progress for a newly issued challenge. -/
def VerifiedProgress.zero : VerifiedProgress := ⟨Uint256.zero⟩

/-- Adds one accepted-work credit while rejecting fixed-width overflow. -/
def VerifiedProgress.checkedAdd (progress : VerifiedProgress) (work : CreditedWork) :
    Except WorkError VerifiedProgress :=
  match progress.value.maybeCheckedAdd work.value with
  | some sum => .ok ⟨sum⟩
  | none => .error .creditedWorkOverflow

/-- Returns whether cumulative progress meets an exact Work Requirement. -/
def VerifiedProgress.meets (progress : VerifiedProgress) (requirement : CreditedWork) : Bool :=
  progress.value.cmp requirement.value != .lt

theorem VerifiedProgress.meets_iff (progress : VerifiedProgress) (requirement : CreditedWork) :
    progress.meets requirement = true ↔ requirement.value.toNat ≤ progress.value.toNat := by
  rw [VerifiedProgress.meets, Uint256.cmp_eq, bne_iff_ne, Ne, Nat.compare_eq_lt, not_lt]

theorem VerifiedProgress.checkedAdd_eq_ok {progress sum : VerifiedProgress} {work : CreditedWork}
    (h : progress.checkedAdd work = .ok sum) :
    sum.value.toNat = progress.value.toNat + work.value.toNat := by
  rw [VerifiedProgress.checkedAdd] at h
  split at h
  · next total htotal =>
      cases h
      exact Uint256.maybeCheckedAdd_eq_some_iff.mp htotal
  · cases h

theorem VerifiedProgress.exists_checkedAdd {progress : VerifiedProgress} {work : CreditedWork}
    (hfits : progress.value.toNat + work.value.toNat < 2 ^ 256) :
    ∃ sum, progress.checkedAdd work = .ok sum := by
  obtain ⟨sum, hsum⟩ := Uint256.exists_toNat_eq _ hfits
  refine ⟨⟨sum⟩, ?_⟩
  rw [VerifiedProgress.checkedAdd, Uint256.maybeCheckedAdd_eq_some_iff.mpr hsum]

end WorkGate
