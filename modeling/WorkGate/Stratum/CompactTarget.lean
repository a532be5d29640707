/-
# Compact targets (src/stratum_v1/target.rs)

A job's `nBits` are an exponent and a mantissa.  Here `compact_target` is written with every index,
slice, subtraction and shift checked, each of which would panic; none of them does, and the target
is the mantissa moved by the exponent, cut below one.
-/

import Mathlib.Data.Rat.Floor
import WorkGate.Library.Results
import WorkGate.Stratum.HexText

namespace WorkGate

open WorkGate.Library

/-! ## Checked operations -/

/-- `value >> amount` of a `u32`. -/
def shiftRight (value : UInt32) (amount : ℕ) : Except StratumFault UInt32 :=
  if amount < 32 then .ok (value >>> UInt32.ofNat amount) else .error .panic

/-- `left - right` of sizes. -/
def subtractSize (left right : ℕ) : Except StratumFault ℕ :=
  if right ≤ left then .ok (left - right) else .error .panic

namespace Bytes

variable {size : ℕ}

/-- `[0; size]`. -/
def zero (size : ℕ) : Bytes size := ⟨List.replicate size 0, List.length_replicate⟩

/-- `target[index] = byte`. -/
def store (target : Bytes size) (index : ℕ) (byte : UInt8) : Except StratumFault (Bytes size) :=
  if index < size then
    .ok ⟨target.data.set index byte, by rw [List.length_set, target.length_data]⟩
  else .error .panic

/-- `target[start..].copy_from_slice(source)`. -/
def copyFromSlice (target : Bytes size) (start : ℕ) (source : List UInt8) :
    Except StratumFault (Bytes size) :=
  if hfits : start ≤ size ∧ source.length = size - start then
    .ok ⟨target.data.take start ++ source, by
      rw [List.length_append, List.length_take, target.length_data, hfits.2]
      omega⟩
  else .error .panic

end Bytes

/-- `to_be_bytes`. -/
def toBigEndian (value : UInt32) : List UInt8 :=
  [(value >>> 24).toUInt8, (value >>> 16).toUInt8, (value >>> 8).toUInt8, value.toUInt8]

/-- `compact_target` from the 32-bit number on. -/
def compactTargetOfBits (compact : UInt32) : Except StratumFault (Bytes 32) := do
  let exponent := (← shiftRight compact 24).toNat
  let mantissa := compact &&& 0x007fffff
  if compact &&& 0x00800000 ≠ 0 ∨ mantissa = 0 ∨ exponent > 32 then .error (.error .invalidFrame)
  else
    let target := Bytes.zero 32
    if exponent ≤ 3 then
      let value ← shiftRight mantissa (8 * (← subtractSize 3 exponent))
      target.copyFromSlice 28 (toBigEndian value)
    else
      let start ← subtractSize 32 exponent
      let target ← target.store start (← shiftRight mantissa 16).toUInt8
      let target ← target.store (start + 1) (← shiftRight mantissa 8).toUInt8
      target.store (start + 2) mantissa.toUInt8

/-- The exponent of compact bits. -/
def compactExponent (compact : UInt32) : ℕ := compact.toNat / 2 ^ 24

/-- The mantissa of compact bits. -/
def compactMantissa (compact : UInt32) : ℕ := compact.toNat % 2 ^ 23

/-- The bits `compact_target` takes. -/
def AcceptsCompact (compact : UInt32) : Prop :=
  compact.toNat / 2 ^ 23 % 2 = 0 ∧ compactMantissa compact ≠ 0 ∧ compactExponent compact ≤ 32

/-! ## Bits and bytes -/

theorem toNat_shiftRight {value shifted : UInt32} {amount : ℕ}
    (h : shiftRight value amount = .ok shifted) : shifted.toNat = value.toNat / 2 ^ amount := by
  rw [shiftRight] at h
  split at h
  · next hamount =>
      cases h
      rw [UInt32.toNat_shiftRight, UInt32.toNat_ofNat', Nat.shiftRight_eq_div_pow]
      congr 2
      omega
  · cases h

theorem shiftRight_eq_ok {value : UInt32} {amount : ℕ} (h : amount < 32) :
    ∃ shifted, shiftRight value amount = .ok shifted ∧ shifted.toNat = value.toNat / 2 ^ amount := by
  have hok : shiftRight value amount = .ok (value >>> UInt32.ofNat amount) := if_pos h
  exact ⟨_, hok, toNat_shiftRight hok⟩

theorem toNat_mantissa (compact : UInt32) :
    (compact &&& 0x007fffff).toNat = compactMantissa compact := by
  rw [UInt32.toNat_and]
  exact Nat.and_two_pow_sub_one_eq_mod compact.toNat 23

theorem mantissa_eq_zero_iff {compact : UInt32} :
    compact &&& 0x007fffff = 0 ↔ compactMantissa compact = 0 := by
  rw [← UInt32.toNat_inj, toNat_mantissa]
  rfl

/-- A single bit is masked out exactly where it is zero. -/
theorem and_two_pow_eq_zero_iff (number position : ℕ) :
    number &&& 2 ^ position = 0 ↔ number / 2 ^ position % 2 = 0 := by
  have hbit : number.testBit position = false ↔ number / 2 ^ position % 2 = 0 := by
    rw [Nat.testBit_eq_decide_div_mod_eq, decide_eq_false_iff_not]
    omega
  rw [← hbit]
  constructor
  · intro h
    have hmasked := Nat.testBit_and number (2 ^ position) position
    rw [h, Nat.zero_testBit, Nat.testBit_two_pow_self, Bool.and_true] at hmasked
    exact hmasked.symm
  · intro h
    apply Nat.eq_of_testBit_eq
    intro index
    rw [Nat.testBit_and, Nat.zero_testBit, Nat.testBit_two_pow]
    by_cases hindex : position = index
    · rw [← hindex, h, Bool.false_and]
    · rw [decide_eq_false hindex, Bool.and_false]

theorem sign_eq_zero_iff {compact : UInt32} :
    compact &&& 0x00800000 = 0 ↔ compact.toNat / 2 ^ 23 % 2 = 0 := by
  rw [← UInt32.toNat_inj, UInt32.toNat_and]
  exact and_two_pow_eq_zero_iff compact.toNat 23

theorem toUInt8_eq {value : UInt32} {number : ℕ} (h : value.toNat = number) :
    value.toUInt8 = UInt8.ofNat number := by
  rw [← h]
  rfl

theorem toBigEndian_eq (value : UInt32) :
    toBigEndian value = [UInt8.ofNat (value.toNat / 2 ^ 24), UInt8.ofNat (value.toNat / 2 ^ 16),
      UInt8.ofNat (value.toNat / 2 ^ 8), UInt8.ofNat value.toNat] := by
  have hfirst : (value >>> 24).toNat = value.toNat / 2 ^ 24 := toNat_shiftRight rfl
  have hsecond : (value >>> 16).toNat = value.toNat / 2 ^ 16 := toNat_shiftRight rfl
  have hthird : (value >>> 8).toNat = value.toNat / 2 ^ 8 := toNat_shiftRight rfl
  rw [toBigEndian, toUInt8_eq hfirst, toUInt8_eq hsecond, toUInt8_eq hthird, toUInt8_eq rfl]

/-! ## The array -/

/-- A byte stored between others takes the place of one. -/
theorem store_eq_ok {target : Bytes 32} {before after : List UInt8} {old : UInt8}
    (hdata : target.data = before ++ old :: after) (byte : UInt8) :
    ∃ stored, target.store before.length byte = .ok stored ∧
      stored.data = before ++ byte :: after := by
  have hindex : before.length < 32 := by
    rw [← target.length_data, hdata, List.length_append, List.length_cons]
    omega
  refine ⟨_, if_pos hindex, ?_⟩
  have hset : target.data.set before.length byte = before ++ byte :: after := by
    rw [hdata, List.set_append_right _ _ (Nat.le_refl _), Nat.sub_self, List.set_cons_zero]
  exact hset

/-- Bits that are not taken are refused before anything is written. -/
theorem compactTargetOfBits_eq_error {compact : UInt32} (h : ¬ AcceptsCompact compact) :
    compactTargetOfBits compact = .error (.error .invalidFrame) := by
  obtain ⟨shifted, hshifted, hexponent⟩ : ∃ shifted, shiftRight compact 24 = .ok shifted ∧
      shifted.toNat = compactExponent compact := shiftRight_eq_ok (by decide)
  rw [compactTargetOfBits, hshifted, ok_bind]
  refine if_pos ?_
  rw [hexponent, ne_eq, sign_eq_zero_iff, mantissa_eq_zero_iff]
  by_contra hnone
  push Not at hnone
  exact h hnone

/-- The checks that bits which are taken pass. -/
theorem AcceptsCompact.checks {compact : UInt32} (h : AcceptsCompact compact) {exponent : ℕ}
    (hexponent : exponent = compactExponent compact) :
    ¬ (compact &&& 0x00800000 ≠ 0 ∨ compact &&& 0x007fffff = 0 ∨ exponent > 32) := by
  obtain ⟨hsign, hmantissa, hbound⟩ := h
  rw [hexponent, ne_eq, sign_eq_zero_iff, mantissa_eq_zero_iff]
  push Not
  exact ⟨hsign, hmantissa, hbound⟩

theorem copyFromSlice_eq_ok {target : Bytes 32} {start : ℕ} {source : List UInt8}
    (hstart : start ≤ 32) (hsource : source.length = 32 - start) :
    ∃ copied, target.copyFromSlice start source = .ok copied ∧
      copied.data = target.data.take start ++ source :=
  ⟨_, dif_pos ⟨hstart, hsource⟩, rfl⟩

/-- A small exponent shifts the mantissa down and writes the last four bytes. -/
theorem compactTargetOfBits_small {compact : UInt32} (h : AcceptsCompact compact)
    (hsmall : compactExponent compact ≤ 3) {value : ℕ}
    (hvalue : value = compactMantissa compact / 2 ^ (8 * (3 - compactExponent compact))) :
    ∃ target, compactTargetOfBits compact = .ok target ∧ target.data = List.replicate 28 0 ++
      [UInt8.ofNat (value / 2 ^ 24), UInt8.ofNat (value / 2 ^ 16), UInt8.ofNat (value / 2 ^ 8),
        UInt8.ofNat value] := by
  obtain ⟨shifted, hshifted, hexponent⟩ : ∃ shifted, shiftRight compact 24 = .ok shifted ∧
      shifted.toNat = compactExponent compact := shiftRight_eq_ok (by decide)
  have hsubtract : subtractSize 3 (compactExponent compact) =
      .ok (3 - compactExponent compact) := if_pos hsmall
  have hamount : 8 * (3 - compactExponent compact) < 32 := by omega
  obtain ⟨moved, hmoved, hmovedValue⟩ : ∃ moved, shiftRight (compact &&& 0x007fffff)
      (8 * (3 - compactExponent compact)) = .ok moved ∧ moved.toNat = value := by
    rw [hvalue, ← toNat_mantissa]
    exact shiftRight_eq_ok hamount
  have hfour : (toBigEndian moved).length = 32 - 28 := rfl
  obtain ⟨target, htarget, hdata⟩ : ∃ target,
      (Bytes.zero 32).copyFromSlice 28 (toBigEndian moved) = .ok target ∧
        target.data = (Bytes.zero 32).data.take 28 ++ toBigEndian moved :=
    copyFromSlice_eq_ok (by decide) hfour
  refine ⟨target, ?_, ?_⟩
  · rw [compactTargetOfBits, hshifted, ok_bind]
    dsimp only
    rw [if_neg (h.checks hexponent), hexponent, if_pos hsmall, hsubtract, ok_bind, hmoved, ok_bind,
      htarget]
  · rw [hdata, toBigEndian_eq, hmovedValue]
    rfl

/-- A greater exponent writes the three bytes of the mantissa where it says. -/
theorem compactTargetOfBits_large {compact : UInt32} (h : AcceptsCompact compact)
    (hlarge : ¬ compactExponent compact ≤ 3) :
    ∃ target, compactTargetOfBits compact = .ok target ∧ target.data =
      List.replicate (32 - compactExponent compact) 0 ++
        [UInt8.ofNat (compactMantissa compact / 2 ^ 16),
          UInt8.ofNat (compactMantissa compact / 2 ^ 8), UInt8.ofNat (compactMantissa compact)] ++
        List.replicate (compactExponent compact - 3) 0 := by
  obtain ⟨shifted, hshifted, hexponent⟩ : ∃ shifted, shiftRight compact 24 = .ok shifted ∧
      shifted.toNat = compactExponent compact := shiftRight_eq_ok (by decide)
  have hbound := h.2.2
  have hsubtract : subtractSize 32 (compactExponent compact) =
      .ok (32 - compactExponent compact) := if_pos hbound
  obtain ⟨high, hhigh, hhighValue⟩ : ∃ high, shiftRight (compact &&& 0x007fffff) 16 = .ok high ∧
      high.toNat = compactMantissa compact / 2 ^ 16 := by
    rw [← toNat_mantissa]
    exact shiftRight_eq_ok (by decide)
  obtain ⟨middle, hmiddle, hmiddleValue⟩ : ∃ middle, shiftRight (compact &&& 0x007fffff) 8 =
      .ok middle ∧ middle.toNat = compactMantissa compact / 2 ^ 8 := by
    rw [← toNat_mantissa]
    exact shiftRight_eq_ok (by decide)
  -- The three stores meet the array at the same place, one byte further each time.
  generalize hbefore : List.replicate (32 - compactExponent compact) (0 : UInt8) = before
  generalize hafter : List.replicate (compactExponent compact - 3) (0 : UInt8) = after
  have hstart : before.length = 32 - compactExponent compact := by
    rw [← hbefore, List.length_replicate]
  have hzero : (Bytes.zero 32).data = before ++ 0 :: (0 :: 0 :: after) := by
    have hthree : (0 : UInt8) :: 0 :: 0 :: after = List.replicate (compactExponent compact) 0 := by
      have hsplit : compactExponent compact = compactExponent compact - 3 + 3 := by omega
      rw [hsplit, List.replicate_succ, List.replicate_succ, List.replicate_succ, hafter]
    have hall : 32 - compactExponent compact + compactExponent compact = 32 := by omega
    rw [hthree, ← hbefore, List.replicate_append_replicate, hall]
    rfl
  obtain ⟨first, hfirst, hfirstData⟩ := store_eq_ok hzero high.toUInt8
  have hnext : first.data = (before ++ [high.toUInt8]) ++ 0 :: (0 :: after) := by
    rw [hfirstData, List.append_assoc, List.singleton_append]
  obtain ⟨second, hsecond, hsecondData⟩ := store_eq_ok hnext middle.toUInt8
  have hlast : second.data = (before ++ [high.toUInt8] ++ [middle.toUInt8]) ++ 0 :: after := by
    rw [hsecondData, List.append_assoc _ [middle.toUInt8], List.singleton_append]
  obtain ⟨third, hthird, hthirdData⟩ := store_eq_ok hlast (compact &&& 0x007fffff).toUInt8
  rw [List.length_append, List.length_singleton, hstart] at hsecond
  rw [List.length_append, List.length_append, List.length_singleton, List.length_singleton,
    hstart] at hthird
  rw [hstart] at hfirst
  refine ⟨third, ?_, ?_⟩
  · rw [compactTargetOfBits, hshifted, ok_bind]
    dsimp only
    rw [if_neg (h.checks hexponent), hexponent, if_neg hlarge, hsubtract, ok_bind, hhigh, ok_bind,
      hfirst, ok_bind, hmiddle, ok_bind, hsecond, ok_bind]
    exact hthird
  · rw [hthirdData, toUInt8_eq hhighValue, toUInt8_eq hmiddleValue, toUInt8_eq (toNat_mantissa _)]
    simp

/-! ## The number written -/

theorem bigEndian_replicate_zero (count : ℕ) : Limbs.bigEndian (List.replicate count 0) = 0 := by
  induction count with
  | zero => rfl
  | succ count ih =>
      rw [List.replicate_succ, Limbs.bigEndian_cons, ih]
      rfl

theorem bigEndian_four {value : ℕ} (h : value < 2 ^ 32) :
    Limbs.bigEndian [UInt8.ofNat (value / 2 ^ 24), UInt8.ofNat (value / 2 ^ 16),
      UInt8.ofNat (value / 2 ^ 8), UInt8.ofNat value] = value := by
  simp only [Limbs.bigEndian_cons, Limbs.bigEndian_nil, List.length_cons, List.length_nil,
    UInt8.toNat_ofNat']
  omega

theorem bigEndian_three {value : ℕ} (h : value < 2 ^ 24) :
    Limbs.bigEndian [UInt8.ofNat (value / 2 ^ 16), UInt8.ofNat (value / 2 ^ 8),
      UInt8.ofNat value] = value := by
  simp only [Limbs.bigEndian_cons, Limbs.bigEndian_nil, List.length_cons, List.length_nil,
    UInt8.toNat_ofNat']
  omega

theorem compactMantissa_lt (compact : UInt32) : compactMantissa compact < 2 ^ 23 :=
  Nat.mod_lt _ (by decide)

/-- Bits that are taken write the mantissa moved by the exponent. -/
theorem toNat_of_compactTargetOfBits {compact : UInt32} {target : Bytes 32}
    (h : compactTargetOfBits compact = .ok target) :
    target.toNat = if compactExponent compact ≤ 3 then
        compactMantissa compact / 256 ^ (3 - compactExponent compact)
      else compactMantissa compact * 256 ^ (compactExponent compact - 3) := by
  have hmantissa := compactMantissa_lt compact
  by_cases haccepts : AcceptsCompact compact
  · by_cases hsmall : compactExponent compact ≤ 3
    · obtain ⟨written, hwritten, hdata⟩ := compactTargetOfBits_small haccepts hsmall rfl
      rw [h] at hwritten
      cases hwritten
      have hvalue := Nat.div_le_self (compactMantissa compact)
        (2 ^ (8 * (3 - compactExponent compact)))
      rw [if_pos hsmall, Bytes.toNat, hdata, Limbs.bigEndian_append, bigEndian_replicate_zero,
        Nat.mul_zero, Nat.zero_add, bigEndian_four (by omega), Nat.pow_mul]
    · obtain ⟨written, hwritten, hdata⟩ := compactTargetOfBits_large haccepts hsmall
      rw [h] at hwritten
      cases hwritten
      rw [if_neg hsmall, Bytes.toNat, hdata, Limbs.bigEndian_append, Limbs.bigEndian_append,
        bigEndian_replicate_zero, bigEndian_replicate_zero, bigEndian_three (by omega),
        List.length_replicate]
      ring
  · rw [compactTargetOfBits_eq_error haccepts] at h
    cases h

/-- Moving by a power of 256 and cutting below one, in one formula. -/
theorem floor_mul_zpow (mantissa exponent : ℕ) :
    ⌊(mantissa : ℚ) * 256 ^ ((exponent : ℤ) - 3)⌋ =
      ((if exponent ≤ 3 then mantissa / 256 ^ (3 - exponent)
        else mantissa * 256 ^ (exponent - 3) : ℕ) : ℤ) := by
  by_cases hsmall : exponent ≤ 3
  · have hexponent : (exponent : ℤ) - 3 = -((3 - exponent : ℕ) : ℤ) := by omega
    rw [if_pos hsmall, hexponent, zpow_neg, zpow_natCast, ← div_eq_mul_inv]
    have hfloor := Rat.floor_natCast_div_natCast mantissa (256 ^ (3 - exponent))
    push_cast at hfloor ⊢
    exact hfloor
  · have hexponent : (exponent : ℤ) - 3 = ((exponent - 3 : ℕ) : ℤ) := by omega
    rw [if_neg hsmall, hexponent, zpow_natCast]
    have hfloor := Int.floor_natCast (R := ℚ) (mantissa * 256 ^ (exponent - 3))
    push_cast at hfloor ⊢
    exact hfloor

/-! ## `compact_target` -/

/-- The text's four bytes as a 32-bit number. -/
def bitsOfBytes (bytes : Bytes 4) : UInt32 := UInt32.ofNat bytes.toNat

theorem toNat_bitsOfBytes (bytes : Bytes 4) : (bitsOfBytes bytes).toNat = bytes.toNat := by
  rw [bitsOfBytes, UInt32.toNat_ofNat']
  apply Nat.mod_eq_of_lt
  have hlt := Limbs.bigEndian_lt bytes.data
  rw [bytes.length_data] at hlt
  exact hlt

theorem ofList_eq_ok {target : Bytes 32} {data : List UInt8} (h : target.data = data) :
    Bytes.ofList 32 .invalidFrame data = .ok target := by
  subst h
  exact dif_pos target.length_data

/-- The unchecked description of `compact_target` and the checked one agree. -/
theorem compactTarget_eq (networkBits : String) :
    compactTarget networkBits =
      (do compactTargetOfBits (bitsOfBytes (← decodeFixedHex 4 networkBits))) := by
  rw [compactTarget]
  cases hbytes : decodeFixedHex 4 networkBits with
  | error fault => rfl
  | ok bytes =>
      rw [ok_bind, ok_bind, ← toNat_bitsOfBytes]
      generalize bitsOfBytes bytes = compact
      dsimp only
      by_cases haccepts : AcceptsCompact compact
      · have hchecks : ¬ (compact.toNat / 2 ^ 23 % 2 ≠ 0 ∨ compact.toNat % 2 ^ 23 = 0 ∨
            compact.toNat / 2 ^ 24 > 32) := by
          obtain ⟨hsign, hmantissa, hbound⟩ := haccepts
          push Not
          exact ⟨hsign, hmantissa, hbound⟩
        rw [if_neg hchecks]
        by_cases hsmall : compact.toNat / 2 ^ 24 ≤ 3
        · obtain ⟨target, htarget, hdata⟩ := compactTargetOfBits_small haccepts hsmall rfl
          rw [if_pos hsmall, htarget]
          exact ofList_eq_ok hdata
        · obtain ⟨target, htarget, hdata⟩ := compactTargetOfBits_large haccepts hsmall
          rw [if_neg hsmall, htarget]
          exact ofList_eq_ok hdata
      · rw [compactTargetOfBits_eq_error haccepts]
        refine if_pos ?_
        by_contra hnone
        push Not at hnone
        exact haccepts hnone

theorem compactTargetOfBits_ne_panic (compact : UInt32) :
    compactTargetOfBits compact ≠ .error .panic := by
  intro h
  by_cases haccepts : AcceptsCompact compact
  · by_cases hsmall : compactExponent compact ≤ 3
    · obtain ⟨target, htarget, -⟩ := compactTargetOfBits_small haccepts hsmall rfl
      rw [htarget] at h
      cases h
    · obtain ⟨target, htarget, -⟩ := compactTargetOfBits_large haccepts hsmall
      rw [htarget] at h
      cases h
  · rw [compactTargetOfBits_eq_error haccepts] at h
    cases h

/-- A text panics only where cutting it into digits does. -/
theorem compactTarget_eq_panic {networkBits : String}
    (h : compactTarget networkBits = .error .panic) : CutsCharacter networkBits := by
  rw [compactTarget_eq, decodeFixedHex] at h
  apply decodeHex_eq_panic_iff.mp
  cases hdecoded : decodeHex networkBits with
  | error fault =>
      rw [hdecoded] at h
      cases h
      rfl
  | ok decoded =>
      rw [hdecoded, ok_bind, Bytes.ofList] at h
      split at h
      · exact absurd h (compactTargetOfBits_ne_panic _)
      · cases h

/-- No index of `compact_target` is out of range and no shift overflows, and what it takes becomes
the mantissa times a power of 256, cut below one. -/
theorem compactTarget_floor :
    (∀ compact : UInt32, compactTargetOfBits compact ≠ .error .panic ∧
      ∀ target, compactTargetOfBits compact = .ok target →
        (target.toNat : ℤ) =
          ⌊(compactMantissa compact : ℚ) * 256 ^ ((compactExponent compact : ℤ) - 3)⌋) ∧
    ∀ networkBits : String,
      compactTarget networkBits =
        (do compactTargetOfBits (bitsOfBytes (← decodeFixedHex 4 networkBits))) ∧
      (compactTarget networkBits = .error .panic → CutsCharacter networkBits) := by
  refine ⟨fun compact => ⟨compactTargetOfBits_ne_panic compact, ?_⟩, fun networkBits =>
    ⟨compactTarget_eq networkBits, compactTarget_eq_panic⟩⟩
  intro target h
  rw [floor_mul_zpow, toNat_of_compactTargetOfBits h]

/-- The mantissa `ffff` with the exponent `02` keeps its high byte only. -/
theorem compactTarget_floor_truncates : ∃ target : Bytes 32,
    compactTargetOfBits 0x0200ffff = .ok target ∧ target.toNat = 255 ∧
      (target.toNat : ℤ) =
        ⌊(compactMantissa 0x0200ffff : ℚ) * 256 ^ ((compactExponent 0x0200ffff : ℤ) - 3)⌋ := by
  have htarget : compactTargetOfBits 0x0200ffff =
      .ok ⟨List.replicate 31 0 ++ [255], by decide⟩ := by decide +kernel
  exact ⟨_, htarget, by decide +kernel, (compactTarget_floor.1 0x0200ffff).2 _ htarget⟩

end WorkGate
