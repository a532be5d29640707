/-
# Numbers as strings of bits

Packed formats write numbers as bits, the most significant first, and cut the bits again at
other places.  A loop that does so holds some bits back in an accumulator; what it holds is
the string of the accumulator's low bits.
-/

import Mathlib.Data.List.Basic
import Mathlib.Data.Nat.Bitwise
import Mathlib.Tactic.Common

namespace WorkGate.Library.Bits

/-- The low bits of a number, the most significant first. -/
def low : ℕ → ℕ → List Bool
  | 0, _ => []
  | width + 1, number => number.testBit width :: low width number

@[simp]
theorem length_low (width number : ℕ) : (low width number).length = width := by
  induction width with
  | zero => rfl
  | succ width ih => rw [low, List.length_cons, ih]

/-- The upper part of the low bits are the low bits of the number shifted down. -/
theorem low_add (upper width number : ℕ) :
    low (upper + width) number = low upper (number >>> width) ++ low width number := by
  induction upper with
  | zero => rw [Nat.zero_add, low, List.nil_append]
  | succ upper ih =>
      rw [Nat.add_right_comm, low, low, List.cons_append, ih, Nat.testBit_shiftRight,
        Nat.add_comm width]

/-- Only the bits below the width count. -/
theorem low_congr {width first second : ℕ}
    (h : ∀ index < width, first.testBit index = second.testBit index) :
    low width first = low width second := by
  induction width with
  | zero => rfl
  | succ width ih =>
      rw [low, low, h width (Nat.lt_succ_self width),
        ih fun index hindex => h index (Nat.lt_succ_of_lt hindex)]

/-- Numbers that fit the width are told apart by their bits. -/
theorem eq_of_low_eq {width first second : ℕ} (hfirst : first < 2 ^ width)
    (hsecond : second < 2 ^ width) (h : low width first = low width second) :
    first = second := by
  have hbits : ∀ index < width, first.testBit index = second.testBit index := by
    clear hfirst hsecond
    induction width with
    | zero =>
        intro index hindex
        exact absurd hindex (Nat.not_lt_zero _)
    | succ width ih =>
        rw [low, low, List.cons.injEq] at h
        intro index hindex
        rcases Nat.lt_succ_iff_lt_or_eq.mp hindex with hlt | rfl
        · exact ih h.2 index hlt
        · exact h.1
  apply Nat.eq_of_testBit_eq
  intro index
  by_cases hindex : index < width
  · exact hbits index hindex
  · have hlarge : 2 ^ width ≤ 2 ^ index :=
      Nat.pow_le_pow_right (by decide) (Nat.le_of_not_lt hindex)
    rw [Nat.testBit_lt_two_pow (hfirst.trans_le hlarge),
      Nat.testBit_lt_two_pow (hsecond.trans_le hlarge)]

/-- Taking a number that fits the width into a multiple of its power adds it. -/
theorem xor_eq_add {width number : ℕ} (h : number < 2 ^ width) (upper : ℕ) :
    (2 ^ width * upper) ^^^ number = 2 ^ width * upper + number := by
  apply Nat.eq_of_testBit_eq
  intro index
  rw [Nat.testBit_xor, Nat.testBit_two_pow_mul, Nat.testBit_two_pow_mul_add _ h]
  by_cases hindex : index < width
  · rw [if_pos hindex, decide_eq_false (by omega), Bool.false_and, Bool.false_xor]
  · have hlarge : number < 2 ^ index :=
      h.trans_le (Nat.pow_le_pow_right (by decide) (Nat.le_of_not_lt hindex))
    rw [if_neg hindex, decide_eq_true (Nat.le_of_not_lt hindex), Bool.true_and,
      Nat.testBit_lt_two_pow hlarge, Bool.xor_false]

/-- Appending a number below the low bits of another. -/
theorem low_append {upper width first second number : ℕ} (hsecond : second < 2 ^ width)
    (hnumber : ∀ index < upper + width, number.testBit index =
      (2 ^ width * first + second).testBit index) :
    low (upper + width) number = low upper first ++ low width second := by
  rw [low_congr hnumber, low_add]
  congr 1
  · apply low_congr
    intro index hindex
    rw [Nat.testBit_shiftRight, Nat.testBit_two_pow_mul_add _ hsecond, if_neg (by omega),
      Nat.add_sub_cancel_left]
  · apply low_congr
    intro index hindex
    rw [Nat.testBit_two_pow_mul_add _ hsecond, if_pos hindex]

/-- The low bits are all clear exactly when the number is a multiple of the power. -/
theorem forall_low_eq_false_iff (width number : ℕ) :
    (∀ bit ∈ low width number, bit = false) ↔ number % 2 ^ width = 0 := by
  have hbits : (∀ bit ∈ low width number, bit = false) ↔
      ∀ index < width, number.testBit index = false := by
    induction width with
    | zero => simp [low]
    | succ width ih =>
        rw [low, List.forall_mem_cons, ih]
        constructor
        · rintro ⟨htop, hrest⟩ index hindex
          rcases Nat.lt_succ_iff_lt_or_eq.mp hindex with hlt | rfl
          · exact hrest index hlt
          · exact htop
        · intro h
          exact ⟨h width (Nat.lt_succ_self width),
            fun index hindex => h index (Nat.lt_succ_of_lt hindex)⟩
  rw [hbits]
  constructor
  · intro h
    apply Nat.eq_of_testBit_eq
    intro index
    rw [Nat.testBit_mod_two_pow, Nat.zero_testBit]
    by_cases hindex : index < width
    · rw [h index hindex, Bool.and_false]
    · rw [decide_eq_false hindex, Bool.false_and]
  · intro h index hindex
    have hbit := congrArg (fun value => value.testBit index) h
    simpa [Nat.testBit_mod_two_pow, hindex] using hbit

end WorkGate.Library.Bits
