/-
# Decimal numerals

`Nat.toDigits 10` prints a number and `Nat.ofDigitChars 10` reads digits.  A numeral is
canonical when it is what is printed for the number it reads as; for positive numbers
that is a rule on the text alone.
-/

import Mathlib.Data.List.Basic
import Mathlib.Data.List.Induction
import Mathlib.Data.Nat.Notation
import Mathlib.Tactic.Common

namespace WorkGate.Library.Decimal

/-- Digits, at least one, and no zero in front. -/
structure Canonical (digits : List Char) : Prop where
  nonempty : digits ≠ []
  no_leading_zero : digits.head? ≠ some '0'
  all_digits : ∀ digit ∈ digits, digit.isDigit = true

theorem toNat_of_isDigit {digit : Char} (h : digit.isDigit = true) :
    48 ≤ digit.toNat ∧ digit.toNat ≤ 57 := by
  simp only [Char.isDigit, Bool.and_eq_true, decide_eq_true_eq] at h
  exact ⟨h.1, h.2⟩

theorem digitChar_of_isDigit {digit : Char} (h : digit.isDigit = true) :
    (digit.toNat - 48).digitChar = digit := by
  obtain ⟨hlow, hhigh⟩ := toNat_of_isDigit h
  have hback : ∀ value ≤ 57, 48 ≤ value → (value - 48).digitChar = Char.ofNat value := by decide
  rw [hback _ hhigh hlow, Char.ofNat_toNat]

theorem ofDigitChars_append_singleton (digits : List Char) (digit : Char) :
    Nat.ofDigitChars 10 (digits ++ [digit]) 0 =
      10 * Nat.ofDigitChars 10 digits 0 + (digit.toNat - 48) := by
  rw [Nat.ofDigitChars_append, Nat.ofDigitChars_cons, Nat.ofDigitChars_nil]
  rfl

/-- A canonical numeral stands for a positive number. -/
theorem Canonical.ofDigitChars_pos {digits : List Char} (h : Canonical digits) :
    0 < Nat.ofDigitChars 10 digits 0 := by
  obtain ⟨hnonempty, hleading, hdigits⟩ := h
  cases digits with
  | nil => exact absurd rfl hnonempty
  | cons digit digits =>
      have hdigit := hdigits digit List.mem_cons_self
      have hne : digit ≠ '0' := by simpa using hleading
      have hbounds := toNat_of_isDigit hdigit
      have hzero : digit.toNat ≠ 48 := fun heq => hne (Char.toNat_inj.mp heq)
      have hnought : '0'.toNat = 48 := rfl
      rw [Nat.ofDigitChars_cons, Nat.ofDigitChars_eq_ofDigitChars_zero]
      apply Nat.add_pos_left
      apply Nat.mul_pos
      · exact Nat.pow_pos (by decide)
      · omega

/-- Printing the number a canonical numeral reads as gives the numeral back. -/
theorem Canonical.toDigits_ofDigitChars {digits : List Char} (h : Canonical digits) :
    Nat.toDigits 10 (Nat.ofDigitChars 10 digits 0) = digits := by
  induction digits using List.reverseRecOn with
  | nil => exact absurd rfl h.nonempty
  | append_singleton digits digit ih =>
      have hdigit : digit.isDigit = true := h.all_digits digit (by simp)
      have hbounds := toNat_of_isDigit hdigit
      rw [ofDigitChars_append_singleton]
      by_cases hempty : digits = []
      · subst hempty
        rw [Nat.ofDigitChars_nil, Nat.mul_zero, Nat.zero_add, Nat.toDigits_of_lt_base (by omega),
          digitChar_of_isDigit hdigit]
        rfl
      · -- The digits before the last are canonical, so they stand for a positive number.
        have hprefix : Canonical digits := by
          refine ⟨hempty, ?_, fun other hother => h.all_digits other (by simp [hother])⟩
          have hleading := h.no_leading_zero
          rwa [List.head?_append_of_ne_nil _ hempty] at hleading
        have hpositive := hprefix.ofDigitChars_pos
        rw [Nat.toDigits_of_base_le (by decide) (by omega), Nat.mul_add_div (by decide),
          Nat.div_eq_of_lt (by omega), Nat.add_zero, ih hprefix, Nat.mul_add_mod,
          Nat.mod_eq_of_lt (by omega), digitChar_of_isDigit hdigit]

/-- What is printed for a positive number is canonical. -/
theorem canonical_toDigits {value : ℕ} (hpositive : 0 < value) :
    Canonical (Nat.toDigits 10 value) := by
  induction value using Nat.strongRecOn with
  | ind value ih =>
      refine ⟨Nat.toDigits_ne_nil, ?_, fun digit hdigit =>
        Nat.isDigit_of_mem_toDigits (by decide) (by decide) hdigit⟩
      by_cases hlt : value < 10
      · have hsmall : ∀ value < 10, 0 < value → value.digitChar ≠ '0' := by decide
        rw [Nat.toDigits_of_lt_base hlt]
        simpa using hsmall value hlt hpositive
      · have hquotient := ih (value / 10) (by omega) (by omega)
        rw [Nat.toDigits_of_base_le (by decide) (by omega),
          List.head?_append_of_ne_nil _ hquotient.nonempty]
        exact hquotient.no_leading_zero

end WorkGate.Library.Decimal
