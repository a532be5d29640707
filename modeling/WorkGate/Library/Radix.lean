/-
# One number in two radixes

Digits stand with the leading one first, and zeros in front of a number count: written in another
radix, there are as many of them.  So no two lists of digits are written alike.
-/

import Mathlib.Data.Nat.Digits.Lemmas

namespace WorkGate.Library.Radix

/-- The number some digits spell. -/
def value (radix : ℕ) (digits : List ℕ) : ℕ := Nat.ofDigits radix digits.reverse

def leadingZeros (digits : List ℕ) : ℕ := (digits.takeWhile (· == 0)).length

/-- Digits in one radix, in another. -/
def convert (source target : ℕ) (digits : List ℕ) : List ℕ :=
  List.replicate (leadingZeros digits) 0 ++ (Nat.digits target (value source digits)).reverse

theorem value_append (radix : ℕ) (digits : List ℕ) (digit : ℕ) :
    value radix (digits ++ [digit]) = value radix digits * radix + digit := by
  rw [value, value, List.reverse_append, List.reverse_singleton, List.singleton_append,
    Nat.ofDigits_cons, Nat.mul_comm, Nat.add_comm]

/-- A number is read digit by digit. -/
theorem value_eq_foldl (radix : ℕ) (digits : List ℕ) :
    value radix digits = digits.foldl (fun number digit => number * radix + digit) 0 := by
  induction digits using List.reverseRecOn with
  | nil => rfl
  | append_singleton digits digit ih => rw [value_append, ih, List.foldl_append]; rfl

theorem leadingZeros_append (count : ℕ) (digits : List ℕ) :
    leadingZeros (List.replicate count 0 ++ digits) = count + leadingZeros digits := by
  induction count with
  | zero => rw [List.replicate_zero, List.nil_append, Nat.zero_add]
  | succ count ih =>
      have hnext : leadingZeros (0 :: (List.replicate count 0 ++ digits)) =
          leadingZeros (List.replicate count 0 ++ digits) + 1 := by
        rw [leadingZeros, List.takeWhile_cons_of_pos rfl, List.length_cons]
        rfl
      rw [List.replicate_succ, List.cons_append, hnext, ih]
      omega

/-- The digits of a number have no zero in front. -/
theorem leadingZeros_reverse_digits (target number : ℕ) :
    leadingZeros (Nat.digits target number).reverse = 0 := by
  by_cases hzero : number = 0
  · rw [hzero, Nat.digits_zero]
    rfl
  · have hlast := Nat.getLast_digit_ne_zero target hzero
    have hsome : Nat.digits target number ≠ [] := Nat.digits_ne_nil_iff_ne_zero.mpr hzero
    have hsplit := List.dropLast_concat_getLast hsome
    rw [← hsplit, List.reverse_append, List.reverse_singleton, List.singleton_append, leadingZeros,
      List.takeWhile_cons_of_neg (by simpa using hlast)]
    rfl

section Converting

variable {source target : ℕ}

theorem value_convert (digits : List ℕ) :
    value target (convert source target digits) = value source digits := by
  rw [value, convert, List.reverse_append, List.reverse_reverse, List.reverse_replicate,
    Nat.ofDigits_append_replicate_zero, Nat.ofDigits_digits]

theorem leadingZeros_convert (digits : List ℕ) :
    leadingZeros (convert source target digits) = leadingZeros digits := by
  rw [convert, leadingZeros_append, leadingZeros_reverse_digits, Nat.add_zero]

theorem lt_of_mem_convert (htarget : 1 < target) {digits : List ℕ} {digit : ℕ}
    (hmem : digit ∈ convert source target digits) : digit < target := by
  rw [convert, List.mem_append, List.mem_reverse] at hmem
  cases hmem with
  | inl hzero =>
      rw [List.eq_of_mem_replicate hzero]
      exact Nat.zero_lt_of_lt htarget
  | inr hdigit => exact Nat.digits_lt_base htarget hdigit

/-- In its own radix a number keeps its digits. -/
theorem convert_self (hsource : 1 < source) {digits : List ℕ}
    (hdigits : ∀ digit ∈ digits, digit < source) : convert source source digits = digits := by
  induction digits with
  | nil => rw [convert, value, List.reverse_nil, Nat.ofDigits_nil, Nat.digits_zero]; rfl
  | cons digit digits ih =>
      by_cases hzero : digit = 0
      · have hrest := ih fun other hmem => hdigits other (List.mem_cons_of_mem _ hmem)
        have hvalue : value source (0 :: digits) = value source digits := by
          rw [value, List.reverse_cons, Nat.ofDigits_append, Nat.ofDigits_singleton,
            Nat.mul_zero, Nat.add_zero, value]
        have hzeros : leadingZeros (0 :: digits) = leadingZeros digits + 1 := by
          rw [leadingZeros, List.takeWhile_cons_of_pos rfl, List.length_cons]
          rfl
        rw [hzero, convert, hvalue, hzeros, List.replicate_succ, List.cons_append]
        exact congrArg (0 :: ·) hrest
      · have hzeros : leadingZeros (digit :: digits) = 0 := by
          rw [leadingZeros, List.takeWhile_cons_of_neg (by simpa using hzero)]
          rfl
        have hread : Nat.digits source (value source (digit :: digits)) =
            (digit :: digits).reverse := by
          apply Nat.digits_ofDigits source hsource
          · intro other hmem
            exact hdigits other (List.mem_reverse.mp hmem)
          · intro hsome
            rw [List.getLast_reverse]
            exact hzero
        rw [convert, hzeros, hread, List.reverse_reverse]
        rfl

/-- Nothing is lost on the way to another radix. -/
theorem convert_convert (hsource : 1 < source) {digits : List ℕ}
    (hdigits : ∀ digit ∈ digits, digit < source) :
    convert target source (convert source target digits) = digits := by
  have hback : convert target source (convert source target digits) =
      convert source source digits := by
    rw [convert, leadingZeros_convert, value_convert]
    rfl
  rw [hback, convert_self hsource hdigits]

end Converting

end WorkGate.Library.Radix
