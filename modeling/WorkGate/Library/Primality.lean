/-
# Certified primes

Lucas' test shows that a number is prime by an element whose order is the number's predecessor,
once the primes of the predecessor are known.  A table of numbers in which those primes come
first is checked by evaluation.
-/

import Mathlib.Data.Nat.Prime.Basic
import Mathlib.Algebra.BigOperators.Group.List.Lemmas
import Mathlib.NumberTheory.LucasPrimality

namespace WorkGate.Library.Primality

/-! ## Powers -/

/-- Square and multiply, a bit of the exponent at a time. -/
def powerFrom (modulus : ℕ) : ℕ → ℕ → ℕ → ℕ → ℕ
  | 0, result, _, _ => result
  | fuel + 1, result, factor, remaining =>
      bif remaining == 0 then result
      else powerFrom modulus fuel
        (bif remaining % 2 == 1 then result * factor % modulus else result)
        (factor * factor % modulus) (remaining / 2)

theorem powerFrom_lt {modulus result : ℕ} (h : result < modulus) (fuel factor remaining : ℕ) :
    powerFrom modulus fuel result factor remaining < modulus := by
  induction fuel generalizing result factor remaining with
  | zero => exact h
  | succ fuel ih =>
      have hpositive : 0 < modulus := Nat.zero_lt_of_lt h
      rw [powerFrom]
      cases remaining == 0
      · apply ih
        cases remaining % 2 == 1
        · exact h
        · exact Nat.mod_lt _ hpositive
      · exact h

/-- With a round for each bit the loop computes the power. -/
theorem cast_powerFrom {modulus fuel : ℕ} (result factor : ℕ) {remaining : ℕ}
    (h : remaining < 2 ^ fuel) :
    (powerFrom modulus fuel result factor remaining : ZMod modulus) =
      result * factor ^ remaining := by
  induction fuel generalizing result factor remaining with
  | zero =>
      have hzero : remaining = 0 := by simpa using h
      rw [hzero, powerFrom, pow_zero, mul_one]
  | succ fuel ih =>
      have hhalf : remaining / 2 < 2 ^ fuel := by
        rw [pow_succ] at h
        omega
      have hbits := Nat.div_add_mod remaining 2
      rw [powerFrom]
      by_cases hzero : remaining = 0
      · simp [hzero]
      have hnext := ih (bif remaining % 2 == 1 then result * factor % modulus else result)
        (factor * factor % modulus) hhalf
      rw [beq_false_of_ne hzero, cond_false, hnext, ZMod.natCast_mod, Nat.cast_mul, ← sq, ← pow_mul]
      rcases Nat.mod_two_eq_zero_or_one remaining with heven | hodd
      · rw [heven, Nat.add_zero] at hbits
        rw [heven, hbits]
        rfl
      · rw [hodd] at hbits
        rw [hodd, beq_self_eq_true, cond_true, ZMod.natCast_mod, Nat.cast_mul, mul_assoc,
          ← pow_succ', hbits]

/-- The power of a number, reduced. -/
def power (modulus base exponent : ℕ) : ℕ :=
  powerFrom modulus (exponent.log2 + 1) 1 base exponent

theorem cast_power (modulus base exponent : ℕ) :
    (power modulus base exponent : ZMod modulus) = base ^ exponent := by
  rw [power, cast_powerFrom _ _ Nat.lt_log2_self, Nat.cast_one, one_mul]

/-- A power is one exactly when it reduces to one. -/
theorem power_eq_one_iff {modulus : ℕ} (h : 1 < modulus) (base exponent : ℕ) :
    power modulus base exponent = 1 ↔ (base : ZMod modulus) ^ exponent = 1 := by
  have hlt : power modulus base exponent < modulus := powerFrom_lt h _ _ _
  have hcast := ZMod.natCast_eq_natCast_iff' (power modulus base exponent) 1 modulus
  rw [cast_power, Nat.cast_one, Nat.mod_eq_of_lt hlt, Nat.mod_eq_of_lt h] at hcast
  exact hcast.symm

/-! ## Certificates -/

/-- A number, an element of the order of its predecessor, and the primes of its predecessor, each
as often as it divides. -/
structure Certificate where
  number : ℕ
  witness : ℕ
  factors : List ℕ

/-- Lucas' test, with the numbers known to be prime. -/
def Certificate.passes (known : List ℕ) (certificate : Certificate) : Bool :=
  decide (1 < certificate.number) &&
    certificate.factors.prod == certificate.number - 1 &&
    certificate.factors.all (fun factor => known.contains factor &&
      power certificate.number certificate.witness ((certificate.number - 1) / factor) != 1) &&
    power certificate.number certificate.witness (certificate.number - 1) == 1

theorem Certificate.prime {known : List ℕ} {certificate : Certificate}
    (hknown : ∀ number ∈ known, number.Prime) (h : certificate.passes known = true) :
    certificate.number.Prime := by
  simp only [passes, Bool.and_eq_true, decide_eq_true_eq, beq_iff_eq, List.all_eq_true,
    List.contains_iff_mem, bne_iff_ne] at h
  obtain ⟨⟨⟨hone, hproduct⟩, hfactors⟩, horder⟩ := h
  apply lucas_primality certificate.number certificate.witness
  · exact (power_eq_one_iff hone _ _).mp horder
  · intro divisor hdivisor hdivides
    rw [← hproduct] at hdivides
    obtain ⟨factor, hfactor, hdivides⟩ :=
      (Nat.prime_iff.mp hdivisor).dvd_prod_iff.mp hdivides
    obtain ⟨hmem, hnontrivial⟩ := hfactors factor hfactor
    rw [(Nat.prime_dvd_prime_iff_eq hdivisor (hknown factor hmem)).mp hdivides]
    exact mt (power_eq_one_iff hone _ _).mpr hnontrivial

/-- Whether all certificates of a table pass, each with the numbers above it. -/
def allPass : List ℕ → List Certificate → Bool
  | _, [] => true
  | known, certificate :: rest =>
      certificate.passes known && allPass (certificate.number :: known) rest

/-- The numbers of a table that passes are prime. -/
theorem prime_of_allPass {known : List ℕ} {table : List Certificate}
    (hknown : ∀ number ∈ known, number.Prime) (h : allPass known table = true) :
    ∀ certificate ∈ table, certificate.number.Prime := by
  induction table generalizing known with
  | nil => exact nofun
  | cons certificate table ih =>
      rw [allPass, Bool.and_eq_true] at h
      have hprime := certificate.prime hknown h.1
      have hrest := ih (List.forall_mem_cons.mpr ⟨hprime, hknown⟩) h.2
      exact List.forall_mem_cons.mpr ⟨hprime, hrest⟩

end WorkGate.Library.Primality
