/-
# Numbers in decimal and exponent notation

The notation in which printers write integers and floating-point numbers: an optional sign,
digits, an optional fraction and an optional power of ten.  A numeral has an exact rational
value, whatever the number it was printed for was kept as.
-/

import Mathlib.Data.Rat.Defs
import Mathlib.Algebra.Field.Rat
import Mathlib.Tactic.Positivity
import WorkGate.Library.Decimal

namespace WorkGate.Library.Decimal

/-- The number that digits write. -/
def read (digits : List Char) : ℕ := Nat.ofDigitChars 10 digits 0

/-- Digits, at least one. -/
structure IsDigits (digits : List Char) : Prop where
  nonempty : digits ≠ []
  all_digits : ∀ digit ∈ digits, digit.isDigit = true

/-- Digits stay below the power of ten of their number. -/
theorem read_lt {digits : List Char} (h : ∀ digit ∈ digits, digit.isDigit = true) :
    read digits < 10 ^ digits.length := by
  induction digits using List.reverseRecOn with
  | nil => simp [read]
  | append_singleton digits digit ih =>
      have hprefix := ih fun other hother => h other (by simp [hother])
      have hbounds := toNat_of_isDigit (h digit (by simp))
      rw [read] at hprefix ⊢
      rw [ofDigitChars_append_singleton, List.length_append, List.length_singleton, Nat.pow_succ]
      omega

/-- Nothing but digits comes before what is not a digit. -/
theorem IsDigits.not_mem {digits : List Char} (h : IsDigits digits) {character : Char}
    (hcharacter : character.isDigit = false) : character ∉ digits := by
  intro hmem
  have hdigit := h.all_digits character hmem
  rw [hcharacter] at hdigit
  cases hdigit

/-- The sign of an exponent. -/
inductive Sign
  | none
  | plus
  | minus

namespace Sign

def text : Sign → List Char
  | .none => []
  | .plus => ['+']
  | .minus => ['-']

/-- The number a signed magnitude stands for. -/
def apply (magnitude : ℕ) : Sign → ℤ
  | .minus => -magnitude
  | _ => magnitude

end Sign

structure Exponent where
  letter : Char
  sign : Sign
  digits : List Char
  isLetter : letter = 'e' ∨ letter = 'E'
  isDigits : IsDigits digits

namespace Exponent

def text (exponent : Exponent) : List Char :=
  exponent.letter :: (exponent.sign.text ++ exponent.digits)

def value (exponent : Exponent) : ℤ := exponent.sign.apply (read exponent.digits)

end Exponent

structure Numeral where
  negative : Bool
  whole : List Char
  maybeFraction : Option (List Char)
  maybeExponent : Option Exponent
  wholeDigits : IsDigits whole
  fractionDigits : ∀ fraction ∈ maybeFraction, IsDigits fraction

namespace Numeral

/-- Sign and whole part. -/
def front (numeral : Numeral) : List Char :=
  (if numeral.negative then ['-'] else []) ++ numeral.whole

def mantissa (numeral : Numeral) : List Char :=
  numeral.front ++ (numeral.maybeFraction.map fun fraction => '.' :: fraction).getD []

def text (numeral : Numeral) : List Char :=
  numeral.mantissa ++ (numeral.maybeExponent.map Exponent.text).getD []

def fraction (numeral : Numeral) : List Char := numeral.maybeFraction.getD []

def exponent (numeral : Numeral) : ℤ := (numeral.maybeExponent.map Exponent.value).getD 0

/-- The exact value. -/
def value (numeral : Numeral) : ℚ :=
  (if numeral.negative then -1 else 1) *
    (read numeral.whole + read numeral.fraction / 10 ^ numeral.fraction.length) *
      10 ^ numeral.exponent

theorem front_not_mem (numeral : Numeral) {character : Char}
    (hcharacter : character.isDigit = false) (hsign : character ≠ '-') :
    character ∉ numeral.front := by
  rw [front, List.mem_append, not_or]
  refine ⟨?_, numeral.wholeDigits.not_mem hcharacter⟩
  cases numeral.negative with
  | false => simp
  | true => simpa using hsign

theorem mantissa_not_mem (numeral : Numeral) {character : Char}
    (hcharacter : character.isDigit = false) (hsign : character ≠ '-') (hpoint : character ≠ '.') :
    character ∉ numeral.mantissa := by
  rw [mantissa, List.mem_append, not_or]
  refine ⟨numeral.front_not_mem hcharacter hsign, ?_⟩
  cases hfraction : numeral.maybeFraction with
  | none => simp
  | some fraction =>
      simpa [hpoint] using (numeral.fractionDigits fraction hfraction).not_mem hcharacter

end Numeral

end WorkGate.Library.Decimal
