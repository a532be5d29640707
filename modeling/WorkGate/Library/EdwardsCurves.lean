/-
# Twisted Edwards curves

The curve `-x² + y² = 1 + d x² y²` over a field in which `-1` is a square and `d` is not.  Its
addition law has no exceptions: no denominator is ever zero.  The points form a commutative group.
-/

import Mathlib.Algebra.Field.Basic
import Mathlib.Algebra.Group.Even
import Mathlib.Tactic.FieldSimp
import Mathlib.Tactic.LinearCombination
import Mathlib.Tactic.Ring

namespace WorkGate.Library

/-- What the addition law needs of a field and of the constant of the curve. -/
structure EdwardsCurve (F : Type) [Field F] where
  d : F
  root : F
  root_mul_root : root * root = -1
  not_isSquare_d : ¬ IsSquare d
  two_ne_zero : (2 : F) ≠ 0

namespace EdwardsCurve

variable {F : Type} [Field F]

/-- A point of the curve. -/
@[ext]
structure Point (curve : EdwardsCurve F) where
  x : F
  y : F
  equation : -(x * x) + y * y = 1 + curve.d * (x * x) * (y * y)

namespace Point

variable {curve : EdwardsCurve F}

/-- The product that both denominators of a sum are made from. -/
def product (first second : Point curve) : F :=
  curve.d * first.x * second.x * first.y * second.y

/-! ## The denominators -/

/-- Two squares that the equations of two points make equal, with either sign of `second.y`. -/
theorem square_eq {first second : Point curve} {sign : F} (hsign : sign * sign = 1)
    (h : first.product second * first.product second = 1) :
    (curve.root * first.x + sign * first.product second * first.y) *
        (curve.root * first.x + sign * first.product second * first.y) =
      curve.d * ((first.x * first.y) * (curve.root * second.x + sign * second.y)) *
        ((first.x * first.y) * (curve.root * second.x + sign * second.y)) := by
  have hroot := curve.root_mul_root
  have hfirst := first.equation
  have hsecond := second.equation
  have hproduct : first.product second = curve.d * first.x * second.x * first.y * second.y := rfl
  rw [hproduct] at h ⊢
  linear_combination hfirst -
    curve.d * (first.x * first.x) * (first.y * first.y) * hsecond +
    (first.y * first.y - 1) * h +
    (first.x * first.x - curve.d * (first.x * first.x) * (first.y * first.y) *
      (second.x * second.x)) * hroot +
    ((curve.d * first.x * second.x * first.y * second.y) *
      (curve.d * first.x * second.x * first.y * second.y) * (first.y * first.y) -
      curve.d * (first.x * first.x) * (first.y * first.y) * (second.y * second.y)) * hsign

/-- The product of two points is never `1` or `-1`. -/
theorem product_mul_product_ne_one (first second : Point curve) :
    first.product second * first.product second ≠ 1 := by
  intro h
  have hproduct : first.product second ≠ 0 := by
    intro hzero
    rw [hzero, zero_mul] at h
    exact zero_ne_one h
  have hcoordinates : first.x * first.y ≠ 0 := by
    intro hzero
    apply hproduct
    calc first.product second = curve.d * second.x * second.y * (first.x * first.y) := by
          rw [product]
          ring
      _ = 0 := by rw [hzero, mul_zero]
  -- With either sign the second factor has to vanish, or `d` would be a square.
  have hvanishes : ∀ sign : F, sign * sign = 1 → curve.root * second.x + sign * second.y = 0 := by
    intro sign hsign
    by_contra hsome
    have hfactor := mul_ne_zero hcoordinates hsome
    apply curve.not_isSquare_d
    refine ⟨(curve.root * first.x + sign * first.product second * first.y) /
      ((first.x * first.y) * (curve.root * second.x + sign * second.y)), ?_⟩
    rw [div_mul_div_comm, square_eq hsign h, eq_div_iff (mul_ne_zero hfactor hfactor)]
    ring
  have hplus := hvanishes 1 (one_mul 1)
  have hminus := hvanishes (-1) (by ring)
  have htwice : (2 : F) * second.y = 0 := by linear_combination hplus - hminus
  have hy : second.y = 0 := (mul_eq_zero.mp htwice).resolve_left curve.two_ne_zero
  apply hproduct
  rw [product, hy, mul_zero]

theorem one_add_product_ne_zero (first second : Point curve) : 1 + first.product second ≠ 0 := by
  intro h
  apply product_mul_product_ne_one first second
  linear_combination (first.product second - 1) * h

theorem one_sub_product_ne_zero (first second : Point curve) : 1 - first.product second ≠ 0 := by
  intro h
  apply product_mul_product_ne_one first second
  linear_combination (-1 - first.product second) * h

/-! ## The group -/

/-- The sum of two points lies on the curve. -/
theorem equation_sum {d x₁ y₁ x₂ y₂ : F} (h₁ : -(x₁ * x₁) + y₁ * y₁ = 1 + d * (x₁ * x₁) * (y₁ * y₁))
    (h₂ : -(x₂ * x₂) + y₂ * y₂ = 1 + d * (x₂ * x₂) * (y₂ * y₂))
    (hplus : 1 + d * x₁ * x₂ * y₁ * y₂ ≠ 0) (hminus : 1 - d * x₁ * x₂ * y₁ * y₂ ≠ 0) {x y : F}
    (hx : x = (x₁ * y₂ + y₁ * x₂) / (1 + d * x₁ * x₂ * y₁ * y₂))
    (hy : y = (y₁ * y₂ + x₁ * x₂) / (1 - d * x₁ * x₂ * y₁ * y₂)) :
    -(x * x) + y * y = 1 + d * (x * x) * (y * y) := by
  rw [eq_div_iff hplus] at hx
  rw [eq_div_iff hminus] at hy
  have hcleared : -((x₁ * y₂ + y₁ * x₂) ^ 2) * (1 - d * x₁ * x₂ * y₁ * y₂) ^ 2 +
      (y₁ * y₂ + x₁ * x₂) ^ 2 * (1 + d * x₁ * x₂ * y₁ * y₂) ^ 2 =
      (1 + d * x₁ * x₂ * y₁ * y₂) ^ 2 * (1 - d * x₁ * x₂ * y₁ * y₂) ^ 2 +
        d * (x₁ * y₂ + y₁ * x₂) ^ 2 * (y₁ * y₂ + x₁ * x₂) ^ 2 := by
    linear_combination
      (d * x₁ ^ 2 * y₁ ^ 2 * ((x₂ ^ 2 + 1) ^ 2 + (y₂ ^ 2 - 1) ^ 2 - 1) +
        2 * x₁ ^ 2 * y₁ ^ 2 * (x₂ ^ 2 - y₂ ^ 2 + 1) +
        (y₁ ^ 2 - x₁ ^ 2) * (x₂ ^ 2 - y₂ ^ 2 + 1) + 1) * h₁ +
      (d ^ 3 * x₁ ^ 4 * y₁ ^ 4 * x₂ ^ 2 * y₂ ^ 2 -
        d ^ 2 * x₁ ^ 4 * y₁ ^ 4 * (x₂ ^ 2 - y₂ ^ 2 + 1) - 2 * d * x₁ ^ 4 * y₁ ^ 4 -
        d * x₁ ^ 2 * y₁ ^ 2 * (x₁ ^ 2 - y₁ ^ 2) * (x₂ ^ 2 - y₂ ^ 2) - 2 * d * x₁ ^ 2 * y₁ ^ 2 -
        2 * x₁ ^ 4 * y₁ ^ 2 + x₁ ^ 4 + 2 * x₁ ^ 2 * y₁ ^ 4 - 4 * x₁ ^ 2 * y₁ ^ 2 + y₁ ^ 4) * h₂
  have hzero : (-(x * x) + y * y - (1 + d * (x * x) * (y * y))) *
      ((1 + d * x₁ * x₂ * y₁ * y₂) ^ 2 * (1 - d * x₁ * x₂ * y₁ * y₂) ^ 2) = 0 := by
    rw [← hx, ← hy] at hcleared
    linear_combination hcleared
  have hdenominators := mul_ne_zero (pow_ne_zero 2 hplus) (pow_ne_zero 2 hminus)
  exact sub_eq_zero.mp ((mul_eq_zero.mp hzero).resolve_right hdenominators)

instance : Add (Point curve) where
  add first second :=
    { x := (first.x * second.y + first.y * second.x) / (1 + first.product second)
      y := (first.y * second.y + first.x * second.x) / (1 - first.product second)
      equation := equation_sum first.equation second.equation
        (one_add_product_ne_zero first second) (one_sub_product_ne_zero first second) rfl rfl }

instance : Zero (Point curve) := ⟨⟨0, 1, by ring⟩⟩

instance : Neg (Point curve) where
  neg point := ⟨-point.x, point.y, by rw [neg_mul_neg]; exact point.equation⟩

@[simp] theorem zero_x : (0 : Point curve).x = 0 := rfl
@[simp] theorem zero_y : (0 : Point curve).y = 1 := rfl
@[simp] theorem neg_x (point : Point curve) : (-point).x = -point.x := rfl
@[simp] theorem neg_y (point : Point curve) : (-point).y = point.y := rfl

theorem add_x (first second : Point curve) : (first + second).x =
    (first.x * second.y + first.y * second.x) / (1 + first.product second) := rfl

theorem add_y (first second : Point curve) : (first + second).y =
    (first.y * second.y + first.x * second.x) / (1 - first.product second) := rfl

theorem add_x_mul (first second : Point curve) : (first + second).x * (1 + first.product second) =
    first.x * second.y + first.y * second.x :=
  div_mul_cancel₀ _ (one_add_product_ne_zero first second)

theorem add_y_mul (first second : Point curve) : (first + second).y * (1 - first.product second) =
    first.y * second.y + first.x * second.x :=
  div_mul_cancel₀ _ (one_sub_product_ne_zero first second)

theorem product_comm (first second : Point curve) :
    first.product second = second.product first := by
  rw [product, product]
  ring

theorem add_comm' (first second : Point curve) : first + second = second + first := by
  apply Point.ext
  · rw [add_x, add_x, product_comm]
    ring
  · rw [add_y, add_y, product_comm]
    ring

theorem zero_add' (point : Point curve) : 0 + point = point := by
  have hproduct : (0 : Point curve).product point = 0 := by simp [product]
  apply Point.ext
  · rw [add_x, hproduct]
    simp
  · rw [add_y, hproduct]
    simp

theorem neg_add_cancel' (point : Point curve) : -point + point = 0 := by
  apply Point.ext
  · rw [add_x, neg_x, neg_y, neg_mul, mul_comm point.y, neg_add_cancel, zero_div]
    rfl
  · have hsame : (-point).y * point.y + (-point).x * point.x = 1 - (-point).product point := by
      rw [product, neg_x, neg_y]
      linear_combination point.equation
    rw [add_y, hsame, div_self (one_sub_product_ne_zero _ _)]
    rfl

/-! ### Associativity -/

/-- The first coordinate of a sum of three points, its inner denominators cleared. -/
def tripleNumerator (first second third : Point curve) : F :=
  (first.x * second.y + first.y * second.x) * (1 - first.product second) * third.y +
    (first.y * second.y + first.x * second.x) * (1 + first.product second) * third.x

def tripleDenominator (first second third : Point curve) : F :=
  (1 + first.product second) * (1 - first.product second) +
    curve.d * (first.x * second.y + first.y * second.x) *
      (first.y * second.y + first.x * second.x) * third.x * third.y

/-- The inner denominators multiply the outer one. -/
theorem tripleDenominator_eq (first second third : Point curve) :
    tripleDenominator first second third =
      (1 + first.product second) * (1 - first.product second) *
        (1 + (first + second).product third) := by
  have hproduct : (first + second).product third =
    curve.d * (first + second).x * third.x * (first + second).y * third.y := rfl
  rw [tripleDenominator, ← add_x_mul first second, ← add_y_mul first second, hproduct]
  ring

theorem tripleDenominator_ne_zero (first second third : Point curve) :
    tripleDenominator first second third ≠ 0 := by
  rw [tripleDenominator_eq]
  exact mul_ne_zero (mul_ne_zero (one_add_product_ne_zero first second)
    (one_sub_product_ne_zero first second)) (one_add_product_ne_zero (first + second) third)

theorem add_add_x (first second third : Point curve) :
    (first + second + third).x * tripleDenominator first second third =
      tripleNumerator first second third := by
  have hsum := add_x_mul (first + second) third
  rw [tripleDenominator_eq, tripleNumerator, ← add_x_mul first second, ← add_y_mul first second]
  linear_combination (1 + first.product second) * (1 - first.product second) * hsum

/-- Both ways to add three points agree in the first coordinate, by the equations of the points. -/
theorem tripleNumerator_mul (first second third : Point curve) :
    tripleNumerator first second third * tripleDenominator second third first =
      tripleNumerator second third first * tripleDenominator first second third := by
  obtain ⟨x₁, y₁, h₁⟩ := first
  obtain ⟨x₂, y₂, h₂⟩ := second
  obtain ⟨x₃, y₃, h₃⟩ := third
  simp only [tripleNumerator, tripleDenominator, product]
  linear_combination
    curve.d * x₂ * y₂ * (-curve.d * x₁ * x₂ ^ 3 * y₂ ^ 2 * x₃ ^ 2 * y₃ -
        curve.d * x₁ * x₂ ^ 2 * y₂ ^ 3 * x₃ * y₃ ^ 2 +
        curve.d * y₁ * x₂ ^ 3 * y₂ ^ 2 * x₃ * y₃ ^ 2 +
        curve.d * y₁ * x₂ ^ 2 * y₂ ^ 3 * x₃ ^ 2 * y₃ -
        x₁ * x₂ ^ 3 * x₃ ^ 2 * y₃ - x₁ * x₂ ^ 2 * y₂ * x₃ ^ 3 - x₁ * x₂ ^ 2 * y₂ * x₃ +
        x₁ * x₂ * y₂ ^ 2 * y₃ ^ 3 - x₁ * x₂ * y₂ ^ 2 * y₃ + x₁ * y₂ ^ 3 * x₃ * y₃ ^ 2 +
        y₁ * x₂ ^ 3 * x₃ * y₃ ^ 2 + y₁ * x₂ ^ 2 * y₂ * y₃ ^ 3 - y₁ * x₂ ^ 2 * y₂ * y₃ -
        y₁ * x₂ * y₂ ^ 2 * x₃ ^ 3 - y₁ * x₂ * y₂ ^ 2 * x₃ - y₁ * y₂ ^ 3 * x₃ ^ 2 * y₃) * h₁ +
    curve.d * x₂ * y₂ * (x₁ ^ 3 * x₂ * x₃ ^ 2 * y₃ + x₁ ^ 3 * y₂ * x₃ * y₃ ^ 2 -
        x₁ ^ 2 * y₁ * x₂ * x₃ ^ 3 - x₁ ^ 2 * y₁ * x₂ * x₃ - x₁ ^ 2 * y₁ * y₂ * y₃ ^ 3 + x₁ ^ 2 * y₁ * y₂ * y₃ -
        x₁ * y₁ ^ 2 * x₂ * y₃ ^ 3 + x₁ * y₁ ^ 2 * x₂ * y₃ - x₁ * y₁ ^ 2 * y₂ * x₃ ^ 3 -
        x₁ * y₁ ^ 2 * y₂ * x₃ + x₁ * x₂ * x₃ ^ 2 * y₃ + x₁ * y₂ * x₃ * y₃ ^ 2 +
        y₁ ^ 3 * x₂ * x₃ * y₃ ^ 2 + y₁ ^ 3 * y₂ * x₃ ^ 2 * y₃ - y₁ * x₂ * x₃ * y₃ ^ 2 -
        y₁ * y₂ * x₃ ^ 2 * y₃) * h₂ +
    curve.d * x₂ * y₂ * (curve.d * x₁ ^ 2 * y₁ * x₂ ^ 3 * y₂ ^ 2 * x₃ -
        curve.d * x₁ ^ 2 * y₁ * x₂ ^ 2 * y₂ ^ 3 * y₃ -
        curve.d * x₁ * y₁ ^ 2 * x₂ ^ 3 * y₂ ^ 2 * y₃ +
        curve.d * x₁ * y₁ ^ 2 * x₂ ^ 2 * y₂ ^ 3 * x₃ +
        x₁ ^ 3 * x₂ ^ 2 * y₂ * x₃ + x₁ ^ 3 * x₂ * y₂ ^ 2 * y₃ + x₁ ^ 2 * y₁ * x₂ ^ 3 * x₃ +
        x₁ ^ 2 * y₁ * y₂ ^ 3 * y₃ - x₁ * y₁ ^ 2 * x₂ ^ 3 * y₃ - x₁ * y₁ ^ 2 * y₂ ^ 3 * x₃ +
        x₁ * x₂ ^ 2 * y₂ * x₃ + x₁ * x₂ * y₂ ^ 2 * y₃ - y₁ ^ 3 * x₂ ^ 2 * y₂ * y₃ -
        y₁ ^ 3 * x₂ * y₂ ^ 2 * x₃ + y₁ * x₂ ^ 2 * y₂ * y₃ + y₁ * x₂ * y₂ ^ 2 * x₃) * h₃

theorem add_assoc_x (first second third : Point curve) :
    (first + second + third).x = (first + (second + third)).x := by
  have hsome := mul_ne_zero (tripleDenominator_ne_zero first second third)
    (tripleDenominator_ne_zero second third first)
  apply mul_right_cancel₀ hsome
  calc (first + second + third).x *
        (tripleDenominator first second third * tripleDenominator second third first)
      = tripleNumerator first second third * tripleDenominator second third first := by
        rw [← mul_assoc, add_add_x]
    _ = tripleNumerator second third first * tripleDenominator first second third :=
        tripleNumerator_mul first second third
    _ = (second + third + first).x *
        (tripleDenominator first second third * tripleDenominator second third first) := by
        rw [← add_add_x second third first]
        ring
    _ = (first + (second + third)).x *
        (tripleDenominator first second third * tripleDenominator second third first) := by
        rw [add_comm' first]

/-- A point turned by the point of order four, which exchanges its coordinates. -/
def turn (point : Point curve) : Point curve where
  x := curve.root * point.y
  y := curve.root * point.x
  equation := by
    linear_combination point.equation + (point.x * point.x - point.y * point.y -
      curve.d * (point.x * point.x) * (point.y * point.y) * (curve.root * curve.root - 1)) *
        curve.root_mul_root

@[simp] theorem turn_x (point : Point curve) : point.turn.x = curve.root * point.y := rfl
@[simp] theorem turn_y (point : Point curve) : point.turn.y = curve.root * point.x := rfl

/-- A sum turns with either point. -/
theorem add_turn (first second : Point curve) : first + second.turn = (first + second).turn := by
  have hproduct : first.product second.turn = -first.product second := by
    rw [product, product, turn_x, turn_y]
    linear_combination (curve.d * first.x * second.x * first.y * second.y) * curve.root_mul_root
  apply Point.ext
  · rw [add_x, hproduct, ← sub_eq_add_neg, turn_x, turn_x, turn_y, add_y, mul_div_assoc']
    ring
  · rw [add_y, hproduct, sub_neg_eq_add, turn_y, turn_x, turn_y, add_x, mul_div_assoc']
    ring

theorem root_ne_zero (curve : EdwardsCurve F) : curve.root ≠ 0 := by
  intro hzero
  have hroot := curve.root_mul_root
  rw [hzero, zero_mul, zero_eq_neg] at hroot
  exact one_ne_zero hroot

/-- The second coordinate of a point is the first one of the point turned. -/
theorem add_assoc_y (first second third : Point curve) :
    (first + second + third).y = (first + (second + third)).y := by
  apply mul_left_cancel₀ (root_ne_zero curve)
  calc curve.root * (first + second + third).y
      = (first + second + third.turn).x := by rw [add_turn]; rfl
    _ = (first + (second + third.turn)).x := add_assoc_x first second third.turn
    _ = curve.root * (first + (second + third)).y := by rw [add_turn, add_turn]; rfl

instance : AddCommGroup (Point curve) where
  add_assoc first second third :=
    Point.ext (add_assoc_x first second third) (add_assoc_y first second third)
  zero_add := zero_add'
  add_zero point := (add_comm' point 0).trans (zero_add' point)
  neg_add_cancel := neg_add_cancel'
  add_comm := add_comm'
  nsmul := nsmulRec
  zsmul := zsmulRec

end Point

end EdwardsCurve

end WorkGate.Library
