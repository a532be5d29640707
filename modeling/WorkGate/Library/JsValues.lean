/-
# The numbers and objects JavaScript has

`JsNumber` and `JsValue` have room for more than the language does.  A number is what
`Number::toString` prints of a double: the fewest digits that are rounded to it, laid out by its
size.  An object gives the names that are array indices first and in their order, and the others
in the order they were inserted in.
-/

import Mathlib.Algebra.Order.Field.Rat
import Mathlib.Tactic.Linarith
import Mathlib.Tactic.NormNum
import Mathlib.Tactic.Ring
import WorkGate.Library.Decimal
import WorkGate.Library.JsonText

namespace WorkGate.Library

/-! ## Doubles -/

/-- A positive finite double, `significand * 2 ^ exponent`. -/
structure Double where
  significand : ℕ
  exponent : ℤ
  positive : 0 < significand
  fits : significand < 2 ^ 53
  lowest : -1074 ≤ exponent
  highest : exponent ≤ 971
  normal : 2 ^ 52 ≤ significand ∨ exponent = -1074

namespace Double

variable (x : Double)

def value : ℚ := x.significand * 2 ^ x.exponent

/-- Halfway to the next double. -/
def upper : ℚ := (2 * x.significand + 1) * 2 ^ (x.exponent - 1)

/-- Halfway to the double before, which is half as far away below a power of two. -/
def lower : ℚ :=
  if x.significand = 2 ^ 52 ∧ -1074 < x.exponent then
    (4 * x.significand - 1) * 2 ^ (x.exponent - 2)
  else (2 * x.significand - 1) * 2 ^ (x.exponent - 1)

/-- The double a rational number is rounded to, to an even significand from halfway. -/
def RoundedFrom (value : ℚ) : Prop :=
  x.lower < value ∧ value < x.upper ∨
    x.significand % 2 = 0 ∧ (value = x.lower ∨ value = x.upper)

end Double

/-! ## The text of a double -/

/-- Some decimal digits and where the point stands behind the first of them, `s`, `k` and `n` of
`Number::toString`. -/
structure ScaledDigits where
  digits : ℕ
  count : ℕ
  scale : ℤ
  positive : 0 < count
  atLeast : 10 ^ (count - 1) ≤ digits
  atMost : digits < 10 ^ count

namespace ScaledDigits

def value (decimal : ScaledDigits) : ℚ := decimal.digits * 10 ^ (decimal.scale - decimal.count)

/-- The decimal `Number::toString` writes of a double: the shortest that is rounded to it, of
those the closest, of two as close the even one. -/
structure Writes (decimal : ScaledDigits) (x : Double) : Prop where
  rounded : x.RoundedFrom decimal.value
  shortest : ∀ other : ScaledDigits, x.RoundedFrom other.value → decimal.count ≤ other.count
  closest : ∀ other : ScaledDigits, x.RoundedFrom other.value → other.count = decimal.count →
    |decimal.value - x.value| ≤ |other.value - x.value|
  even : ∀ other : ScaledDigits, x.RoundedFrom other.value → other.count = decimal.count →
    |decimal.value - x.value| = |other.value - x.value| → other.digits = decimal.digits ∨
      decimal.digits % 2 = 0

/-- The parts of the text: what stands before the point, the point and what follows it, and the
exponent. -/
def parts (decimal : ScaledDigits) : List Char × List Char × List Char :=
  let text := Nat.toDigits 10 decimal.digits
  if decimal.count ≤ decimal.scale ∧ decimal.scale ≤ 21 then
    (text ++ List.replicate (decimal.scale - decimal.count).toNat '0', [], [])
  else if 0 < decimal.scale ∧ decimal.scale ≤ 21 then
    (text.take decimal.scale.toNat, '.' :: text.drop decimal.scale.toNat, [])
  else if -6 < decimal.scale ∧ decimal.scale ≤ 0 then
    (['0'], '.' :: (List.replicate (-decimal.scale).toNat '0' ++ text), [])
  else
    (text.take 1, if decimal.count = 1 then [] else '.' :: text.drop 1,
      'e' :: (if 0 < decimal.scale then '+' else '-') ::
        Nat.toDigits 10 (decimal.scale - 1).natAbs)

/-- A number with such digits, as it is printed. -/
def number (decimal : ScaledDigits) (negative : Bool) : JsNumber :=
  if !negative && decide (decimal.count ≤ decimal.scale ∧ decimal.scale ≤ 21) then
    .natural (decimal.digits * 10 ^ (decimal.scale - decimal.count).toNat)
  else .other (String.ofList ((if negative then ['-'] else []) ++
    (decimal.parts.1 ++ (decimal.parts.2.1 ++ decimal.parts.2.2))))

end ScaledDigits

/-- A finite number, by the text `JSON.stringify` prints of it.  A zero is printed without its
sign. -/
def JsNumber.IsFinite (number : JsNumber) : Prop :=
  number = .natural 0 ∨
    ∃ (x : Double) (decimal : ScaledDigits) (negative : Bool),
      decimal.Writes x ∧ number = decimal.number negative

namespace JsonText

/-- Digits a number can start with. -/
structure WholePart (digits : List Char) : Prop where
  nonempty : digits ≠ []
  all_digits : ∀ digit ∈ digits, digit.isDigit = true
  no_leading_zero : digits.head? = some '0' → digits = ['0']

/-- A number is read from its parts. -/
theorem readNumber_parts {sign whole fraction exponent : List Char}
    (hsign : sign = [] ∨ sign = ['-']) (hwhole : WholePart whole)
    (hfraction : fraction = [] ∨ ∃ digits, digits ≠ [] ∧
      (∀ digit ∈ digits, digit.isDigit = true) ∧ fraction = '.' :: digits)
    (hexponent : exponent = [] ∨ ∃ mark digits, (mark = '+' ∨ mark = '-') ∧ digits ≠ [] ∧
      (∀ digit ∈ digits, digit.isDigit = true) ∧ exponent = 'e' :: mark :: digits)
    (hother : ¬ (sign = [] ∧ fraction = [] ∧ exponent = [])) :
    readNumber (sign ++ (whole ++ (fraction ++ exponent))) =
      some (.other (String.ofList (sign ++ (whole ++ (fraction ++ exponent)))), []) := by
  obtain ⟨digit, digits, rfl⟩ := List.exists_cons_of_ne_nil hwhole.nonempty
  have hdigit : digit.isDigit = true := hwhole.all_digits digit List.mem_cons_self
  have hminus : digit ≠ '-' := by
    rintro rfl
    cases hdigit
  have hzero : ¬ (digit = '0' ∧ digits ≠ []) := by
    rintro ⟨rfl, hdigits⟩
    exact hdigits (List.cons.inj (hwhole.no_leading_zero rfl)).2
  have hstop (rest : List Char) (hdigit : ∀ character ∈ rest.head?, character.isDigit = false) :
      rest.takeWhile Char.isDigit = [] ∧ rest.dropWhile Char.isDigit = rest := by
    cases rest with
    | nil => exact ⟨rfl, rfl⟩
    | cons character rest =>
        have hcharacter := hdigit character rfl
        simp [hcharacter]
  have hread (found rest : List Char) (hfound : ∀ digit ∈ found, digit.isDigit = true)
      (hrest : ∀ character ∈ rest.head?, character.isDigit = false) :
      readDigits (found ++ rest) = (found, rest) := by
    rw [readDigits, List.takeWhile_append_of_pos hfound, List.dropWhile_append_of_pos hfound,
      (hstop rest hrest).1, (hstop rest hrest).2, List.append_nil]
  have hsigned : readSign ['-'] (sign ++ (digit :: digits ++ (fraction ++ exponent))) =
      (sign, digit :: digits ++ (fraction ++ exponent)) := by
    obtain rfl | rfl := hsign
    · exact if_neg (by simpa using hminus)
    · rfl
  have hexponentHead : ∀ character ∈ exponent.head?, character.isDigit = false := by
    obtain rfl | ⟨mark, found, -, -, -, rfl⟩ := hexponent
    · simp
    · simp
  have hreadWhole : readDigits (digit :: digits ++ (fraction ++ exponent)) =
      (digit :: digits, fraction ++ exponent) := by
    apply hread _ _ hwhole.all_digits
    obtain rfl | ⟨found, -, -, rfl⟩ := hfraction
    · exact hexponentHead
    · simp
  have hreadFraction : readFraction (fraction ++ exponent) = some (fraction, exponent) := by
    obtain rfl | ⟨found, hfound, hfoundDigits, rfl⟩ := hfraction
    · obtain rfl | ⟨mark, others, -, -, -, rfl⟩ := hexponent
      · rfl
      · rfl
    · obtain ⟨first, others, rfl⟩ := List.exists_cons_of_ne_nil hfound
      rw [List.cons_append, readFraction, hread _ _ hfoundDigits hexponentHead]
  have hreadExponent : readExponent exponent = some (exponent, []) := by
    obtain rfl | ⟨mark, found, hmark, hfound, hfoundDigits, rfl⟩ := hexponent
    · rfl
    · obtain ⟨first, others, rfl⟩ := List.exists_cons_of_ne_nil hfound
      have hmarked : readSign ['+', '-'] (mark :: first :: others) =
          ([mark], first :: others) := if_pos (by simpa using hmark)
      have hdigits := hread _ [] hfoundDigits (by simp)
      rw [List.append_nil] at hdigits
      rw [readExponent, if_pos (.inl rfl)]
      simp only [hmarked, hdigits]
      rfl
  simp only [readNumber, hsigned, hreadWhole, if_neg hzero, hreadFraction, hreadExponent,
    if_neg hother]
  rw [List.append_assoc, List.append_assoc]

end JsonText

namespace ScaledDigits

open JsonText

variable (decimal : ScaledDigits)

theorem length_digits : (Nat.toDigits 10 decimal.digits).length = decimal.count := by
  have hatMost := (Nat.length_toDigits_le_iff (by decide) decimal.positive).mpr decimal.atMost
  by_cases hone : decimal.count = 1
  · have hpos := Nat.length_toDigits_pos (b := 10) (n := decimal.digits)
    omega
  · have hcount : 0 < decimal.count - 1 := by
      have hpositive := decimal.positive
      omega
    have hatLeast := mt (Nat.length_toDigits_le_iff (by decide) hcount).mp
      (Nat.not_lt.mpr decimal.atLeast)
    omega

theorem canonical_digits : Decimal.Canonical (Nat.toDigits 10 decimal.digits) :=
  Decimal.canonical_toDigits ((Nat.pow_pos (by decide)).trans_le decimal.atLeast)

theorem isDigit_digits : ∀ digit ∈ Nat.toDigits 10 decimal.digits, digit.isDigit = true :=
  decimal.canonical_digits.all_digits

/-- Digits of a number without a zero in front can begin one. -/
theorem wholePart_prefix {digits : List Char} (hnonempty : digits ≠ [])
    (hbegins : ∃ rest, digits ++ rest = Nat.toDigits 10 decimal.digits)
    (zeros : ℕ) : WholePart (digits ++ List.replicate zeros '0') := by
  obtain ⟨rest, hdigits⟩ := hbegins
  have hall := decimal.isDigit_digits
  have hleading := decimal.canonical_digits.no_leading_zero
  rw [← hdigits] at hall hleading
  rw [List.head?_append_of_ne_nil _ hnonempty] at hleading
  constructor
  · exact fun hnil => hnonempty (List.append_eq_nil_iff.mp hnil).1
  · intro digit hmem
    obtain hmem | hmem := List.mem_append.mp hmem
    · exact hall digit (List.mem_append_left _ hmem)
    · rw [List.eq_of_mem_replicate hmem]
      rfl
  · intro hzero
    rw [List.head?_append_of_ne_nil _ hnonempty] at hzero
    exact absurd hzero hleading

theorem wholePart : WholePart decimal.parts.1 := by
  have hlength := decimal.length_digits
  have hcount := decimal.positive
  have htake (taken : ℕ) (hpositive : 0 < taken) :
      WholePart ((Nat.toDigits 10 decimal.digits).take taken) := by
    have hnonempty : (Nat.toDigits 10 decimal.digits).take taken ≠ [] :=
      List.ne_nil_of_length_pos (by rw [List.length_take]; omega)
    have hpart := decimal.wholePart_prefix hnonempty ⟨_, List.take_append_drop taken _⟩ 0
    rwa [List.replicate_zero, List.append_nil] at hpart
  simp only [parts]
  split
  · exact decimal.wholePart_prefix Nat.toDigits_ne_nil ⟨[], List.append_nil _⟩ _
  · split
    · next hpoint => exact htake _ (by omega)
    · split
      · exact ⟨by simp, by simp, fun _ => rfl⟩
      · exact htake 1 (by decide)

theorem fractionPart : decimal.parts.2.1 = [] ∨ ∃ digits, digits ≠ [] ∧
    (∀ digit ∈ digits, digit.isDigit = true) ∧ decimal.parts.2.1 = '.' :: digits := by
  have hlength := decimal.length_digits
  have hcount := decimal.positive
  have hdrop (dropped : ℕ) (hless : dropped < decimal.count) :
      (Nat.toDigits 10 decimal.digits).drop dropped ≠ [] ∧
        ∀ digit ∈ (Nat.toDigits 10 decimal.digits).drop dropped, digit.isDigit = true := by
    constructor
    · exact List.ne_nil_of_length_pos (by rw [List.length_drop]; omega)
    · exact fun digit hmem => decimal.isDigit_digits digit (List.mem_of_mem_drop hmem)
  simp only [parts]
  split
  · exact .inl rfl
  · next hwide =>
      split
      · next hpoint =>
          obtain ⟨hnonempty, hdigits⟩ := hdrop decimal.scale.toNat (by omega)
          exact .inr ⟨_, hnonempty, hdigits, rfl⟩
      · split
        · refine .inr ⟨_, ?_, ?_, rfl⟩
          · exact fun hnil => Nat.toDigits_ne_nil (List.append_eq_nil_iff.mp hnil).2
          · intro digit hmem
            obtain hmem | hmem := List.mem_append.mp hmem
            · rw [List.eq_of_mem_replicate hmem]
              rfl
            · exact decimal.isDigit_digits digit hmem
        · by_cases hone : decimal.count = 1
          · exact .inl (if_pos hone)
          · obtain ⟨hnonempty, hdigits⟩ := hdrop 1 (by omega)
            exact .inr ⟨_, hnonempty, hdigits, if_neg hone⟩

theorem exponentPart : decimal.parts.2.2 = [] ∨ ∃ mark digits, (mark = '+' ∨ mark = '-') ∧
    digits ≠ [] ∧ (∀ digit ∈ digits, digit.isDigit = true) ∧
      decimal.parts.2.2 = 'e' :: mark :: digits := by
  have hmark : (if 0 < decimal.scale then '+' else '-') = '+' ∨
      (if 0 < decimal.scale then '+' else '-') = '-' := by
    split
    · exact .inl rfl
    · exact .inr rfl
  simp only [parts]
  split
  · exact .inl rfl
  · split
    · exact .inl rfl
    · split
      · exact .inl rfl
      · exact .inr ⟨_, _, hmark, Nat.toDigits_ne_nil, fun _ hmem =>
          Nat.isDigit_of_mem_toDigits (by decide) (by decide) hmem, rfl⟩

/-- A number that is no integer below `10 ^ 21` has a fraction or an exponent. -/
theorem parts_ne_nil (hwide : ¬ (decimal.count ≤ decimal.scale ∧ decimal.scale ≤ 21)) :
    ¬ (decimal.parts.2.1 = [] ∧ decimal.parts.2.2 = []) := by
  simp only [parts, if_neg hwide]
  split
  · simp
  · split
    · simp
    · simp

/-- The text of a double is read as the number it is the text of. -/
theorem legibleNumber (negative : Bool) : LegibleNumber (decimal.number negative) := by
  rw [number]
  split
  · exact trivial
  · next hother =>
      rw [LegibleNumber, String.toList_ofList]
      apply readNumber_parts _ decimal.wholePart decimal.fractionPart decimal.exponentPart
      · rintro ⟨hsign, hrest⟩
        cases negative with
        | true => cases hsign
        | false => exact decimal.parts_ne_nil (by simpa using hother) hrest
      · cases negative with
        | false => exact .inl rfl
        | true => exact .inr rfl

/-- Where the point stands is the size of the value. -/
theorem value_bounds : (10 : ℚ) ^ (decimal.scale - 1) ≤ decimal.value ∧
    decimal.value < 10 ^ decimal.scale := by
  have hpositive := decimal.positive
  have hpower : (0 : ℚ) < 10 ^ (decimal.scale - decimal.count) := zpow_pos (by norm_num) _
  have hsplit (exponent : ℤ) : (10 : ℚ) ^ exponent =
      10 ^ (exponent - (decimal.scale - decimal.count)) *
        10 ^ (decimal.scale - decimal.count) := by
    rw [← zpow_add₀ (by norm_num)]
    congr 1
    omega
  constructor
  · have hatLeast : ((10 : ℚ) ^ (decimal.count - 1)) ≤ decimal.digits := by
      exact_mod_cast decimal.atLeast
    have hexponent : decimal.scale - 1 - (decimal.scale - decimal.count) =
        ((decimal.count - 1 : ℕ) : ℤ) := by omega
    rw [hsplit, hexponent, zpow_natCast]
    exact mul_le_mul_of_nonneg_right hatLeast hpower.le
  · have hatMost : (decimal.digits : ℚ) < 10 ^ decimal.count := by
      exact_mod_cast decimal.atMost
    have hexponent : decimal.scale - (decimal.scale - decimal.count) =
        ((decimal.count : ℕ) : ℤ) := by omega
    rw [hsplit decimal.scale, hexponent, zpow_natCast]
    exact mul_lt_mul_of_pos_right hatMost hpower

/-- One value is written with one number of digits in one way. -/
theorem digits_eq_of_value_eq {decimal other : ScaledDigits} (hcount : decimal.count = other.count)
    (h : decimal.value = other.value) : decimal.digits = other.digits := by
  have hscale (first second : ScaledDigits) (hsame : first.value = second.value) :
      first.scale ≤ second.scale := by
    by_contra hless
    have hbounds := first.value_bounds
    have hothers := second.value_bounds
    have hpowers : (10 : ℚ) ^ second.scale ≤ 10 ^ (first.scale - 1) :=
      zpow_le_zpow_right₀ (by norm_num) (by omega)
    linarith
  have heq := le_antisymm (hscale decimal other h) (hscale other decimal h.symm)
  rw [value, value, heq, hcount] at h
  exact_mod_cast mul_right_cancel₀ (zpow_ne_zero _ (by norm_num)) h

end ScaledDigits

/-- A double is rounded from its own value. -/
theorem Double.roundedFrom_value (x : Double) : x.RoundedFrom x.value := by
  have hpower (exponent : ℤ) : (0 : ℚ) < 2 ^ exponent := zpow_pos (by norm_num) _
  have hhalf : (2 : ℚ) ^ x.exponent = 2 * 2 ^ (x.exponent - 1) := by
    rw [zpow_sub_one₀ (by norm_num)]
    ring
  have hquarter : (2 : ℚ) ^ x.exponent = 4 * 2 ^ (x.exponent - 2) := by
    rw [zpow_sub₀ (by norm_num)]
    ring
  refine .inl ⟨?_, ?_⟩
  · rw [lower, value]
    split
    · rw [hquarter]
      linarith [hpower (x.exponent - 2)]
    · rw [hhalf]
      linarith [hpower (x.exponent - 1)]
  · rw [upper, value, hhalf]
    linarith [hpower (x.exponent - 1)]

/-- One digit that is the value of a double is what is printed of it. -/
theorem ScaledDigits.writes_of_value_eq {decimal : ScaledDigits} {x : Double}
    (hcount : decimal.count = 1) (hvalue : decimal.value = x.value) : decimal.Writes x where
  rounded := hvalue ▸ x.roundedFrom_value
  shortest other _ := hcount ▸ other.positive
  closest other _ _ := by
    rw [hvalue, sub_self, abs_zero]
    exact abs_nonneg _
  even other _ hsame hclose := by
    rw [hvalue, sub_self, abs_zero, eq_comm, abs_eq_zero, sub_eq_zero, ← hvalue] at hclose
    exact .inl (digits_eq_of_value_eq hsame hclose)

theorem JsNumber.IsFinite.legible {number : JsNumber} (h : number.IsFinite) :
    JsonText.LegibleNumber number := by
  obtain rfl | ⟨x, decimal, negative, -, rfl⟩ := h
  · exact trivial
  · exact decimal.legibleNumber negative

/-- A digit is printed as itself, here where it is a multiple of a power of two. -/
theorem JsNumber.IsFinite.digit {digit : ℕ} (exponent : ℤ) (hpositive : 0 < digit)
    (hdigit : digit < 10) (hlowest : -1074 ≤ exponent) (hhighest : exponent ≤ 971)
    (hvalue : (digit : ℚ) = 2 ^ 52 * 2 ^ exponent) : (JsNumber.natural digit).IsFinite := by
  let x : Double :=
    ⟨2 ^ 52, exponent, by decide, by decide, hlowest, hhighest, .inl (Nat.le_refl _)⟩
  let decimal : ScaledDigits := ⟨digit, 1, 1, by decide, hpositive, hdigit⟩
  have hsame : decimal.value = x.value := by
    rw [ScaledDigits.value, Double.value]
    show (digit : ℚ) * 10 ^ ((1 : ℤ) - (1 : ℕ)) = ((2 ^ 52 : ℕ) : ℚ) * 2 ^ exponent
    rw [hvalue]
    norm_num
  exact .inr ⟨x, decimal, false, ScaledDigits.writes_of_value_eq rfl hsame, by
    simp [ScaledDigits.number, decimal]⟩

/-! ## The members of objects -/

/-- The array index a name is, its numeral below `2 ^ 32 - 1`. -/
def maybeArrayIndex (name : CodeUnits) : Option ℕ :=
  let value := name.foldl (fun value unit => 10 * value + (unit.toNat - 48)) 0
  if name = CodeUnits.ofString value.repr ∧ value < 2 ^ 32 - 1 then some value else none

def isArrayIndex (name : CodeUnits) : Bool := (maybeArrayIndex name).isSome

/-- Whether `Object.entries` can give one name before another: array indices come first and in
their order, the other names as they were inserted. -/
def EntryOrder (left right : CodeUnits) : Prop :=
  match maybeArrayIndex left, maybeArrayIndex right with
  | some left, some right => left < right
  | some _, none => True
  | none, some _ => False
  | none, none => True

theorem entryOrder_of_not_index {left right : CodeUnits} (hright : isArrayIndex right = false) :
    EntryOrder left right := by
  rw [isArrayIndex, Option.isSome_eq_false_iff, Option.isNone_iff_eq_none] at hright
  rw [EntryOrder, hright]
  cases maybeArrayIndex left
  · trivial
  · trivial

namespace JsonText

mutual

/-- A value of JSON as the language holds it: its numbers are finite, and an object has a name
once and its names in their order. -/
def IsJson : JsValue → Prop
  | .undefined => False
  | .number number => number.IsFinite
  | .array elements => IsJsonElements elements
  | .object members => ((members.map Prod.fst).Nodup ∧
      (members.map Prod.fst).Pairwise EntryOrder) ∧ IsJsonMembers members
  | _ => True

def IsJsonElements : List JsValue → Prop
  | [] => True
  | element :: elements => IsJson element ∧ IsJsonElements elements

def IsJsonMembers : List (CodeUnits × JsValue) → Prop
  | [] => True
  | (_, value) :: members => IsJson value ∧ IsJsonMembers members

end

theorem isJsonElements_iff {elements : List JsValue} :
    IsJsonElements elements ↔ ∀ element ∈ elements, IsJson element := by
  induction elements with
  | nil => simp [IsJsonElements]
  | cons element elements ih => simp [IsJsonElements, ih]

theorem isJsonMembers_iff {members : List (CodeUnits × JsValue)} :
    IsJsonMembers members ↔ ∀ member ∈ members, IsJson member.2 := by
  induction members with
  | nil => simp [IsJsonMembers]
  | cons member members ih => simp [IsJsonMembers, ih]

/-- Such a value is read back from its text. -/
theorem IsJson.legible {value : JsValue} (h : IsJson value) : Legible value := by
  induction value using JsValue.inductionOn with
  | undefined => exact h
  | null => exact trivial
  | bool value => exact trivial
  | number number => exact JsNumber.IsFinite.legible h
  | string units => exact trivial
  | array elements ih =>
      exact legibleElements_iff.mpr fun element hmem =>
        ih element hmem (isJsonElements_iff.mp h element hmem)
  | object members ih =>
      exact legibleMembers_iff.mpr fun member hmem =>
        ih member hmem (isJsonMembers_iff.mp h.2 member hmem)

theorem IsJson.settled {value : JsValue} (h : IsJson value) : Settled value := by
  induction value using JsValue.inductionOn with
  | undefined => exact trivial
  | null => exact trivial
  | bool value => exact trivial
  | number number => exact trivial
  | string units => exact trivial
  | array elements ih =>
      exact settledElements_iff.mpr fun element hmem =>
        ih element hmem (isJsonElements_iff.mp h element hmem)
  | object members ih =>
      exact ⟨h.1.1, settledMembers_iff.mpr fun member hmem =>
        ih member hmem (isJsonMembers_iff.mp h.2 member hmem)⟩

end JsonText

end WorkGate.Library
