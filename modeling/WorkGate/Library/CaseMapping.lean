/-
# Case mapping of Unicode texts

A language maps the case of a whole text by the tables of the Unicode Character Database.  The
tables grow with its versions; what a program may rely on is what no version changes.  ASCII
letters map to ASCII letters, and of the other characters only the Kelvin sign has an ASCII
text as its lower case.
-/

import Mathlib.Data.List.Basic
import Mathlib.Tactic.Common

namespace WorkGate.Library

/-- The sign of the unit, a character of its own with the look of a capital letter. -/
def kelvinSign : Char := Char.ofNat 0x212A

/-- The mappings of one version of the database, the context of a final sigma apart. -/
structure CaseTable where
  lower : Char → List Char
  upper : Char → List Char
  isCased : Char → Bool
  isCaseIgnorable : Char → Bool
  lower_ascii : ∀ letter : Char, letter.toNat < 128 → lower letter = [letter.toLower]
  upper_ascii : ∀ letter : Char, letter.toNat < 128 → upper letter = [letter.toUpper]
  lower_kelvinSign : lower kelvinSign = ['k']
  upper_kelvinSign : upper kelvinSign = [kelvinSign]
  lower_other : ∀ letter : Char, 128 ≤ letter.toNat → letter ≠ kelvinSign →
    ∃ image ∈ lower letter, 128 ≤ image.toNat

namespace CaseTable

variable (table : CaseTable)

/-- A cased character comes first, case-ignorable ones aside. -/
def startsCased (letters : List Char) : Bool :=
  (letters.takeWhile table.isCaseIgnorable).any table.isCased ||
    (letters.dropWhile table.isCaseIgnorable).head?.any table.isCased

/-- The lower case of one character, after the reversed text `before` and before `after`. -/
def lowerIn (before : List Char) (letter : Char) (after : List Char) : List Char :=
  if letter = 'Σ' ∧ table.startsCased before ∧ ¬ table.startsCased after then ['ς']
  else table.lower letter

def lowerAfter (before : List Char) : List Char → List Char
  | [] => []
  | letter :: after => table.lowerIn before letter after ++ lowerAfter (letter :: before) after

/-- The lower case of a text. -/
def toLowerCase (text : List Char) : List Char := table.lowerAfter [] text

/-- The upper case of a text. -/
def toUpperCase (text : List Char) : List Char := text.flatMap table.upper

end CaseTable

/-- The letter a character is written like, as far as ASCII goes. -/
def plainLetter (letter : Char) : Char := if letter = kelvinSign then 'K' else letter

theorem plainLetter_kelvinSign : plainLetter kelvinSign = 'K' := if_pos rfl

theorem plainLetter_of_ne {letter : Char} (h : letter ≠ kelvinSign) :
    plainLetter letter = letter := if_neg h

namespace CaseTable

variable (table : CaseTable)

/-- The characters whose lower case is an ASCII text. -/
def IsPlain (letter : Char) : Prop := letter.toNat < 128 ∨ letter = kelvinSign

theorem lowerIn_of_isPlain {letter : Char} (h : IsPlain letter) (before after : List Char) :
    table.lowerIn before letter after = [(plainLetter letter).toLower] := by
  have hsigma : letter ≠ 'Σ' := by
    rintro rfl
    revert h
    rw [IsPlain]
    decide
  rw [lowerIn, if_neg fun hfinal => hsigma hfinal.1]
  rcases h with hlow | rfl
  · have hne : letter ≠ kelvinSign := by
      rintro rfl
      exact absurd hlow (by decide)
    rw [plainLetter_of_ne hne, table.lower_ascii letter hlow]
  · rw [plainLetter_kelvinSign, table.lower_kelvinSign]
    rfl

/-- Every other character keeps the text out of ASCII. -/
theorem exists_lowerIn_of_not_isPlain {letter : Char} (h : ¬ IsPlain letter)
    (before after : List Char) : ∃ image ∈ table.lowerIn before letter after,
      128 ≤ image.toNat := by
  obtain ⟨hhigh, hne⟩ := not_or.mp h
  rw [lowerIn]
  split
  · exact ⟨'ς', List.mem_singleton_self _, by decide⟩
  · exact table.lower_other letter (Nat.le_of_not_lt hhigh) hne

theorem lowerAfter_of_isPlain {text : List Char} (h : ∀ letter ∈ text, IsPlain letter)
    (before : List Char) :
    table.lowerAfter before text = text.map fun letter => (plainLetter letter).toLower := by
  induction text generalizing before with
  | nil => rfl
  | cons letter text ih =>
      rw [List.forall_mem_cons] at h
      rw [lowerAfter, table.lowerIn_of_isPlain h.1, ih h.2, List.map_cons, List.singleton_append]

theorem forall_isPlain_of_lowerAfter {text before : List Char}
    (h : ∀ image ∈ table.lowerAfter before text, image.toNat < 128) :
    ∀ letter ∈ text, IsPlain letter := by
  induction text generalizing before with
  | nil =>
      intro letter hletter
      cases hletter
  | cons letter text ih =>
      rw [lowerAfter, List.forall_mem_append] at h
      rw [List.forall_mem_cons]
      constructor
      · by_contra hother
        obtain ⟨image, himage, hhigh⟩ := table.exists_lowerIn_of_not_isPlain hother before text
        exact absurd (h.1 image himage) (Nat.not_lt.mpr hhigh)
      · exact ih h.2

/-- The texts whose lower case is an ASCII text, and what it is. -/
theorem toLowerCase_eq_iff {text lowered : List Char}
    (hlowered : ∀ letter ∈ lowered, letter.toNat < 128) : table.toLowerCase text = lowered ↔
      (∀ letter ∈ text, IsPlain letter) ∧
        (text.map plainLetter).map Char.toLower = lowered := by
  rw [List.map_map]
  constructor
  · rintro rfl
    have hplain := table.forall_isPlain_of_lowerAfter hlowered
    exact ⟨hplain, (table.lowerAfter_of_isPlain hplain []).symm⟩
  · rintro ⟨hplain, rfl⟩
    exact table.lowerAfter_of_isPlain hplain []

theorem toUpperCase_of_isPlain {text : List Char} (h : ∀ letter ∈ text, IsPlain letter) :
    table.toUpperCase text = text.map Char.toUpper := by
  induction text with
  | nil => rfl
  | cons letter text ih =>
      rw [List.forall_mem_cons] at h
      rw [toUpperCase] at ih ⊢
      rw [List.flatMap_cons, List.map_cons, ih h.2]
      rcases h.1 with hlow | rfl
      · rw [table.upper_ascii letter hlow, List.singleton_append]
      · rw [table.upper_kelvinSign, List.singleton_append]
        rfl

/-- A text of these characters is its own lower case when its plain letters are theirs. -/
theorem eq_toLowerCase_iff {text : List Char} (h : ∀ letter ∈ text, IsPlain letter) :
    text = table.toLowerCase text ↔
      text.map plainLetter = (text.map plainLetter).map Char.toLower := by
  rw [toLowerCase, table.lowerAfter_of_isPlain h, List.map_map]
  nth_rewrite 1 [← List.map_id text]
  rw [List.map_inj_left, List.map_inj_left]
  apply forall₂_congr
  intro letter _
  by_cases hkelvin : letter = kelvinSign
  · rw [hkelvin, Function.comp_apply, plainLetter_kelvinSign]
    decide
  · rw [Function.comp_apply, plainLetter_of_ne hkelvin, id]

/-- It is its own upper case when its plain letters are theirs. -/
theorem eq_toUpperCase_iff {text : List Char} (h : ∀ letter ∈ text, IsPlain letter) :
    text = table.toUpperCase text ↔
      text.map plainLetter = (text.map plainLetter).map Char.toUpper := by
  rw [table.toUpperCase_of_isPlain h, List.map_map]
  nth_rewrite 1 [← List.map_id text]
  rw [List.map_inj_left, List.map_inj_left]
  apply forall₂_congr
  intro letter _
  by_cases hkelvin : letter = kelvinSign
  · rw [hkelvin, Function.comp_apply, plainLetter_kelvinSign]
    decide
  · rw [Function.comp_apply, plainLetter_of_ne hkelvin, id]

end CaseTable

end WorkGate.Library
