/-
# Canonical JSON (web/headless-values.ts)

`canonicalJson` prints the members of every object in the order `localeCompare` gives their names
and leaves out those that are `undefined`.  What it prints is the JSON text of the value with its
objects rearranged that way.
-/

import Mathlib.Data.List.Sort
import WorkGate.Library.JsonText

namespace WorkGate.Headless

open WorkGate.Library
open WorkGate.Library.JsonText

/-- The order of a language: `left.localeCompare(right) <= 0`. -/
structure Collation where
  atMost : CodeUnits → CodeUnits → Bool
  total : ∀ left right, atMost left right = true ∨ atMost right left = true
  trans : ∀ left middle right, atMost left middle = true → atMost middle right = true →
    atMost left right = true

namespace Collation

variable (collation : Collation)

/-! ## Sorting -/

section Sorting

variable {α β : Type}

def Before (left right : CodeUnits × α) : Prop := collation.atMost left.1 right.1 = true

instance : DecidableRel (collation.Before (α := α)) :=
  fun left right => inferInstanceAs (Decidable (collation.atMost left.1 right.1 = true))

instance : Std.Total (collation.Before (α := α)) := ⟨fun left right => collation.total left.1 right.1⟩

instance : IsTrans (CodeUnits × α) collation.Before :=
  ⟨fun left middle right => collation.trans left.1 middle.1 right.1⟩

/-- `sort(([left], [right]) => left.localeCompare(right))`, which is stable. -/
def sortEntries (entries : List (CodeUnits × α)) : List (CodeUnits × α) :=
  entries.insertionSort collation.Before

theorem map_sortEntries (f : α → β) (entries : List (CodeUnits × α)) :
    (collation.sortEntries entries).map (Prod.map id f) =
      collation.sortEntries (entries.map (Prod.map id f)) := by
  apply List.map_insertionSort
  intro _ _ _ _
  rfl

theorem perm_sortEntries (entries : List (CodeUnits × α)) :
    (collation.sortEntries entries).Perm entries := List.perm_insertionSort _ entries

theorem mem_sortEntries {found : CodeUnits × α} {entries : List (CodeUnits × α)} :
    found ∈ collation.sortEntries entries ↔ found ∈ entries :=
  (collation.perm_sortEntries entries).mem_iff

end Sorting

/-! ## Printing -/

mutual

/-- `canonicalJson`. -/
def canonicalJson : JsValue → List Char
  | .array elements => '[' :: ([','].intercalate (canonicalElements elements) ++ [']'])
  | .object members =>
      '{' :: ([','].intercalate ((collation.sortEntries (canonicalMembers members)).map fun entry =>
        quote entry.1 ++ ':' :: entry.2) ++ ['}'])
  | value => print value

/-- `value.map(canonicalJson)`. -/
def canonicalElements : List JsValue → List (List Char)
  | [] => []
  | element :: elements => canonicalJson element :: canonicalElements elements

/-- `Object.entries(value)` without those that are `undefined`, each with its text. -/
def canonicalMembers : List (CodeUnits × JsValue) → List (CodeUnits × List Char)
  | [] => []
  | (_, .undefined) :: members => canonicalMembers members
  | (key, value) :: members => (key, canonicalJson value) :: canonicalMembers members

end

mutual

/-- The value with the members of its objects in that order. -/
def canonical : JsValue → JsValue
  | .array elements => .array (canonicalArray elements)
  | .object members => .object (collation.sortEntries (canonicalObject members))
  | value => value

def canonicalArray : List JsValue → List JsValue
  | [] => []
  | element :: elements => canonical element :: canonicalArray elements

def canonicalObject : List (CodeUnits × JsValue) → List (CodeUnits × JsValue)
  | [] => []
  | (_, .undefined) :: members => canonicalObject members
  | (key, value) :: members => (key, canonical value) :: canonicalObject members

end

mutual

/-- The canonical text is the text of the canonical value. -/
theorem canonicalJson_eq_print :
    ∀ value, collation.canonicalJson value = print (collation.canonical value)
  | .undefined => rfl
  | .null => rfl
  | .bool _ => rfl
  | .number _ => rfl
  | .string _ => rfl
  | .array elements => by
      rw [canonicalJson, canonical, print_array, canonicalElements_eq_map elements]
  | .object members => by
      rw [canonicalJson, canonical, print_object, canonicalMembers_eq_map members,
        ← map_sortEntries, List.map_map]
      rfl

theorem canonicalElements_eq_map : ∀ elements,
    collation.canonicalElements elements = (collation.canonicalArray elements).map print
  | [] => rfl
  | element :: elements => by
      rw [canonicalElements, canonicalArray, List.map_cons, canonicalJson_eq_print element,
        canonicalElements_eq_map elements]

theorem canonicalMembers_eq_map : ∀ members,
    collation.canonicalMembers members =
      (collation.canonicalObject members).map (Prod.map id print)
  | [] => rfl
  | (key, value) :: members => by
      have hvalue := canonicalJson_eq_print value
      have hmembers := canonicalMembers_eq_map members
      cases value <;> simp only [canonicalMembers, canonicalObject, List.map_cons, Prod.map_apply,
        id_eq, hvalue, hmembers]

end

theorem canonicalArray_eq_map (elements : List JsValue) :
    collation.canonicalArray elements = elements.map collation.canonical := by
  induction elements with
  | nil => rfl
  | cons element elements ih => rw [canonicalArray, ih, List.map_cons]

/-- An object without undefined members keeps all of them. -/
theorem canonicalObject_eq_map {members : List (CodeUnits × JsValue)}
    (hlegible : LegibleMembers members) :
    collation.canonicalObject members = members.map (Prod.map id collation.canonical) := by
  induction members with
  | nil => rfl
  | cons member members ih =>
      obtain ⟨key, value⟩ := member
      have hmembers := ih hlegible.2
      have hvalue : value ≠ .undefined := by
        rintro rfl
        exact hlegible.1
      rw [canonicalObject, hmembers, List.map_cons, Prod.map_apply, id_eq]
      exact hvalue

end Collation

end WorkGate.Headless
