/-
# Canonical JSON of the Worker's values (web/headless-values.ts)

The names the Worker's records have are of ASCII letters and digits.  `localeCompare` orders such
names by their letters and digits first and by the case of the letters where nothing else decides,
so no two of them tie, and the canonical text tells two values apart unless they are equal up to
the order of members.
-/

import WorkGate.Headless.CanonicalJson

namespace WorkGate

open WorkGate.Library
open WorkGate.Library.JsonText

/-! ## The order of names -/

/-- What a code unit counts for before letter case does: the digits come first, then the letters. -/
def collationWeight (unit : UInt16) : ℕ :=
  if 65 ≤ unit.toNat ∧ unit.toNat ≤ 90 then unit.toNat + 32 else unit.toNat

/-- The lower-case letter comes first where nothing else decides. -/
def caseWeight (unit : UInt16) : ℕ := if 65 ≤ unit.toNat ∧ unit.toNat ≤ 90 then 1 else 0

/-- Whether a list of weights comes no later than another. -/
def weightsAtMost : List ℕ → List ℕ → Bool
  | [], _ => true
  | _ :: _, [] => false
  | left :: lefts, right :: rights =>
      if left = right then weightsAtMost lefts rights else left < right

/-- `left.localeCompare(right) <= 0`, for names of ASCII letters and digits. -/
def localeAtMost (left right : CodeUnits) : Bool :=
  if left.map collationWeight = right.map collationWeight then
    weightsAtMost (left.map caseWeight) (right.map caseWeight)
  else weightsAtMost (left.map collationWeight) (right.map collationWeight)

theorem weightsAtMost_total (left right : List ℕ) :
    weightsAtMost left right = true ∨ weightsAtMost right left = true := by
  fun_induction weightsAtMost left right with
  | case1 right => exact .inl rfl
  | case2 left lefts => exact .inr rfl
  | case3 left lefts rights ih => simpa [weightsAtMost] using ih
  | case4 left lefts right rights hne =>
      rw [weightsAtMost, if_neg fun heq => hne heq.symm, decide_eq_true_iff, decide_eq_true_iff]
      omega

theorem weightsAtMost_antisymm {left right : List ℕ} (hleft : weightsAtMost left right = true)
    (hright : weightsAtMost right left = true) : left = right := by
  fun_induction weightsAtMost left right with
  | case1 right =>
      cases right with
      | nil => rfl
      | cons weight weights => cases hright
  | case2 left lefts => cases hleft
  | case3 left lefts rights ih =>
      rw [weightsAtMost, if_pos rfl] at hright
      rw [ih hleft hright]
  | case4 left lefts right rights hne =>
      rw [weightsAtMost, if_neg fun heq => hne heq.symm, decide_eq_true_iff] at hright
      rw [decide_eq_true_iff] at hleft
      omega

theorem weightsAtMost_trans {left middle right : List ℕ}
    (hleft : weightsAtMost left middle = true) (hright : weightsAtMost middle right = true) :
    weightsAtMost left right = true := by
  induction left generalizing middle right with
  | nil => rfl
  | cons first lefts ih =>
      cases middle with
      | nil => cases hleft
      | cons second middles =>
          cases right with
          | nil => cases hright
          | cons third rights =>
              rw [weightsAtMost] at hleft hright ⊢
              split at hleft
              · next heq =>
                  subst heq
                  split at hright
                  · next hsame =>
                      rw [if_pos hsame]
                      exact ih hleft hright
                  · next hother =>
                      rw [if_neg hother]
                      exact hright
              · split at hright
                · next hne heq =>
                    subst heq
                    rw [if_neg hne]
                    exact hleft
                · rw [decide_eq_true_iff] at hleft hright
                  rw [if_neg (by omega), decide_eq_true_iff]
                  omega

/-- The order of names of ASCII letters and digits. -/
def asciiCollation : Headless.Collation where
  atMost := localeAtMost
  total left right := by
    by_cases heq : left.map collationWeight = right.map collationWeight
    · rw [localeAtMost, localeAtMost, if_pos heq, if_pos heq.symm]
      exact weightsAtMost_total _ _
    · rw [localeAtMost, localeAtMost, if_neg heq, if_neg fun h => heq h.symm]
      exact weightsAtMost_total _ _
  trans left middle right hleft hright := by
    simp only [localeAtMost] at hleft hright ⊢
    split at hleft
    · next heq =>
        rw [heq]
        split at hright
        · next hsame =>
            rw [if_pos hsame]
            exact weightsAtMost_trans hleft hright
        · next hother =>
            rw [if_neg hother]
            exact hright
    · next hne =>
        split at hright
        · next heq =>
            rw [← heq, if_neg hne]
            exact hleft
        · -- Were the first and the last alike, the second would be between them.
          have hdifferent : left.map collationWeight ≠ right.map collationWeight := by
            intro heq
            rw [← heq] at hright
            exact hne (weightsAtMost_antisymm hleft hright)
          rw [if_neg hdifferent]
          exact weightsAtMost_trans hleft hright

/-- `canonicalJson`. -/
def canonicalJson (value : JsValue) : List Char := asciiCollation.canonicalJson value

/-- The value with the members of its objects in that order. -/
def canonical (value : JsValue) : JsValue := asciiCollation.canonical value

theorem canonicalJson_eq_print (value : JsValue) : canonicalJson value = print (canonical value) :=
  asciiCollation.canonicalJson_eq_print value

section Sorting

variable {α : Type}

theorem lookup_cons_eq (entry : CodeUnits × α) (entries : List (CodeUnits × α))
    (name : CodeUnits) : (entry :: entries).lookup name =
      if name = entry.1 then some entry.2 else entries.lookup name := by
  obtain ⟨key, value⟩ := entry
  by_cases hname : name = key
  · subst hname
    rw [List.lookup_cons_self, if_pos rfl]
  · rw [List.lookup_cons, beq_eq_false_iff_ne.mpr hname]
    exact (if_neg hname).symm

/-- Putting an entry in its place moves no value to another name. -/
theorem lookup_orderedInsert (entry : CodeUnits × α) (entries : List (CodeUnits × α))
    (name : CodeUnits) : (entries.orderedInsert asciiCollation.Before entry).lookup name =
      (entry :: entries).lookup name := by
  induction entries with
  | nil => rfl
  | cons other entries ih =>
      rw [List.orderedInsert_cons]
      split
      · rfl
      · next hafter =>
          rw [lookup_cons_eq, ih]
          simp only [lookup_cons_eq]
          by_cases hentry : name = entry.1
          · -- An entry of the same name would have come no later.
            have hother : name ≠ other.1 := by
              intro hother
              obtain hself | hself := asciiCollation.total entry.1 entry.1
              all_goals exact hafter (by rwa [Headless.Collation.Before, ← hother, hentry])
            rw [if_neg hother, if_pos hentry, if_pos hentry]
          · rw [if_neg hentry, if_neg hentry]

/-- Sorting moves no value to another name. -/
theorem lookup_sortEntries (entries : List (CodeUnits × α)) (name : CodeUnits) :
    (asciiCollation.sortEntries entries).lookup name = entries.lookup name := by
  induction entries with
  | nil => rfl
  | cons entry entries ih =>
      rw [Headless.Collation.sortEntries, List.insertionSort_cons, lookup_orderedInsert,
        lookup_cons_eq, lookup_cons_eq, ← ih]
      rfl

end Sorting

/-! ## What the canonical text tells apart -/

theorem printableMembers_iff {members : List (CodeUnits × JsValue)} :
    PrintableMembers members ↔ ∀ member ∈ members, Printable member.2 := by
  induction members with
  | nil => simp [PrintableMembers]
  | cons member members ih =>
      obtain ⟨key, value⟩ := member
      rw [PrintableMembers, ih, List.forall_mem_cons]

mutual

/-- Reordering the members of an object loses none of them. -/
theorem printable_canonical : ∀ value, Printable value → Printable (canonical value)
  | .undefined, h => h
  | .null, h => h
  | .bool _, h => h
  | .number _, h => h
  | .string _, h => h
  | .array elements, h => printable_canonicalArray elements h
  | .object members, h => by
      have hmembers := printableMembers_iff.mp (printable_canonicalObject members h)
      rw [canonical, Headless.Collation.canonical, Printable]
      apply printableMembers_iff.mpr
      intro member hmem
      exact hmembers member ((asciiCollation.mem_sortEntries).mp hmem)

theorem printable_canonicalArray : ∀ elements, PrintableElements elements →
    PrintableElements (asciiCollation.canonicalArray elements)
  | [], h => h
  | element :: elements, h =>
      ⟨printable_canonical element h.1, printable_canonicalArray elements h.2⟩

theorem printable_canonicalObject : ∀ members, PrintableMembers members →
    PrintableMembers (asciiCollation.canonicalObject members)
  | [], h => h
  | (key, value) :: members, h => by
      have hvalue := printable_canonical value h.1
      have hmembers := printable_canonicalObject members h.2
      rw [asciiCollation.canonicalObject_eq_map (PrintableMembers.legible _ h)]
      rw [asciiCollation.canonicalObject_eq_map (PrintableMembers.legible _ h.2)] at hmembers
      exact ⟨hvalue, hmembers⟩

end

/-- Two values with one canonical text are one up to the order of members. -/
theorem canonicalJson_inj {first second : JsValue} (hfirst : Printable first)
    (hsecond : Printable second) (h : canonicalJson first = canonicalJson second) :
    canonical first = canonical second := by
  rw [canonicalJson_eq_print, canonicalJson_eq_print] at h
  exact print_injective (printable_canonical first hfirst) (printable_canonical second hsecond) h

/-- A member of an object, by its name. -/
def maybeMember (value : JsValue) (key : CodeUnits) : Option JsValue :=
  match value with
  | .object members => members.lookup key
  | _ => none

theorem lookup_map_canonical (members : List (CodeUnits × JsValue)) (key : CodeUnits) :
    (members.map (Prod.map id canonical)).lookup key = (members.lookup key).map canonical := by
  induction members with
  | nil => rfl
  | cons member members ih =>
      rw [List.map_cons, lookup_cons_eq, lookup_cons_eq, ih]
      by_cases hkey : key = member.1
      · rw [if_pos hkey]
        exact if_pos hkey
      · rw [if_neg hkey]
        exact if_neg hkey

/-- Every member keeps its name. -/
theorem maybeMember_canonical {value : JsValue} (hprintable : Printable value) (key : CodeUnits) :
    maybeMember (canonical value) key = (maybeMember value key).map canonical := by
  cases value with
  | object members =>
      show (asciiCollation.sortEntries (asciiCollation.canonicalObject members)).lookup key =
        (members.lookup key).map canonical
      rw [lookup_sortEntries,
        asciiCollation.canonicalObject_eq_map (PrintableMembers.legible _ hprintable)]
      exact lookup_map_canonical members key
  | undefined => rfl
  | null => rfl
  | bool value => rfl
  | number value => rfl
  | string units => rfl
  | array elements => rfl

end WorkGate
