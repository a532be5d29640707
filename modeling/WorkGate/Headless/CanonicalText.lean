/-
# What a canonical text is the text of (web/headless-values.ts)

`canonicalJson` puts the members of every object in the order `localeCompare` gives their names.
That order is the one of a language: it may tie names that are not the same, such as a letter with
an accent and the letter followed by the accent.  Tied members stay as `Object.entries` gives them:
array indices first and in their order, which no insertion changes, the others as they were
inserted.  So the text of a value depends on the order of insertion where two names tie that are no
array indices, and only there.
-/

import Mathlib.Data.List.Lex
import Mathlib.Data.List.Pairwise
import Mathlib.Data.Multiset.Basic
import WorkGate.Headless.CanonicalJson
import WorkGate.Library.JsValues

namespace WorkGate.Headless

open WorkGate.Library
open WorkGate.Library.JsonText

namespace Collation

variable (collation : Collation)

/-! ## Ties -/

section Sorting

variable {α : Type}

/-- Names the order does not tell apart. -/
def Ties (left right : CodeUnits) : Prop :=
  collation.atMost left right = true ∧ collation.atMost right left = true

instance : DecidableRel collation.Ties :=
  fun _ _ => inferInstanceAs (Decidable (_ ∧ _))

theorem ties_comm (left right : CodeUnits) : collation.Ties left right ↔ collation.Ties right left :=
  and_comm

/-- Entries without ties are sorted in one way. -/
theorem sortEntries_eq_of_perm {first second : List (CodeUnits × α)} (hperm : first.Perm second)
    (huntied : first.Pairwise fun left right => ¬ collation.Ties left.1 right.1) :
    collation.sortEntries first = collation.sortEntries second := by
  have hsorts : (collation.sortEntries first).Perm (collation.sortEntries second) :=
    ((collation.perm_sortEntries first).trans hperm).trans (collation.perm_sortEntries second).symm
  apply hsorts.eq_of_pairwise _ (List.pairwise_insertionSort _ first)
    (List.pairwise_insertionSort _ second)
  intro left right hleft hright hbefore hafter
  have hleftMem : left ∈ first := (collation.perm_sortEntries first).mem_iff.mp hleft
  have hrightMem : right ∈ first :=
    hperm.mem_iff.mpr ((collation.perm_sortEntries second).mem_iff.mp hright)
  by_contra hdifferent
  have hsymmetric : Std.Symm fun left right : CodeUnits × α => ¬ collation.Ties left.1 right.1 :=
    ⟨fun left right h => mt (collation.ties_comm right.1 left.1).mp h⟩
  exact huntied.forall hleftMem hrightMem hdifferent ⟨hbefore, hafter⟩

/-- Tied entries stay in their order. -/
theorem filter_sortEntries (key : CodeUnits) (entries : List (CodeUnits × α)) :
    (collation.sortEntries entries).filter (fun entry => collation.Ties key entry.1) =
      entries.filter fun entry => collation.Ties key entry.1 := by
  have hordered : (entries.filter fun entry => collation.Ties key entry.1).Pairwise
      collation.Before := by
    apply List.pairwise_of_forall_mem_list
    intro left hleft right hright
    have hkeyLeft := of_decide_eq_true (List.mem_filter.mp hleft).2
    have hkeyRight := of_decide_eq_true (List.mem_filter.mp hright).2
    exact collation.trans left.1 key right.1 hkeyLeft.2 hkeyRight.1
  have hkept := (List.sublist_insertionSort hordered List.filter_sublist).filter
    fun entry => decide (collation.Ties key entry.1)
  rw [List.filter_filter] at hkept
  simp only [Bool.and_self] at hkept
  have hperm := (collation.perm_sortEntries entries).filter
    fun entry => decide (collation.Ties key entry.1)
  exact (hkept.eq_of_length hperm.length_eq.symm).symm

end Sorting

/-! ## Array indices first -/

/-- Whether a name stands no later than another among the names of an object, as far as the names
tell. -/
def entryAtMost (left right : CodeUnits) : Bool :=
  match maybeArrayIndex left, maybeArrayIndex right with
  | some left, some right => decide (left ≤ right)
  | some _, none => true
  | none, some _ => false
  | none, none => true

theorem entryAtMost_total (left right : CodeUnits) :
    entryAtMost left right = true ∨ entryAtMost right left = true := by
  rw [entryAtMost, entryAtMost]
  cases maybeArrayIndex left with
  | none =>
      cases maybeArrayIndex right with
      | none => exact .inl rfl
      | some right => exact .inr rfl
  | some left =>
      cases maybeArrayIndex right with
      | none => exact .inl rfl
      | some right => simpa using Nat.le_total left right

theorem entryAtMost_trans {left middle right : CodeUnits} (hleft : entryAtMost left middle = true)
    (hright : entryAtMost middle right = true) : entryAtMost left right = true := by
  rw [entryAtMost] at hleft hright ⊢
  cases hindex : maybeArrayIndex left with
  | none =>
      cases hmiddle : maybeArrayIndex middle with
      | none => simpa [hindex, hmiddle] using hright
      | some middle => simp [hindex, hmiddle] at hleft
  | some left =>
      cases hlast : maybeArrayIndex right with
      | none => rfl
      | some right =>
          cases hmiddle : maybeArrayIndex middle with
          | none => simp [hlast, hmiddle] at hright
          | some middle =>
              simp only [hindex, hmiddle, hlast, decide_eq_true_eq] at hleft hright ⊢
              exact Nat.le_trans hleft hright

theorem entryAtMost_of_order {left right : CodeUnits} (h : EntryOrder left right) :
    entryAtMost left right = true := by
  rw [EntryOrder] at h
  rw [entryAtMost]
  split
  · next hleft hright =>
      rw [hleft, hright] at h
      exact decide_eq_true (Nat.le_of_lt h)
  · rfl
  · next hleft hright =>
      rw [hleft, hright] at h
      exact h.elim
  · rfl

/-- The order in which tied names stand as `Object.entries` gives them, as far as the names tell. -/
def refined : Collation where
  atMost left right :=
    collation.atMost left right && (!collation.atMost right left || entryAtMost left right)
  total left right := by
    simp only [Bool.and_eq_true, Bool.or_eq_true, Bool.not_eq_true']
    cases hleft : collation.atMost left right with
    | false =>
        have hright := (collation.total left right).resolve_left (by rw [hleft]; decide)
        exact .inr ⟨hright, .inl rfl⟩
    | true =>
        cases hright : collation.atMost right left with
        | false => exact .inl ⟨rfl, .inl rfl⟩
        | true =>
            obtain hentry | hentry := entryAtMost_total left right
            · exact .inl ⟨rfl, .inr hentry⟩
            · exact .inr ⟨rfl, .inr hentry⟩
  trans left middle right hleft hright := by
    simp only [Bool.and_eq_true, Bool.or_eq_true, Bool.not_eq_true'] at hleft hright ⊢
    refine ⟨collation.trans _ _ _ hleft.1 hright.1, ?_⟩
    cases hback : collation.atMost right left with
    | false => exact .inl rfl
    | true =>
        have hmiddle := collation.trans _ _ _ hright.1 hback
        have hother := collation.trans _ _ _ hback hleft.1
        right
        apply entryAtMost_trans
        · exact hleft.2.resolve_left (by rw [hmiddle]; decide)
        · exact hright.2.resolve_left (by rw [hother]; decide)

theorem refined_atMost_of_order {left right : CodeUnits} (h : EntryOrder left right) :
    collation.refined.atMost left right = collation.atMost left right := by
  simp [refined, entryAtMost_of_order h]

/-- Names that tie in the refined order are no array indices, or not of one object. -/
theorem not_refined_ties {left right : CodeUnits} (horder : EntryOrder left right)
    (huntied : isArrayIndex left = false → isArrayIndex right = false →
      ¬ collation.Ties left right) : ¬ collation.refined.Ties left right := by
  rintro ⟨hleft, hright⟩
  simp only [refined, Bool.and_eq_true, Bool.or_eq_true, Bool.not_eq_true'] at hleft hright
  have hback : entryAtMost right left = true := hright.2.resolve_left (by rw [hleft.1]; decide)
  rw [EntryOrder] at horder
  rw [entryAtMost] at hback
  cases hindex : maybeArrayIndex left with
  | none =>
      cases hlast : maybeArrayIndex right with
      | none =>
          have hleftName : isArrayIndex left = false := by rw [isArrayIndex, hindex]; rfl
          have hrightName : isArrayIndex right = false := by rw [isArrayIndex, hlast]; rfl
          exact huntied hleftName hrightName ⟨hleft.1, hright.1⟩
      | some right => simp [hindex, hlast] at horder
  | some left =>
      cases hlast : maybeArrayIndex right with
      | none => simp [hindex, hlast] at hback
      | some right =>
          simp only [hindex, hlast, decide_eq_true_eq] at horder hback
          omega

section Sorting

variable {α : Type}

theorem orderedInsert_congr {first second : α → α → Prop} [DecidableRel first]
    [DecidableRel second] {entry : α} {entries : List α}
    (h : ∀ other ∈ entries, first entry other ↔ second entry other) :
    entries.orderedInsert first entry = entries.orderedInsert second entry := by
  induction entries with
  | nil => rfl
  | cons other entries ih =>
      rw [List.forall_mem_cons] at h
      rw [List.orderedInsert_cons, List.orderedInsert_cons, ih h.2]
      by_cases hfirst : first entry other
      · rw [if_pos hfirst, if_pos (h.1.mp hfirst)]
      · rw [if_neg hfirst, if_neg (mt h.1.mpr hfirst)]

/-- Entries as an object gives them are sorted in the refined order. -/
theorem sortEntries_eq_refined {entries : List (CodeUnits × α)}
    (horder : (entries.map Prod.fst).Pairwise EntryOrder) :
    collation.sortEntries entries = collation.refined.sortEntries entries := by
  induction entries with
  | nil => rfl
  | cons entry entries ih =>
      rw [List.map_cons, List.pairwise_cons] at horder
      have hsorted : entries.insertionSort collation.Before =
          entries.insertionSort collation.refined.Before := ih horder.2
      rw [sortEntries, sortEntries, List.insertionSort_cons, List.insertionSort_cons, hsorted]
      apply orderedInsert_congr
      intro other hmem
      have hentry := (collation.refined.mem_sortEntries).mp hmem
      have hnames := horder.1 other.1 (List.mem_map_of_mem hentry)
      rw [Before, Before, collation.refined_atMost_of_order hnames]

end Sorting

end Collation

/-! ## Values up to the order of members -/

/-- Equality of values up to the order of the members of objects, at every depth. -/
inductive Reordered : JsValue → JsValue → Prop
  | refl (value : JsValue) : Reordered value value
  | symm {first second : JsValue} : Reordered first second → Reordered second first
  | trans {first second third : JsValue} : Reordered first second → Reordered second third →
      Reordered first third
  | element (before : List JsValue) {first second : JsValue} (after : List JsValue) :
      Reordered first second →
      Reordered (.array (before ++ first :: after)) (.array (before ++ second :: after))
  | member (before : List (CodeUnits × JsValue)) (key : CodeUnits) {first second : JsValue}
      (after : List (CodeUnits × JsValue)) : Reordered first second →
      Reordered (.object (before ++ (key, first) :: after))
        (.object (before ++ (key, second) :: after))
  | order {first second : List (CodeUnits × JsValue)} : first.Perm second →
      Reordered (.object first) (.object second)

theorem Reordered.legible {first second : JsValue} (h : Reordered first second) :
    Legible first ↔ Legible second := by
  induction h with
  | refl value => rfl
  | symm _ ih => exact ih.symm
  | trans _ _ ih₁ ih₂ => exact ih₁.trans ih₂
  | element before after _ ih =>
      simp only [Legible, legibleElements_iff, List.forall_mem_append, List.forall_mem_cons, ih]
  | member before key after _ ih =>
      simp only [Legible, legibleMembers_iff, List.forall_mem_append, List.forall_mem_cons, ih]
  | order hperm =>
      simp only [Legible, legibleMembers_iff]
      exact forall_congr' fun member => imp_congr_left hperm.mem_iff

theorem Reordered.settled {first second : JsValue} (h : Reordered first second) :
    Settled first ↔ Settled second := by
  induction h with
  | refl value => rfl
  | symm _ ih => exact ih.symm
  | trans _ _ ih₁ ih₂ => exact ih₁.trans ih₂
  | element before after _ ih =>
      simp only [Settled, settledElements_iff, List.forall_mem_append, List.forall_mem_cons, ih]
  | member before key after _ ih =>
      simp only [Settled, settledMembers_iff, List.forall_mem_append, List.forall_mem_cons, ih,
        List.map_append, List.map_cons]
  | order hperm =>
      simp only [Settled, settledMembers_iff, (hperm.map Prod.fst).nodup_iff]
      exact and_congr_right' (forall_congr' fun member => imp_congr_left hperm.mem_iff)

/-- Elements can be reordered inside one after the other. -/
theorem Reordered.elements {f : JsValue → JsValue} {elements : List JsValue}
    (h : ∀ element ∈ elements, Reordered element (f element)) (before : List JsValue) :
    Reordered (.array (before ++ elements)) (.array (before ++ elements.map f)) := by
  induction elements generalizing before with
  | nil => exact .refl _
  | cons element elements ih =>
      rw [List.forall_mem_cons] at h
      have hrest := ih h.2 (before ++ [f element])
      rw [List.append_assoc, List.append_assoc] at hrest
      exact .trans (.element before elements h.1) hrest

theorem Reordered.members {f : JsValue → JsValue} {members : List (CodeUnits × JsValue)}
    (h : ∀ member ∈ members, Reordered member.2 (f member.2))
    (before : List (CodeUnits × JsValue)) :
    Reordered (.object (before ++ members)) (.object (before ++ members.map (Prod.map id f))) := by
  induction members generalizing before with
  | nil => exact .refl _
  | cons member members ih =>
      rw [List.forall_mem_cons] at h
      have hrest := ih h.2 (before ++ [Prod.map id f member])
      rw [List.append_assoc, List.append_assoc] at hrest
      exact .trans (.member before member.1 members h.1) hrest

namespace Collation

variable (collation : Collation)

theorem reordered_canonical {value : JsValue} (hlegible : Legible value) :
    Reordered value (collation.canonical value) := by
  induction value using JsValue.inductionOn with
  | undefined => exact .refl _
  | null => exact .refl _
  | bool value => exact .refl _
  | number value => exact .refl _
  | string units => exact .refl _
  | array elements ih =>
      rw [canonical, canonicalArray_eq_map]
      exact Reordered.elements (fun element hmem =>
        ih element hmem (legibleElements_iff.mp hlegible element hmem)) []
  | object members ih =>
      rw [canonical, canonicalObject_eq_map collation hlegible]
      refine .trans (Reordered.members (fun member hmem => ?_) [])
        (.order (collation.perm_sortEntries _).symm)
      exact ih member hmem (legibleMembers_iff.mp hlegible member hmem)

/-- The text of a value is read as its canonical form. -/
theorem parse_canonicalJson {value : JsValue} (hvalue : IsJson value) :
    parse (String.ofList (collation.canonicalJson value)) = some (collation.canonical value) := by
  have hreordered := collation.reordered_canonical hvalue.legible
  rw [canonicalJson_eq_print, parse_legible (hreordered.legible.mp hvalue.legible),
    settle_of_settled _ (hreordered.settled.mp hvalue.settled)]

/-- So it tells the canonical form. -/
theorem canonicalJson_eq_iff {first second : JsValue} (hfirst : IsJson first)
    (hsecond : IsJson second) : collation.canonicalJson first = collation.canonicalJson second ↔
      collation.canonical first = collation.canonical second := by
  constructor
  · intro h
    have hread := collation.parse_canonicalJson hfirst
    rw [h, collation.parse_canonicalJson hsecond] at hread
    exact (Option.some.inj hread).symm
  · intro h
    rw [canonicalJson_eq_print, canonicalJson_eq_print, h]

/-- A text is that of one value up to the order of members. -/
theorem reordered_of_canonical_eq {first second : JsValue} (hfirst : IsJson first)
    (hsecond : IsJson second) (h : collation.canonical first = collation.canonical second) :
    Reordered first second := by
  have hreordered := collation.reordered_canonical hfirst.legible
  rw [h] at hreordered
  exact hreordered.trans (collation.reordered_canonical hsecond.legible).symm

/-- Objects as the language holds them are put in the refined order. -/
theorem canonical_eq_refined {value : JsValue} (hvalue : IsJson value) :
    collation.canonical value = collation.refined.canonical value := by
  induction value using JsValue.inductionOn with
  | undefined => rfl
  | null => rfl
  | bool value => rfl
  | number value => rfl
  | string units => rfl
  | array elements ih =>
      rw [canonical, canonical, canonicalArray_eq_map, canonicalArray_eq_map]
      congr 1
      exact List.map_congr_left fun element hmem =>
        ih element hmem (isJsonElements_iff.mp hvalue element hmem)
  | object members ih =>
      have hlegible : LegibleMembers members := hvalue.legible
      have hmembers : members.map (Prod.map id collation.canonical) =
          members.map (Prod.map id collation.refined.canonical) := by
        apply List.map_congr_left
        intro member hmem
        exact congrArg (Prod.mk member.1)
          (ih member hmem (isJsonMembers_iff.mp hvalue.2 member hmem))
      rw [canonical, canonical, canonicalObject_eq_map _ hlegible,
        canonicalObject_eq_map _ hlegible, hmembers]
      congr 1
      apply sortEntries_eq_refined
      rw [List.map_map]
      exact hvalue.1.2

/-! ## Values without ties -/

end Collation

mutual

/-- No object of the value has two members with related names. -/
def Apart (related : CodeUnits → CodeUnits → Prop) : JsValue → Prop
  | .array elements => ApartElements related elements
  | .object members =>
      (members.map Prod.fst).Pairwise (fun left right => ¬ related left right) ∧
        ApartMembers related members
  | _ => True

def ApartElements (related : CodeUnits → CodeUnits → Prop) : List JsValue → Prop
  | [] => True
  | element :: elements => Apart related element ∧ ApartElements related elements

def ApartMembers (related : CodeUnits → CodeUnits → Prop) : List (CodeUnits × JsValue) → Prop
  | [] => True
  | (_, value) :: members => Apart related value ∧ ApartMembers related members

end

section Apart

variable {related : CodeUnits → CodeUnits → Prop}

theorem apartElements_iff {elements : List JsValue} :
    ApartElements related elements ↔ ∀ element ∈ elements, Apart related element := by
  induction elements with
  | nil => simp [ApartElements]
  | cons element elements ih => simp [ApartElements, ih]

theorem apartMembers_iff {members : List (CodeUnits × JsValue)} :
    ApartMembers related members ↔ ∀ member ∈ members, Apart related member.2 := by
  induction members with
  | nil => simp [ApartMembers]
  | cons member members ih => simp [ApartMembers, ih]

theorem Reordered.apart {first second : JsValue} (h : Reordered first second)
    (hsymm : ∀ {left right}, related left right → related right left) :
    Apart related first ↔ Apart related second := by
  induction h with
  | refl value => rfl
  | symm _ ih => exact ih.symm
  | trans _ _ ih₁ ih₂ => exact ih₁.trans ih₂
  | element before after _ ih =>
      simp only [Apart, apartElements_iff, List.forall_mem_append, List.forall_mem_cons, ih]
  | member before key after _ ih =>
      simp only [Apart, apartMembers_iff, List.forall_mem_append, List.forall_mem_cons, ih,
        List.map_append, List.map_cons]
  | order hperm =>
      simp only [Apart, apartMembers_iff]
      apply and_congr
      · exact (hperm.map Prod.fst).pairwise_iff fun h => mt hsymm h
      · exact forall_congr' fun member => imp_congr_left hperm.mem_iff

end Apart

namespace Collation

variable (collation : Collation)

/-- Without ties the order of members leaves no trace. -/
theorem canonical_eq_of_reordered {first second : JsValue} (h : Reordered first second)
    (hlegible : Legible first) (hapart : Apart collation.Ties first) :
    collation.canonical first = collation.canonical second := by
  have hsymm {left right : CodeUnits} (hties : collation.Ties left right) :
      collation.Ties right left := hties.symm
  induction h with
  | refl value => rfl
  | symm hreordered ih =>
      exact (ih (hreordered.legible.mpr hlegible) ((hreordered.apart hsymm).mpr hapart)).symm
  | trans hreordered _ ih₁ ih₂ =>
      exact (ih₁ hlegible hapart).trans
        (ih₂ (hreordered.legible.mp hlegible) ((hreordered.apart hsymm).mp hapart))
  | element before after _ ih =>
      have hpart := ih
        (legibleElements_iff.mp hlegible _ (List.mem_append_right _ List.mem_cons_self))
        (apartElements_iff.mp hapart _ (List.mem_append_right _ List.mem_cons_self))
      simp only [canonical, canonicalArray_eq_map, List.map_append, List.map_cons, hpart]
  | @member before key first second after hreordered ih =>
      have hpart := ih
        (legibleMembers_iff.mp hlegible _ (List.mem_append_right _ List.mem_cons_self))
        (apartMembers_iff.mp hapart.2 _ (List.mem_append_right _ List.mem_cons_self))
      have hother := (Reordered.member before key after hreordered).legible.mp hlegible
      rw [canonical, canonical, canonicalObject_eq_map collation hlegible,
        canonicalObject_eq_map collation hother]
      simp only [List.map_append, List.map_cons, Prod.map_apply, hpart]
  | order hperm =>
      have hother := (Reordered.order hperm).legible.mp hlegible
      rw [canonical, canonical, canonicalObject_eq_map collation hlegible,
        canonicalObject_eq_map collation hother]
      congr 1
      apply collation.sortEntries_eq_of_perm (hperm.map _)
      rw [List.pairwise_map]
      exact List.pairwise_map.mp hapart.1

/-- Tied names that an object can have in either order. -/
def Interchangeable (left right : CodeUnits) : Prop :=
  isArrayIndex left = false ∧ isArrayIndex right = false ∧ collation.Ties left right

instance : DecidableRel collation.Interchangeable :=
  fun _ _ => inferInstanceAs (Decidable (_ ∧ _))

/-- No object of the value has two members whose names tie and are no array indices. -/
def Untied (value : JsValue) : Prop := Apart collation.Interchangeable value

/-- Such a value has no ties in the refined order. -/
theorem apart_refined {value : JsValue} (hvalue : IsJson value) (huntied : collation.Untied value) :
    Apart collation.refined.Ties value := by
  induction value using JsValue.inductionOn with
  | undefined => exact trivial
  | null => exact trivial
  | bool value => exact trivial
  | number value => exact trivial
  | string units => exact trivial
  | array elements ih =>
      exact apartElements_iff.mpr fun element hmem => ih element hmem
        (isJsonElements_iff.mp hvalue element hmem) (apartElements_iff.mp huntied element hmem)
  | object members ih =>
      refine ⟨?_, apartMembers_iff.mpr fun member hmem => ih member hmem
        (isJsonMembers_iff.mp hvalue.2 member hmem) (apartMembers_iff.mp huntied.2 member hmem)⟩
      apply (hvalue.1.2.and huntied.1).imp
      rintro left right ⟨horder, hapart⟩
      exact collation.not_refined_ties horder fun hleft hright hties =>
        hapart ⟨hleft, hright, hties⟩

/-- A list that is its own reverse has no two different entries, unless one of them twice. -/
theorem eq_of_reverse_eq {α : Type} {entries : List α} (hnodup : entries.Nodup)
    (hreverse : entries.reverse = entries) {first second : α} (hfirst : first ∈ entries)
    (hsecond : second ∈ entries) : first = second := by
  cases entries with
  | nil => cases hfirst
  | cons entry rest =>
      cases hrest : rest.reverse with
      | nil =>
          rw [List.reverse_eq_nil_iff] at hrest
          rw [hrest, List.mem_singleton] at hfirst hsecond
          rw [hfirst, hsecond]
      | cons last others =>
          rw [List.reverse_cons, hrest, List.cons_append] at hreverse
          have hlast : last ∈ rest := by
            rw [← List.mem_reverse, hrest]
            exact List.mem_cons_self
          rw [(List.cons.inj hreverse).1] at hlast
          exact absurd hlast (List.nodup_cons.mp hnodup).1

/-- Where two names can stand in either order and tie, turning the members round that are no array
indices changes the canonical value. -/
theorem canonical_turned_ne {members turned : List (CodeUnits × JsValue)}
    (hlegible : LegibleMembers members) (hturnedLegible : LegibleMembers turned)
    (hnodup : (members.map Prod.fst).Nodup)
    (hturned : turned.filter (fun member => !isArrayIndex member.1) =
      (members.filter fun member => !isArrayIndex member.1).reverse)
    (hties : ¬ (members.map Prod.fst).Pairwise
      fun left right => ¬ collation.Interchangeable left right) :
    collation.canonical (.object members) ≠ collation.canonical (.object turned) := by
  intro hsame
  rw [canonical, canonical, canonicalObject_eq_map _ hlegible,
    canonicalObject_eq_map _ hturnedLegible] at hsame
  have hsorted := JsValue.object.inj hsame
  apply hties
  apply List.pairwise_of_forall_sublist
  rintro left right hsublist ⟨hleftName, hrightName, hboth⟩
  have hfilter := congrArg (List.filter fun entry => decide (collation.Ties left entry.1)) hsorted
  rw [filter_sortEntries, filter_sortEntries] at hfilter
  have hnames := congrArg (fun entries => (entries.map Prod.fst).filter
    fun name => !isArrayIndex name) hfilter
  have hfst : Prod.fst ∘ Prod.map (id : CodeUnits → CodeUnits) collation.canonical = Prod.fst :=
    rfl
  have hties (entries : List (CodeUnits × JsValue)) :
      (((entries.map (Prod.map id collation.canonical)).filter
        fun entry => decide (collation.Ties left entry.1)).map Prod.fst).filter
          (fun name => !isArrayIndex name) =
        ((entries.filter fun member => !isArrayIndex member.1).map Prod.fst).filter
          fun name => decide (collation.Ties left name) := by
    simp only [List.filter_map, List.map_map, List.filter_filter, Function.comp_def,
      Prod.map_fst, id_eq, Bool.and_comm]
  simp only [hties, hturned] at hnames
  rw [List.map_reverse, List.filter_reverse] at hnames
  have hmem {name : CodeUnits} (hname : name ∈ members.map Prod.fst)
      (hindex : isArrayIndex name = false) (htied : collation.Ties left name) :
      name ∈ ((members.filter fun member => !isArrayIndex member.1).map Prod.fst).filter
        fun name => decide (collation.Ties left name) := by
    obtain ⟨member, hmember, rfl⟩ := List.mem_map.mp hname
    refine List.mem_filter.mpr ⟨List.mem_map_of_mem (List.mem_filter.mpr ⟨hmember, ?_⟩), ?_⟩
    · rw [hindex]
      rfl
    · exact decide_eq_true htied
  have hself : collation.Ties left left :=
    ⟨(collation.total left left).elim id id, (collation.total left left).elim id id⟩
  have hkept : ((members.filter fun member => !isArrayIndex member.1).map Prod.fst).Nodup :=
    (List.filter_sublist.map Prod.fst).nodup hnodup
  have hequal := eq_of_reverse_eq (hkept.filter _) hnames.symm
    (hmem (hsublist.subset List.mem_cons_self) hleftName hself)
    (hmem (hsublist.subset (List.mem_cons_of_mem _ List.mem_cons_self)) hrightName hboth)
  have hdifferent := List.nodup_cons.mp (hnodup.sublist hsublist)
  exact hdifferent.1 (by rw [hequal]; exact List.mem_cons_self)

/-- The members of an object with those turned round that are no array indices. -/
def turnedRound (members : List (CodeUnits × JsValue)) : List (CodeUnits × JsValue) :=
  (members.filter fun member => isArrayIndex member.1) ++
    (members.filter fun member => !isArrayIndex member.1).reverse

theorem perm_turnedRound (members : List (CodeUnits × JsValue)) :
    members.Perm (turnedRound members) :=
  (List.filter_append_perm _ members).symm.trans ((List.reverse_perm _).symm.append_left _)

theorem filter_turnedRound (members : List (CodeUnits × JsValue)) :
    (turnedRound members).filter (fun member => !isArrayIndex member.1) =
      (members.filter fun member => !isArrayIndex member.1).reverse := by
  have hindices : (members.filter fun member => isArrayIndex member.1).filter
      (fun member => !isArrayIndex member.1) = [] := by
    simp
  rw [turnedRound, List.filter_append, hindices, List.nil_append, List.filter_reverse,
    List.filter_filter]
  simp

/-- It is an object the language can hold. -/
theorem isJson_turnedRound {members : List (CodeUnits × JsValue)}
    (hvalue : IsJson (.object members)) : IsJson (.object (turnedRound members)) := by
  obtain ⟨⟨hnodup, horder⟩, hmembers⟩ := hvalue
  have hperm := perm_turnedRound members
  refine ⟨⟨(hperm.map Prod.fst).nodup_iff.mp hnodup, ?_⟩, isJsonMembers_iff.mpr fun member hmem =>
    isJsonMembers_iff.mp hmembers member (hperm.mem_iff.mpr hmem)⟩
  rw [turnedRound, List.map_append, List.pairwise_append]
  have hlast : ∀ name ∈ (members.filter fun member => !isArrayIndex member.1).reverse.map Prod.fst,
      isArrayIndex name = false := by
    intro name hmem
    obtain ⟨member, hmember, rfl⟩ := List.mem_map.mp hmem
    have hindex := (List.mem_filter.mp (List.mem_reverse.mp hmember)).2
    simpa using hindex
  refine ⟨horder.sublist (List.filter_sublist.map Prod.fst), ?_, ?_⟩
  · apply List.pairwise_of_forall_mem_list
    intro left _ right hright
    exact entryOrder_of_not_index (hlast right hright)
  · intro left _ right hright
    exact entryOrder_of_not_index (hlast right hright)

/-- Members sorted alike that differ in one value do not differ. -/
theorem canonical_eq_of_sorted {before after : List (CodeUnits × JsValue)} {key : CodeUnits}
    {first second : JsValue}
    (h : collation.sortEntries ((before ++ (key, first) :: after).map
        (Prod.map id collation.canonical)) =
      collation.sortEntries ((before ++ (key, second) :: after).map
        (Prod.map id collation.canonical))) :
    collation.canonical first = collation.canonical second := by
  have hperm := (collation.perm_sortEntries _).symm.trans
    ((List.Perm.of_eq h).trans (collation.perm_sortEntries _))
  rw [List.map_append, List.map_append, List.map_cons, List.map_cons] at hperm
  have hentries := (List.perm_middle.symm.trans hperm).trans List.perm_middle
  rw [← Multiset.coe_eq_coe, ← Multiset.cons_coe, ← Multiset.cons_coe,
    Multiset.cons_inj_left] at hentries
  exact congrArg Prod.snd hentries

/-- Where names tie, another order of insertion changes the canonical value. -/
theorem exists_reordered_of_not_untied {value : JsValue} (hvalue : IsJson value)
    (hties : ¬ collation.Untied value) :
    ∃ other, IsJson other ∧ Reordered value other ∧
      collation.canonical value ≠ collation.canonical other := by
  induction value using JsValue.inductionOn with
  | undefined => exact absurd trivial hties
  | null => exact absurd trivial hties
  | bool value => exact absurd trivial hties
  | number value => exact absurd trivial hties
  | string units => exact absurd trivial hties
  | array elements ih =>
      rw [Untied, Apart, apartElements_iff] at hties
      push Not at hties
      obtain ⟨element, hmem, htied⟩ := hties
      obtain ⟨other, hother, hreordered, hdifferent⟩ :=
        ih element hmem (isJsonElements_iff.mp hvalue element hmem) htied
      obtain ⟨before, after, rfl⟩ := List.append_of_mem hmem
      refine ⟨.array (before ++ other :: after), ?_, .element before after hreordered,
        fun hsame => hdifferent ?_⟩
      · rw [IsJson, isJsonElements_iff, List.forall_mem_append, List.forall_mem_cons] at hvalue ⊢
        exact ⟨hvalue.1, hother, hvalue.2.2⟩
      · simp only [canonical, canonicalArray_eq_map, List.map_append, List.map_cons,
          JsValue.array.injEq, List.append_cancel_left_eq, List.cons.injEq, and_true] at hsame
        exact hsame
  | object members ih =>
      by_cases hnames : (members.map Prod.fst).Pairwise
          fun left right => ¬ collation.Interchangeable left right
      · rw [Untied, Apart, apartMembers_iff, not_and] at hties
        have hparts := hties hnames
        push Not at hparts
        obtain ⟨⟨key, inner⟩, hmem, htied⟩ := hparts
        obtain ⟨other, hother, hreordered, hdifferent⟩ :=
          ih _ hmem (isJsonMembers_iff.mp hvalue.2 _ hmem) htied
        obtain ⟨before, after, rfl⟩ := List.append_of_mem hmem
        have hwhole : Reordered (.object (before ++ (key, inner) :: after))
            (.object (before ++ (key, other) :: after)) := .member before key after hreordered
        have hlegible := hvalue.legible
        refine ⟨_, ?_, hwhole, fun hsame => hdifferent ?_⟩
        · rw [IsJson, isJsonMembers_iff, List.forall_mem_append, List.forall_mem_cons] at hvalue ⊢
          rw [List.map_append, List.map_cons] at hvalue ⊢
          exact ⟨hvalue.1, hvalue.2.1, hother, hvalue.2.2.2⟩
        · rw [canonical, canonical, canonicalObject_eq_map _ hlegible,
            canonicalObject_eq_map _ (hwhole.legible.mp hlegible)] at hsame
          exact canonical_eq_of_sorted collation (JsValue.object.inj hsame)
      · have hreordered : Reordered (.object members) (.object (turnedRound members)) :=
          .order (perm_turnedRound members)
        exact ⟨_, isJson_turnedRound hvalue, hreordered, collation.canonical_turned_ne
          hvalue.legible (hreordered.legible.mp hvalue.legible) hvalue.1.1
          (filter_turnedRound members) hnames⟩

end Collation

/-! ## JSON values -/

/-- A value of JSON. -/
structure JsonValue where
  value : JsValue
  valid : IsJson value

/-- The text of a value is that of the values equal to it up to the order of members, and of no
others, exactly when no two names of one of its objects tie that are no array indices. -/
theorem canonicalJson_iff_reordered (collation : Collation) (first : JsonValue) :
    (∀ second : JsonValue, collation.canonicalJson first.value =
        collation.canonicalJson second.value ↔ Reordered first.value second.value) ↔
      collation.Untied first.value := by
  constructor
  · intro h
    by_contra hties
    obtain ⟨other, hother, hreordered, hdifferent⟩ :=
      collation.exists_reordered_of_not_untied first.valid hties
    have htext := (h ⟨other, hother⟩).mpr hreordered
    exact hdifferent ((collation.canonicalJson_eq_iff first.valid hother).mp htext)
  · intro huntied second
    rw [collation.canonicalJson_eq_iff first.valid second.valid]
    constructor
    · exact collation.reordered_of_canonical_eq first.valid second.valid
    · intro h
      rw [collation.canonical_eq_refined first.valid, collation.canonical_eq_refined second.valid]
      exact collation.refined.canonical_eq_of_reordered h first.valid.legible
        (collation.apart_refined first.valid huntied)

/-! ### Accents -/

/-- A name with its accented letters taken apart. -/
def decomposed (name : CodeUnits) : CodeUnits :=
  name.flatMap fun unit => if unit = 0xE9 then [0x65, 0x301] else [unit]

/-- An order that ties what is canonically equivalent. -/
def accentCollation : Collation where
  atMost left right := decide ((decomposed left).map UInt16.toNat ≤ (decomposed right).map UInt16.toNat)
  total left right := by
    simp only [decide_eq_true_eq]
    exact le_total _ _
  trans left middle right hleft hright := by
    simp only [decide_eq_true_eq] at hleft hright ⊢
    exact le_trans hleft hright

/-- An object with the letter e and an acute accent as a name, in one unit and in two. -/
def accentedNames : JsonValue where
  value := .object [([0xE9], .number (.natural 1)), ([0x65, 0x301], .number (.natural 2))]
  valid := by
    refine ⟨⟨by decide, ?_⟩, ?_, ?_, trivial⟩
    · exact List.pairwise_pair.mpr (entryOrder_of_not_index (by decide +kernel))
    · exact .digit (-52) (by decide) (by decide) (by decide) (by decide) (by norm_num)
    · exact .digit (-51) (by decide) (by decide) (by decide) (by decide) (by norm_num)

/-- The same members, inserted the other way round. -/
def accentedNamesReversed : JsonValue where
  value := .object [([0x65, 0x301], .number (.natural 2)), ([0xE9], .number (.natural 1))]
  valid := by
    refine ⟨⟨by decide, ?_⟩, accentedNames.valid.2.2.1, accentedNames.valid.2.1, trivial⟩
    exact List.pairwise_pair.mpr (entryOrder_of_not_index (by decide +kernel))

/-- The two objects are equal up to the order of their members, and their texts are not. -/
theorem accentedNames_differ :
    ¬ (accentCollation.canonicalJson accentedNames.value =
        accentCollation.canonicalJson accentedNamesReversed.value ↔
      Reordered accentedNames.value accentedNamesReversed.value) := by
  have hreordered : Reordered accentedNames.value accentedNamesReversed.value :=
    .order (.swap _ _ [])
  have hdifferent : accentCollation.canonicalJson accentedNames.value ≠
      accentCollation.canonicalJson accentedNamesReversed.value := by decide +kernel
  exact fun h => hdifferent (h.mpr hreordered)

end WorkGate.Headless
