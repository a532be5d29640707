/-
# Results of fallible computations

A computation that may fail is an `Except`, and what a later proof needs of a run that
succeeded is what every step of it returned.  These rules take such a run apart, one bind
or one guard at a time.
-/

import Mathlib.Data.List.Forall2

namespace WorkGate.Library

universe u

variable {ε : Type u}

theorem bind_eq_ok {α β : Type} {result : Except ε α} {next : α → Except ε β} {value : β} :
    (result >>= next) = .ok value ↔ ∃ first, result = .ok first ∧ next first = .ok value := by
  cases result with
  | error error => simp [bind, Except.bind]
  | ok first => simp [bind, Except.bind]

theorem ok_bind {α β : Type} (value : α) (next : α → Except ε β) :
    (Except.ok value >>= next) = next value := rfl

theorem pure_eq_ok {α : Type} {value other : α} :
    (pure value : Except ε α) = .ok other ↔ value = other := by
  simp [pure, Except.pure]

theorem mapError_eq_ok {δ : Type u} {α : Type} {result : Except ε α} {f : ε → δ} {value : α} :
    result.mapError f = .ok value ↔ result = .ok value := by
  cases result with
  | error error => simp [Except.mapError]
  | ok found => simp [Except.mapError]

theorem map_eq_ok {α β : Type} {result : Except ε α} {f : α → β} {value : β} :
    result.map f = .ok value ↔ ∃ found, result = .ok found ∧ f found = value := by
  cases result with
  | error error => simp [Except.map]
  | ok found => simp [Except.map]

theorem toOption_eq_some {α : Type} {result : Except ε α} {value : α} :
    result.toOption = some value ↔ result = .ok value := by
  cases result with
  | error error => simp [Except.toOption]
  | ok found => simp [Except.toOption]

theorem bind_eq_error {α β : Type} {result : Except ε α} {next : α → Except ε β} {error : ε} :
    (result >>= next) = .error error ↔
      result = .error error ∨ ∃ first, result = .ok first ∧ next first = .error error := by
  cases result with
  | error error => simp [bind, Except.bind]
  | ok first => simp [bind, Except.bind]

theorem map_eq_error {α β : Type} {result : Except ε α} {f : α → β} {error : ε} :
    result.map f = .error error ↔ result = .error error := by
  cases result with
  | error error => simp [Except.map]
  | ok found => simp [Except.map]

theorem mapError_eq_error {δ : Type u} {α : Type} {result : Except ε α} {f : ε → δ} {error : δ} :
    result.mapError f = .error error ↔ ∃ found, result = .error found ∧ f found = error := by
  cases result with
  | error error => simp [Except.mapError]
  | ok found => simp [Except.mapError]

/-- A guard that was passed. -/
theorem guard_eq_ok {α : Type} {condition : Prop} [Decidable condition] {error : ε}
    {rest : Except ε α} {value : α}
    (h : (if condition then .error error else rest) = .ok value) :
    ¬ condition ∧ rest = .ok value := by
  split at h
  · cases h
  · next hpassed => exact ⟨hpassed, h⟩

/-- A check that fails when its condition holds. -/
def throwIf (condition : Prop) [Decidable condition] (error : ε) : Except ε Unit :=
  if condition then .error error else .ok ()

theorem throwIf_eq_ok {condition : Prop} [Decidable condition] {error : ε} {passed : Unit} :
    throwIf condition error = .ok passed ↔ ¬ condition := by
  rw [throwIf]
  by_cases hcondition : condition
  · simp [hcondition]
  · simp [hcondition]

theorem throwIf_bind_eq_ok {α : Type} {condition : Prop} [Decidable condition] {error : ε}
    {rest : Unit → Except ε α} {value : α} :
    (throwIf condition error >>= rest) = .ok value ↔ ¬ condition ∧ rest () = .ok value := by
  rw [bind_eq_ok]
  constructor
  · intro h
    obtain ⟨⟨⟩, hpassed, hrest⟩ := h
    exact ⟨throwIf_eq_ok.mp hpassed, hrest⟩
  · intro h
    exact ⟨(), throwIf_eq_ok.mpr h.1, h.2⟩

/-- A value that may be missing, with the error of one that is. -/
def orThrow {α : Type} (error : ε) : Option α → Except ε α
  | none => .error error
  | some value => .ok value

theorem orThrow_eq_ok {α : Type} {error : ε} {maybe : Option α} {value : α} :
    orThrow error maybe = .ok value ↔ maybe = some value := by
  cases maybe with
  | none => simp [orThrow]
  | some found => simp [orThrow]

/-- A check of all items passes when it passes of each. -/
theorem forM_eq_ok {Item : Type} {check : Item → Except ε Unit} {items : List Item} :
    items.forM check = .ok () ↔ ∀ item ∈ items, check item = .ok () := by
  induction items with
  | nil => simp [pure, Except.pure]
  | cons item items ih =>
      have hcons : (item :: items).forM check = (check item >>= fun _ => items.forM check) := rfl
      rw [hcons, bind_eq_ok, List.forall_mem_cons, ← ih]
      constructor
      · rintro ⟨⟨⟩, hitem, hitems⟩
        exact ⟨hitem, hitems⟩
      · rintro ⟨hitem, hitems⟩
        exact ⟨(), hitem, hitems⟩

/-- Reading a list reads each of its items. -/
theorem mapM_eq_ok {Item Read : Type} {read : Item → Except ε Read} {items : List Item}
    {found : List Read} :
    items.mapM read = .ok found ↔ List.Forall₂ (fun item value => read item = .ok value) items
      found := by
  induction items generalizing found with
  | nil =>
      rw [List.mapM_nil, pure_eq_ok, List.forall₂_nil_left_iff]
      exact eq_comm
  | cons item items ih =>
      rw [List.mapM_cons, bind_eq_ok, List.forall₂_cons_left_iff]
      constructor
      · intro h
        obtain ⟨value, hvalue, hrest⟩ := h
        obtain ⟨values, hvalues, hfound⟩ := bind_eq_ok.mp hrest
        exact ⟨value, values, hvalue, ih.mp hvalues, (pure_eq_ok.mp hfound).symm⟩
      · intro h
        obtain ⟨value, values, hvalue, hvalues, rfl⟩ := h
        exact ⟨value, hvalue, bind_eq_ok.mpr ⟨values, ih.mpr hvalues, rfl⟩⟩

end WorkGate.Library
