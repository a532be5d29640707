/-
# Tables that only lose rows

A retention run, a garbage collector and an expiry sweep all take a table to one that has fewer
rows and otherwise the same.  What matters about them is which rows may go; the sweeps compose,
whatever the order their parts run in.
-/

import WorkGate.Library.Rows

namespace WorkGate.Library.Rows

universe uκ uρ

variable {κ : Type uκ} {ρ : Type uρ} [DecidableEq κ]

/-- Every row is as it was, or was one that may go and is gone. -/
def Pruned (mayGo : κ → ρ → Prop) (before after : Rows κ ρ) : Prop :=
  ∀ key, after.lookup key = before.lookup key ∨
    ∃ row, before.lookup key = some row ∧ after.lookup key = none ∧ mayGo key row

namespace Pruned

variable {mayGo other : κ → ρ → Prop} {first second third : Rows κ ρ}

theorem refl (mayGo : κ → ρ → Prop) (rows : Rows κ ρ) : Pruned mayGo rows rows :=
  fun _ => Or.inl rfl

/-- A row that is still there was there. -/
theorem lookup_of_after (h : Pruned mayGo first second) {key : κ} {row : ρ}
    (hafter : second.lookup key = some row) : first.lookup key = some row := by
  rcases h key with hsame | ⟨_, -, hnone, -⟩
  · rw [← hsame]
    exact hafter
  · rw [hnone] at hafter
    cases hafter

/-- A row that is gone was one that may go. -/
theorem mayGo_of_gone (h : Pruned mayGo first second) {key : κ} {row : ρ}
    (hbefore : first.lookup key = some row) (hgone : second.lookup key = none) :
    mayGo key row := by
  rcases h key with hsame | ⟨found, hfound, -, hgo⟩
  · rw [hgone, hbefore] at hsame
    cases hsame
  · cases Option.some.inj (hbefore.symm.trans hfound)
    exact hgo

theorem trans (h₁ : Pruned mayGo first second) (h₂ : Pruned mayGo second third) :
    Pruned mayGo first third := by
  intro key
  rcases h₂ key with hsame | ⟨row, hrow, hnone, hgo⟩
  · rw [hsame]
    exact h₁ key
  · exact Or.inr ⟨row, h₁.lookup_of_after hrow, hnone, hgo⟩

theorem mono (h : Pruned mayGo first second)
    (himp : ∀ key row, first.lookup key = some row → mayGo key row → other key row) :
    Pruned other first second := by
  intro key
  rcases h key with hsame | ⟨row, hrow, hnone, hgo⟩
  · exact Or.inl hsame
  · exact Or.inr ⟨row, hrow, hnone, himp key row hrow hgo⟩

/-- One row goes. -/
theorem erase {key : κ} (hgo : ∀ row, first.lookup key = some row → mayGo key row) :
    Pruned mayGo first (first.erase key) := by
  intro name
  rw [lookup_erase_eq]
  by_cases hname : name = key
  · subst hname
    cases hrow : first.lookup name with
    | none => exact Or.inl (if_pos rfl)
    | some row => exact Or.inr ⟨row, rfl, if_pos rfl, hgo row hrow⟩
  · exact Or.inl (if_neg hname)

/-- The rows that fail a test go. -/
theorem keepRows {keep : κ → ρ → Bool}
    (hgo : ∀ key row, first.lookup key = some row → keep key row = false → mayGo key row) :
    Pruned mayGo first (first.keepRows keep) := by
  intro key
  rw [lookup_keepRows]
  cases hrow : first.lookup key with
  | none => exact Or.inl rfl
  | some row =>
      cases hkeep : keep key row with
      | true => exact Or.inl (Option.filter_some_pos hkeep)
      | false =>
          refine Or.inr ⟨row, rfl, ?_, hgo key row hrow hkeep⟩
          rw [Option.filter_some, hkeep, if_neg Bool.false_ne_true]

end Pruned

end WorkGate.Library.Rows
