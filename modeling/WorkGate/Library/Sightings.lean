/-
# Sequences with unknown entries

A sequence some of whose entries are unknown.  When it is to be in order, looking at neighbours is
not enough: what stands before an unknown entry has to be compared with the next one that is known.
-/

import Mathlib.Data.List.Chain
import Mathlib.Order.Basic

namespace WorkGate.Library

variable {α : Type} [Preorder α]

/-- Whatever is known of two entries is in order. -/
def InOrder (earlier later : Option α) : Prop := ∀ a ∈ earlier, ∀ b ∈ later, a ≤ b

/-- A known entry that is followed by an unknown one is not above the next known one. -/
def GapsInOrder : List (Option α) → Prop
  | [] => True
  | entry :: entries =>
      (entries.head? = some none → InOrder entry (entries.filterMap id).head?) ∧
        GapsInOrder entries

instance [DecidableLE α] (earlier later : Option α) : Decidable (InOrder earlier later) :=
  inferInstanceAs (Decidable (∀ a ∈ earlier, ∀ b ∈ later, a ≤ b))

instance decidableGapsInOrder [DecidableEq α] [DecidableLE α] :
    (entries : List (Option α)) → Decidable (GapsInOrder entries)
  | [] => isTrue trivial
  | entry :: entries =>
      have := decidableGapsInOrder entries
      inferInstanceAs (Decidable
        ((entries.head? = some none → InOrder entry (entries.filterMap id).head?) ∧
          GapsInOrder entries))

/-- Entries are in order when the known ones of them form a chain. -/
theorem pairwise_inOrder_iff_isChain {entries : List (Option α)} :
    entries.Pairwise InOrder ↔ (entries.filterMap id).IsChain (· ≤ ·) := by
  rw [List.isChain_iff_pairwise, List.pairwise_filterMap]
  exact Iff.rfl

theorem inOrder_none (later : Option α) : InOrder none later := by
  intro a ha
  cases ha

/-- One entry more: it is compared with the next known one. -/
theorem isChain_known_cons {entry : Option α} {entries : List (Option α)} :
    ((entry :: entries).filterMap id).IsChain (· ≤ ·) ↔
      InOrder entry (entries.filterMap id).head? ∧ (entries.filterMap id).IsChain (· ≤ ·) := by
  cases entry with
  | none => simp [inOrder_none]
  | some a => simp [InOrder, List.isChain_cons]

/-- All known entries are in order when neighbours are and no gap hides a step down. -/
theorem pairwise_inOrder_iff {entries : List (Option α)} :
    entries.Pairwise InOrder ↔ entries.IsChain InOrder ∧ GapsInOrder entries := by
  rw [pairwise_inOrder_iff_isChain]
  induction entries with
  | nil => exact ⟨fun _ => ⟨.nil, trivial⟩, fun _ => .nil⟩
  | cons entry entries ih =>
      rw [isChain_known_cons, ih, List.isChain_cons, GapsInOrder]
      -- The next known entry is the neighbour, unless that one is unknown.
      have hnext : InOrder entry (entries.filterMap id).head? ↔
          (∀ next ∈ entries.head?, InOrder entry next) ∧
            (entries.head? = some none → InOrder entry (entries.filterMap id).head?) := by
        cases entries with
        | nil => simp [InOrder]
        | cons next entries =>
            cases next with
            | none => simp [InOrder]
            | some b => simp
      rw [hnext]
      tauto

end WorkGate.Library
