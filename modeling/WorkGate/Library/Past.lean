/-
# What a history says about its past

A history lists its entries newest first, so everything that happened before an
entry is the rest of the list.  Three readings of that past are enough here: an
event that happened since nothing ended it, an event that happened once, and a
property every entry had when it was made.  The state of a machine is usually a
summary of the first kind, which is what makes these the right words for its
invariants.
-/

import WorkGate.Library.Machine

namespace WorkGate.Library

universe u uσ uι uο

variable {α : Type u}

/-- Some entry was `event`, given what came before it, and nothing since then `ends` it. -/
def Since (event : List α → α → Prop) (ends : α → Prop) : List α → Prop
  | [] => False
  | entry :: earlier => event earlier entry ∨ (¬ ends entry ∧ Since event ends earlier)

/-- Some entry was `event`, given what came before it. -/
def Once (event : List α → α → Prop) : List α → Prop := Since event fun _ => False

/-- Every entry had the property, given what came before it. -/
def Always (holds : List α → α → Prop) : List α → Prop
  | [] => True
  | entry :: earlier => holds earlier entry ∧ Always holds earlier

section Since

variable {event other : List α → α → Prop} {ends : α → Prop} {history : List α} {entry : α}

theorem Since.now (hevent : event history entry) : Since event ends (entry :: history) :=
  Or.inl hevent

theorem Since.later (hsince : Since event ends history) (hkeeps : ¬ ends entry) :
    Since event ends (entry :: history) :=
  Or.inr ⟨hkeeps, hsince⟩

/-- The reading with the entry and the two parts of the history around it. -/
theorem since_iff : Since event ends history ↔ ∃ later entry earlier,
    history = later ++ entry :: earlier ∧ event earlier entry ∧
      ∀ passed ∈ later, ¬ ends passed := by
  induction history with
  | nil => simp [Since]
  | cons newest rest ih =>
      constructor
      · rintro (hevent | ⟨hkeeps, hsince⟩)
        · exact ⟨[], newest, rest, rfl, hevent, by simp⟩
        · obtain ⟨later, entry, earlier, rfl, hevent, hlater⟩ := ih.mp hsince
          refine ⟨newest :: later, entry, earlier, rfl, hevent, ?_⟩
          intro passed hpassed
          rcases List.mem_cons.mp hpassed with rfl | hpassed
          · exact hkeeps
          · exact hlater passed hpassed
      · rintro ⟨later, entry, earlier, hsplit, hevent, hlater⟩
        cases later with
        | nil =>
            obtain ⟨rfl, rfl⟩ := List.cons.inj hsplit
            exact Since.now hevent
        | cons first others =>
            obtain ⟨rfl, rfl⟩ := List.cons.inj hsplit
            apply Since.later
            · exact ih.mpr ⟨others, entry, earlier, rfl, hevent,
                fun passed hpassed => hlater passed (List.mem_cons_of_mem _ hpassed)⟩
            · exact hlater newest List.mem_cons_self

end Since

section Once

variable {event : List α → α → Prop} {history : List α} {entry : α}

theorem Once.now (hevent : event history entry) : Once event (entry :: history) :=
  Since.now hevent

theorem Once.cons (honce : Once event history) : Once event (entry :: history) :=
  Since.later honce not_false

theorem once_iff : Once event history ↔ ∃ later entry earlier,
    history = later ++ entry :: earlier ∧ event earlier entry := by
  simp [Once, since_iff]

end Once

section Always

variable {holds : List α → α → Prop} {history : List α}

theorem always_iff : Always holds history ↔ ∀ later entry earlier,
    history = later ++ entry :: earlier → holds earlier entry := by
  induction history with
  | nil => simp [Always]
  | cons newest rest ih =>
      constructor
      · rintro ⟨hnewest, hrest⟩ later entry earlier hsplit
        cases later with
        | nil =>
            obtain ⟨rfl, rfl⟩ := List.cons.inj hsplit
            exact hnewest
        | cons first others =>
            obtain ⟨rfl, rfl⟩ := List.cons.inj hsplit
            exact ih.mp hrest others entry earlier rfl
      · intro hall
        refine ⟨hall [] newest rest rfl, ih.mpr ?_⟩
        rintro later entry earlier rfl
        exact hall (newest :: later) entry earlier rfl

/-- What every step of a run gives its entry, every entry of the history has. -/
theorem Machine.Run.always {σ : Type uσ} {ι : Type uι} {ο : Type uο} {M : Machine σ ι ο}
    {holds : List (ι × ο) → ι × ο → Prop}
    (hstep : ∀ history state input, M.Run history state → M.admits history state input →
      holds history (input, (M.step state input).2))
    {history : List (ι × ο)} {state : σ} (hrun : M.Run history state) :
    Always holds history := by
  have hboth : M.Run history state ∧ Always holds history := by
    refine Run.invariant (P := fun h s => M.Run h s ∧ Always holds h) ⟨Run.start, trivial⟩ ?_ hrun
    rintro h s input hadmits ⟨hprior, halways⟩
    exact ⟨hprior.extend input hadmits, hstep h s input hprior hadmits, halways⟩
  exact hboth.2

end Always

end WorkGate.Library
