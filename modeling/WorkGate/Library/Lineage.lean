/-
# Registries whose nodes succeed one another

A node is registered once under its name.  It either starts a line or succeeds a node that is
there, with a generation above all of its group; a node is succeeded once.  So the relation of
succession is a set of lines without cycles, and what is marked on one of them is inherited by
everything after it up to the next mark.
-/

import Mathlib.Data.Nat.Notation
import Mathlib.Logic.Relation
import Mathlib.Order.Nat

namespace WorkGate.Library

universe uκ uγ uβ

/-- A node: its group, the node it succeeds, and its generation. -/
structure Node (κ : Type uκ) (γ : Type uγ) where
  group : γ
  maybePredecessor : Option κ
  generation : ℕ

variable {κ : Type uκ} {γ : Type uγ} {β : Type uβ}
variable {nodes after : κ → Option (Node κ γ)}

/-- The nodes form lines: no node is succeeded twice, generation 0 is where a line starts, a
generation stands for one node of its group, and generations grow along a line. -/
structure Linear (nodes : κ → Option (Node κ γ)) : Prop where
  single : ∀ first second node other predecessor, nodes first = some node →
    nodes second = some other → node.maybePredecessor = some predecessor →
      other.maybePredecessor = some predecessor → first = second
  original : ∀ name node, nodes name = some node →
    (node.maybePredecessor = none ↔ node.generation = 0)
  distinct : ∀ first second node other, nodes first = some node → nodes second = some other →
    node.group = other.group → node.generation = other.generation → 0 < node.generation →
      first = second
  succeeds : ∀ name node predecessor, nodes name = some node →
    node.maybePredecessor = some predecessor →
      ∃ earlier, nodes predecessor = some earlier ∧ earlier.group = node.group ∧
        earlier.generation < node.generation

/-- One node directly succeeds another. -/
def Succeeds (nodes : κ → Option (Node κ γ)) (later earlier : κ) : Prop :=
  ∃ node, nodes later = some node ∧ node.maybePredecessor = some earlier

namespace Linear

theorem start : Linear (fun _ => none : κ → Option (Node κ γ)) where
  single := by
    intro _ _ _ _ _ h
    cases h
  original := by
    intro _ _ h
    cases h
  distinct := by
    intro _ _ _ _ h
    cases h
  succeeds := by
    intro _ _ _ h
    cases h

/-- A new node that starts a line. -/
theorem register [DecidableEq κ] (h : Linear nodes) {name : κ} {node : Node κ γ}
    (hnew : nodes name = none) (hstarts : node.maybePredecessor = none)
    (hgeneration : node.generation = 0)
    (hafter : ∀ other, after other = if other = name then some node else nodes other) :
    Linear after where
  single := by
    intro first second one two predecessor hone htwo hfirst hsecond
    rw [hafter] at hone htwo
    split at hone
    · cases hone
      rw [hstarts] at hfirst
      cases hfirst
    · split at htwo
      · cases htwo
        rw [hstarts] at hsecond
        cases hsecond
      · exact h.single first second one two predecessor hone htwo hfirst hsecond
  original := by
    intro other found hfound
    rw [hafter] at hfound
    split at hfound
    · cases hfound
      simp [hstarts, hgeneration]
    · exact h.original other found hfound
  distinct := by
    intro first second one two hone htwo hgroup hsame hpositive
    rw [hafter] at hone htwo
    split at hone
    · cases hone
      exact absurd hgeneration (Nat.pos_iff_ne_zero.mp hpositive)
    · split at htwo
      · cases htwo
        rw [hgeneration] at hsame
        exact absurd hsame (Nat.pos_iff_ne_zero.mp hpositive)
      · exact h.distinct first second one two hone htwo hgroup hsame hpositive
  succeeds := by
    intro other found predecessor hfound hpredecessor
    rw [hafter] at hfound
    split at hfound
    · cases hfound
      rw [hstarts] at hpredecessor
      cases hpredecessor
    · obtain ⟨earlier, hearlier, hrest⟩ := h.succeeds other found predecessor hfound hpredecessor
      refine ⟨earlier, ?_, hrest⟩
      rw [hafter, if_neg]
      · exact hearlier
      · rintro rfl
        rw [hnew] at hearlier
        cases hearlier

/-- A new node that succeeds one nothing succeeded so far. -/
theorem succeed [DecidableEq κ] (h : Linear nodes) {name predecessor : κ}
    {node earlier : Node κ γ} (hnew : nodes name = none)
    (hearlier : nodes predecessor = some earlier)
    (hpredecessor : node.maybePredecessor = some predecessor)
    (hgroup : earlier.group = node.group)
    (hfree : ∀ other found, nodes other = some found → found.maybePredecessor ≠ some predecessor)
    (habove : ∀ other found, nodes other = some found → found.group = node.group →
      found.generation < node.generation)
    (hafter : ∀ other, after other = if other = name then some node else nodes other) :
    Linear after where
  single := by
    intro first second one two shared hone htwo hfirst hsecond
    rw [hafter] at hone htwo
    split at hone
    · next hname =>
        cases hone
        rw [hpredecessor] at hfirst
        cases hfirst
        split at htwo
        · next hother => rw [hname, hother]
        · exact absurd hsecond (hfree second two htwo)
    · split at htwo
      · cases htwo
        rw [hpredecessor] at hsecond
        cases hsecond
        exact absurd hfirst (hfree first one hone)
      · exact h.single first second one two shared hone htwo hfirst hsecond
  original := by
    intro other found hfound
    rw [hafter] at hfound
    split at hfound
    · cases hfound
      have hpositive := habove predecessor earlier hearlier hgroup
      rw [hpredecessor]
      constructor
      · intro hnone
        cases hnone
      · intro hzero
        rw [hzero] at hpositive
        exact absurd hpositive (Nat.not_lt_zero _)
    · exact h.original other found hfound
  distinct := by
    intro first second one two hone htwo hshared hsame hpositive
    rw [hafter] at hone htwo
    split at hone
    · next hname =>
        cases hone
        split at htwo
        · next hother => rw [hname, hother]
        · exact absurd hsame.symm (habove second two htwo hshared.symm).ne
    · split at htwo
      · cases htwo
        exact absurd hsame (habove first one hone hshared).ne
      · exact h.distinct first second one two hone htwo hshared hsame hpositive
  succeeds := by
    intro other found shared hfound hshared
    have hkept : ∀ key row, nodes key = some row → after key = some row := by
      intro key row hrow
      rw [hafter, if_neg]
      · exact hrow
      · rintro rfl
        rw [hnew] at hrow
        cases hrow
    rw [hafter] at hfound
    split at hfound
    · cases hfound
      rw [hpredecessor] at hshared
      cases hshared
      exact ⟨earlier, hkept _ _ hearlier, hgroup, habove predecessor earlier hearlier hgroup⟩
    · obtain ⟨row, hrow, hrest⟩ := h.succeeds other found shared hfound hshared
      exact ⟨row, hkept _ _ hrow, hrest⟩

/-- What holds where lines start, and passes to each successor, holds of every node. -/
theorem along (h : Linear nodes) {P : κ → Prop}
    (hstart : ∀ name node, nodes name = some node → node.maybePredecessor = none → P name)
    (hpasses : ∀ name node predecessor, nodes name = some node →
      node.maybePredecessor = some predecessor → P predecessor → P name)
    {name : κ} {node : Node κ γ} (hnode : nodes name = some node) : P name := by
  induction hgeneration : node.generation using Nat.strong_induction_on generalizing name node with
  | _ generation ih =>
      cases hpredecessor : node.maybePredecessor with
      | none => exact hstart name node hnode hpredecessor
      | some predecessor =>
          obtain ⟨earlier, hearlier, -, hless⟩ :=
            h.succeeds name node predecessor hnode hpredecessor
          apply hpasses name node predecessor hnode hpredecessor
          exact ih earlier.generation (hgeneration ▸ hless) hearlier rfl

/-- Generations fall along succession, as far as it goes. -/
theorem generation_lt (h : Linear nodes) {later earlier : κ}
    (hsucceeds : Relation.TransGen (Succeeds nodes) later earlier) :
    ∃ node found, nodes later = some node ∧ nodes earlier = some found ∧
      found.generation < node.generation := by
  induction hsucceeds with
  | single hstep =>
      obtain ⟨node, hnode, hpredecessor⟩ := hstep
      obtain ⟨found, hfound, -, hless⟩ := h.succeeds _ node _ hnode hpredecessor
      exact ⟨node, found, hnode, hfound, hless⟩
  | tail _ hstep ih =>
      obtain ⟨node, middle, hnode, hmiddle, hless⟩ := ih
      obtain ⟨next, hnext, hpredecessor⟩ := hstep
      rw [hmiddle] at hnext
      cases hnext
      obtain ⟨found, hfound, -, hlower⟩ := h.succeeds _ middle _ hmiddle hpredecessor
      exact ⟨node, found, hnode, hfound, hlower.trans hless⟩

theorem acyclic (h : Linear nodes) (name : κ) :
    ¬ Relation.TransGen (Succeeds nodes) name name := by
  intro hcycle
  obtain ⟨node, found, hnode, hfound, hless⟩ := h.generation_lt hcycle
  rw [hnode] at hfound
  cases hfound
  exact absurd hless (lt_irrefl _)

end Linear

/-! ## Lineages -/

/-- The nodes from one back along its line, at most a number of them. -/
def ancestors (nodes : κ → Option (Node κ γ)) : ℕ → κ → List κ
  | 0, _ => []
  | steps + 1, name =>
      match nodes name with
      | none => []
      | some node => name ::
          match node.maybePredecessor with
          | none => []
          | some predecessor => ancestors nodes steps predecessor

/-- The nodes from one back to where its line starts; its generation bounds their number. -/
def lineage (nodes : κ → Option (Node κ γ)) (name : κ) : List κ :=
  match nodes name with
  | none => []
  | some node => ancestors nodes (node.generation + 1) name

/-- The mark nearest to a node, on the way back along its line. -/
def nearest (nodes : κ → Option (Node κ γ)) (mark : κ → Option β) (name : κ) : Option β :=
  (lineage nodes name).findSome? mark

namespace Linear

/-- More steps than the generation asks for find nothing more. -/
theorem ancestors_eq (h : Linear nodes) {name : κ} {node : Node κ γ}
    (hnode : nodes name = some node) {steps others : ℕ} (hsteps : node.generation < steps)
    (hothers : node.generation < others) :
    ancestors nodes steps name = ancestors nodes others name := by
  induction steps generalizing name node others with
  | zero => exact absurd hsteps (Nat.not_lt_zero _)
  | succ steps ih =>
      cases others with
      | zero => exact absurd hothers (Nat.not_lt_zero _)
      | succ others =>
          simp only [ancestors, hnode]
          cases hpredecessor : node.maybePredecessor with
          | none => rfl
          | some predecessor =>
              obtain ⟨earlier, hearlier, -, hless⟩ :=
                h.succeeds name node predecessor hnode hpredecessor
              show name :: ancestors nodes steps predecessor =
                name :: ancestors nodes others predecessor
              rw [ih hearlier (lt_of_lt_of_le hless (Nat.lt_succ_iff.mp hsteps))
                (lt_of_lt_of_le hless (Nat.lt_succ_iff.mp hothers))]

theorem lineage_original {name : κ} {node : Node κ γ} (hnode : nodes name = some node)
    (hstarts : node.maybePredecessor = none) : lineage nodes name = [name] := by
  simp only [lineage, ancestors, hnode, hstarts]

/-- A lineage goes on with the lineage of the predecessor. -/
theorem lineage_succeeds (h : Linear nodes) {name predecessor : κ} {node : Node κ γ}
    (hnode : nodes name = some node) (hpredecessor : node.maybePredecessor = some predecessor) :
    lineage nodes name = name :: lineage nodes predecessor := by
  obtain ⟨earlier, hearlier, -, hless⟩ := h.succeeds name node predecessor hnode hpredecessor
  have hlong := h.ancestors_eq hearlier hless (Nat.lt_succ_self earlier.generation)
  simp only [lineage, ancestors, hnode, hpredecessor, hearlier] at hlong ⊢
  rw [hlong]

/-- Every node of a lineage is registered. -/
theorem exists_of_mem_lineage (h : Linear nodes) {name ancestor : κ} {node : Node κ γ}
    (hnode : nodes name = some node) (hmem : ancestor ∈ lineage nodes name) :
    ∃ found, nodes ancestor = some found := by
  refine h.along (P := fun name => ancestor ∈ lineage nodes name →
    ∃ found, nodes ancestor = some found) ?_ ?_ hnode hmem
  · intro name node hnode hstarts hmem
    rw [lineage_original hnode hstarts, List.mem_singleton] at hmem
    exact ⟨node, hmem ▸ hnode⟩
  · intro name node predecessor hnode hpredecessor ih hmem
    rw [h.lineage_succeeds hnode hpredecessor, List.mem_cons] at hmem
    rcases hmem with rfl | hmem
    · exact ⟨node, hnode⟩
    · exact ih hmem

/-- The lineage of a registered node stays as it is while nodes are added. -/
theorem lineage_eq_of_kept (h : Linear nodes) (hlater : Linear after)
    (hkept : ∀ name node, nodes name = some node → ∃ found, after name = some found ∧
      found.maybePredecessor = node.maybePredecessor) {name : κ} {node : Node κ γ}
    (hnode : nodes name = some node) : lineage after name = lineage nodes name := by
  refine h.along (P := fun name => lineage after name = lineage nodes name) ?_ ?_ hnode
  · intro name node hnode hstarts
    obtain ⟨found, hfound, hsame⟩ := hkept name node hnode
    rw [lineage_original hnode hstarts, lineage_original hfound (hsame.trans hstarts)]
  · intro name node predecessor hnode hpredecessor ih
    obtain ⟨found, hfound, hsame⟩ := hkept name node hnode
    rw [h.lineage_succeeds hnode hpredecessor,
      hlater.lineage_succeeds hfound (hsame.trans hpredecessor), ih]

theorem nearest_original {mark : κ → Option β} {name : κ} {node : Node κ γ}
    (hnode : nodes name = some node) (hstarts : node.maybePredecessor = none) :
    nearest nodes mark name = mark name := by
  rw [nearest, lineage_original hnode hstarts, List.findSome?_cons]
  cases mark name with
  | none => rfl
  | some found => rfl

/-- The nearest mark is the node's own, or else the one nearest to its predecessor. -/
theorem nearest_succeeds (h : Linear nodes) {mark : κ → Option β} {name predecessor : κ}
    {node : Node κ γ} (hnode : nodes name = some node)
    (hpredecessor : node.maybePredecessor = some predecessor) :
    nearest nodes mark name = (mark name).or (nearest nodes mark predecessor) := by
  rw [nearest, h.lineage_succeeds hnode hpredecessor, List.findSome?_cons]
  cases mark name with
  | none => rfl
  | some found => rfl

theorem findSome?_eq_of_forall {names : List κ} {mark marked : κ → Option β}
    (hmarks : ∀ name ∈ names, marked name = mark name) :
    names.findSome? marked = names.findSome? mark := by
  induction names with
  | nil => rfl
  | cons name names ih =>
      rw [List.findSome?_cons, List.findSome?_cons, hmarks name List.mem_cons_self,
        ih fun other hother => hmarks other (List.mem_cons_of_mem _ hother)]

/-- The nearest mark stays as it is while nodes are added and none of the others is marked. -/
theorem nearest_eq_of_kept (h : Linear nodes) (hlater : Linear after)
    (hkept : ∀ name node, nodes name = some node → ∃ found, after name = some found ∧
      found.maybePredecessor = node.maybePredecessor) {mark marked : κ → Option β}
    (hmarks : ∀ name node, nodes name = some node → marked name = mark name) {name : κ}
    {node : Node κ γ} (hnode : nodes name = some node) :
    nearest after marked name = nearest nodes mark name := by
  rw [nearest, nearest, h.lineage_eq_of_kept hlater hkept hnode]
  apply findSome?_eq_of_forall
  intro ancestor hmem
  obtain ⟨found, hfound⟩ := h.exists_of_mem_lineage hnode hmem
  exact hmarks ancestor found hfound

end Linear

end WorkGate.Library
