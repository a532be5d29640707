/-
# Machines that answer requests, and the histories of their runs

A service is seen here as a deterministic machine: it holds a state, takes one
request at a time and answers it.  What may arrive, and in which order, is left
to the environment, so the machine also says which requests its environment may
present after a given history; clocks that never run backwards and callers that
only use handles they were given are restrictions of that kind.

A history lists the requests with their answers, newest first.  Extending a
history therefore conses, and "before" means "further down the list".
-/

import Mathlib.Data.Nat.Notation
import Mathlib.Logic.Relation

namespace WorkGate.Library

universe uσ uι uο

/-- A state machine over states `σ`, requests `ι` and answers `ο`. -/
structure Machine (σ : Type uσ) (ι : Type uι) (ο : Type uο) where
  /-- The state before any request. -/
  init : σ
  /-- The requests the environment may present after a history. -/
  admits : List (ι × ο) → σ → ι → Prop
  /-- The answer to one request, with the state it leaves. -/
  step : σ → ι → σ × ο

namespace Machine

variable {σ : Type uσ} {ι : Type uι} {ο : Type uο} (M : Machine σ ι ο)

/-- One run continued from the point `(history, state)` to a later point. -/
inductive Continues (history : List (ι × ο)) (state : σ) : List (ι × ο) → σ → Prop
  | refl : Continues history state history state
  | extend {later : List (ι × ο)} {reached : σ} (prior : Continues history state later reached)
      (input : ι) (hadmits : M.admits later reached input) :
      Continues history state
        ((input, (M.step reached input).2) :: later) (M.step reached input).1

/-- The points a run from the initial state reaches. -/
def Run (history : List (ι × ο)) (state : σ) : Prop :=
  M.Continues [] M.init history state

variable {M}

theorem Run.start : M.Run [] M.init := Continues.refl

theorem Run.extend {history : List (ι × ο)} {state : σ} (hrun : M.Run history state)
    (input : ι) (hadmits : M.admits history state input) :
    M.Run ((input, (M.step state input).2) :: history) (M.step state input).1 :=
  Continues.extend hrun input hadmits

theorem Continues.trans {h₁ h₂ h₃ : List (ι × ο)} {s₁ s₂ s₃ : σ}
    (first : M.Continues h₁ s₁ h₂ s₂) (second : M.Continues h₂ s₂ h₃ s₃) :
    M.Continues h₁ s₁ h₃ s₃ := by
  induction second with
  | refl => exact first
  | extend _ input hadmits ih => exact ih.extend input hadmits

/-- Continuing a run gives a run. -/
theorem Run.trans {h₁ h₂ : List (ι × ο)} {s₁ s₂ : σ} (hrun : M.Run h₁ s₁)
    (hcontinues : M.Continues h₁ s₁ h₂ s₂) : M.Run h₂ s₂ :=
  Continues.trans hrun hcontinues

/-- What every admitted step keeps, every continuation keeps. -/
theorem Continues.preserves {P : List (ι × ο) → σ → Prop}
    (hstep : ∀ history state input, M.admits history state input → P history state →
      P ((input, (M.step state input).2) :: history) (M.step state input).1)
    {h₁ h₂ : List (ι × ο)} {s₁ s₂ : σ} (hcontinues : M.Continues h₁ s₁ h₂ s₂)
    (hstart : P h₁ s₁) : P h₂ s₂ := by
  induction hcontinues with
  | refl => exact hstart
  | extend _ input hadmits ih => exact hstep _ _ input hadmits ih

/-- The invariant rule: true at the start and kept by every admitted step, hence
true along every run. -/
theorem Run.invariant {P : List (ι × ο) → σ → Prop} (hinit : P [] M.init)
    (hstep : ∀ history state input, M.admits history state input → P history state →
      P ((input, (M.step state input).2) :: history) (M.step state input).1)
    {history : List (ι × ο)} {state : σ} (hrun : M.Run history state) : P history state :=
  Continues.preserves hstep hrun hinit

/-- The invariant rule with an invariant already established along runs. -/
theorem Run.invariant_of {Q P : List (ι × ο) → σ → Prop}
    (hknown : ∀ history state, M.Run history state → Q history state)
    (hinit : P [] M.init)
    (hstep : ∀ history state input, M.admits history state input → Q history state →
      P history state →
      P ((input, (M.step state input).2) :: history) (M.step state input).1)
    {history : List (ι × ο)} {state : σ} (hrun : M.Run history state) : P history state := by
  have hboth : M.Run history state ∧ P history state := by
    refine Run.invariant (P := fun h s => M.Run h s ∧ P h s) ⟨Run.start, hinit⟩ ?_ hrun
    rintro h s input hadmits ⟨hprior, hholds⟩
    exact ⟨hprior.extend input hadmits, hstep h s input hadmits (hknown h s hprior) hholds⟩
  exact hboth.2

/-- Every entry of a history was answered by the machine at a point the same run
passed through. -/
theorem Run.split {later earlier : List (ι × ο)} {entry : ι × ο} {state : σ}
    (hrun : M.Run (later ++ entry :: earlier) state) :
    ∃ before, M.Run earlier before ∧ M.admits earlier before entry.1 ∧
      entry.2 = (M.step before entry.1).2 ∧
      M.Continues (entry :: earlier) (M.step before entry.1).1
        (later ++ entry :: earlier) state := by
  generalize hfull : later ++ entry :: earlier = full at hrun
  induction hrun generalizing later with
  | refl => simp at hfull
  | @extend history reached prior input hadmits ih =>
      cases later with
      | nil =>
          obtain ⟨rfl, rfl⟩ := List.cons.inj hfull
          exact ⟨reached, prior, hadmits, rfl, Continues.refl⟩
      | cons newest rest =>
          obtain ⟨rfl, hrest⟩ := List.cons.inj hfull
          obtain ⟨before, hbefore, hadm, hanswer, hcont⟩ := ih hrest
          exact ⟨before, hbefore, hadm, hanswer, hcont.extend input hadmits⟩

variable (M) in
/-- The same machine in an environment that also respects `condition`. -/
def under (condition : List (ι × ο) → σ → ι → Prop) : Machine σ ι ο :=
  { M with admits := fun history state input =>
      M.admits history state input ∧ condition history state input }

/-- A restricted environment continues runs only as the original machine does. -/
theorem Continues.of_under {condition : List (ι × ο) → σ → ι → Prop} {h₁ h₂ : List (ι × ο)}
    {s₁ s₂ : σ} (hcontinues : (M.under condition).Continues h₁ s₁ h₂ s₂) :
    M.Continues h₁ s₁ h₂ s₂ := by
  induction hcontinues with
  | refl => exact .refl
  | extend _ input hadmits ih => exact ih.extend input hadmits.1

theorem Run.of_under {condition : List (ι × ο) → σ → ι → Prop} {history : List (ι × ο)}
    {state : σ} (hrun : (M.under condition).Run history state) : M.Run history state :=
  Continues.of_under hrun

/-! ## Steps of a history -/

variable (M) in
/-- The state a history leaves. -/
def stateAfter : List (ι × ο) → σ
  | [] => M.init
  | (input, _) :: earlier => (M.step (stateAfter earlier) input).1

theorem Run.stateAfter_eq {history : List (ι × ο)} {state : σ} (hrun : M.Run history state) :
    M.stateAfter history = state := by
  refine Run.invariant (P := fun h s => M.stateAfter h = s) rfl ?_ hrun
  rintro h s input - rfl
  rfl

variable (M) in
/-- How many steps of a history pass a test on the state before, the request and the state
after. -/
def countSteps (test : σ → ι → σ → Bool) : List (ι × ο) → ℕ
  | [] => 0
  | (input, _) :: earlier => countSteps test earlier +
      if test (M.stateAfter earlier) input (M.step (M.stateAfter earlier) input).1 then 1 else 0

/-- A count kept by the state: it starts at zero and every step adds its test. -/
theorem Run.countSteps_eq (test : σ → ι → σ → Bool) (count : σ → ℕ) (hinit : count M.init = 0)
    (hstep : ∀ state input, count (M.step state input).1 =
      count state + if test state input (M.step state input).1 then 1 else 0)
    {history : List (ι × ο)} {state : σ} (hrun : M.Run history state) :
    M.countSteps test history = count state := by
  have hboth : M.Run history state ∧ M.countSteps test history = count state := by
    refine Run.invariant (P := fun h s => M.Run h s ∧ M.countSteps test h = count s)
      ⟨Run.start, hinit.symm⟩ ?_ hrun
    rintro h s input hadmits ⟨hprior, hcount⟩
    refine ⟨hprior.extend input hadmits, ?_⟩
    rw [countSteps, hprior.stateAfter_eq, hcount, hstep]
  exact hboth.2

/-- A step that happens once: it leaves the state marked, a mark stays, and no step from a
marked state passes the test. -/
theorem Run.countSteps_le_one (test : σ → ι → σ → Bool) (marked : σ → Prop)
    (hmarks : ∀ history state input, M.Run history state →
      test state input (M.step state input).1 = true →
      ¬ marked state ∧ marked (M.step state input).1)
    (hkeeps : ∀ history state input, M.Run history state → marked state →
      marked (M.step state input).1)
    {history : List (ι × ο)} {state : σ} (hrun : M.Run history state) :
    M.countSteps test history ≤ 1 := by
  have hboth : M.Run history state ∧ M.countSteps test history ≤ 1 ∧
      (0 < M.countSteps test history → marked state) := by
    refine Run.invariant (P := fun h s => M.Run h s ∧ M.countSteps test h ≤ 1 ∧
      (0 < M.countSteps test h → marked s)) ⟨Run.start, by simp [countSteps], ?_⟩ ?_ hrun
    · intro hpositive
      simp [countSteps] at hpositive
    · rintro h s input hadmits ⟨hprior, hcount, hmarked⟩
      refine ⟨hprior.extend input hadmits, ?_⟩
      rw [countSteps, hprior.stateAfter_eq]
      cases htest : test s input (M.step s input).1 with
      | false => exact ⟨hcount, fun hpositive => hkeeps h s input hprior (hmarked hpositive)⟩
      | true =>
          obtain ⟨hfree, hafter⟩ := hmarks h s input hprior htest
          have hzero : M.countSteps test h = 0 := Nat.eq_zero_of_not_pos fun hpositive =>
            hfree (hmarked hpositive)
          simp [hzero, hafter]
  exact hboth.2.1

/-! ## Runs on given requests -/

variable (M) in
/-- Answer a list of requests, the first one first, from a point of a run. -/
def replayFrom : List (ι × ο) × σ → List ι → List (ι × ο) × σ
  | point, [] => point
  | (history, state), input :: inputs =>
      replayFrom ((input, (M.step state input).2) :: history, (M.step state input).1) inputs

variable (M) in
/-- Whether the environment may present the requests in that order. -/
def AdmitsAll : List (ι × ο) × σ → List ι → Prop
  | _, [] => True
  | (history, state), input :: inputs =>
      M.admits history state input ∧
        AdmitsAll ((input, (M.step state input).2) :: history, (M.step state input).1) inputs

/-- An environment without restrictions presents anything. -/
theorem admitsAll_of_forall (hadmits : ∀ history state input, M.admits history state input)
    (point : List (ι × ο) × σ) (inputs : List ι) : M.AdmitsAll point inputs := by
  induction inputs generalizing point with
  | nil => exact trivial
  | cons input inputs ih => exact ⟨hadmits _ _ _, ih _⟩

/-- The requests answered from the initial state. -/
def replay (M : Machine σ ι ο) (inputs : List ι) : List (ι × ο) × σ :=
  M.replayFrom ([], M.init) inputs

theorem continues_replayFrom (point : List (ι × ο) × σ) (inputs : List ι)
    (hadmits : M.AdmitsAll point inputs) :
    M.Continues point.1 point.2 (M.replayFrom point inputs).1 (M.replayFrom point inputs).2 := by
  induction inputs generalizing point with
  | nil => exact Continues.refl
  | cons input inputs ih =>
      obtain ⟨history, state⟩ := point
      have hstart : M.Continues history state history state := Continues.refl
      have hfirst := hstart.extend input hadmits.1
      exact hfirst.trans (ih _ hadmits.2)

instance decidableAdmitsAll
    [∀ history state input, Decidable (M.admits history state input)] :
    (point : List (ι × ο) × σ) → (inputs : List ι) → Decidable (M.AdmitsAll point inputs)
  | _, [] => isTrue trivial
  | (history, state), input :: inputs =>
      haveI := decidableAdmitsAll
        ((input, (M.step state input).2) :: history, (M.step state input).1) inputs
      inferInstanceAs (Decidable (M.admits history state input ∧ M.AdmitsAll
        ((input, (M.step state input).2) :: history, (M.step state input).1) inputs))

instance decidableAdmitsUnder {condition : List (ι × ο) → σ → ι → Prop}
    [∀ history state input, Decidable (M.admits history state input)]
    [∀ history state input, Decidable (condition history state input)]
    (history : List (ι × ο)) (state : σ) (input : ι) :
    Decidable ((M.under condition).admits history state input) :=
  inferInstanceAs (Decidable (M.admits history state input ∧ condition history state input))

theorem replayFrom_concat (point : List (ι × ο) × σ) (inputs : List ι) (input : ι) :
    M.replayFrom point (inputs ++ [input]) =
      ((input, (M.step (M.replayFrom point inputs).2 input).2) :: (M.replayFrom point inputs).1,
        (M.step (M.replayFrom point inputs).2 input).1) := by
  induction inputs generalizing point with
  | nil => rfl
  | cons first inputs ih => exact ih _

/-- The last request is answered at the point the others lead to. -/
theorem replay_concat (inputs : List ι) (input : ι) :
    M.replay (inputs ++ [input]) =
      ((input, (M.step (M.replay inputs).2 input).2) :: (M.replay inputs).1,
        (M.step (M.replay inputs).2 input).1) :=
  replayFrom_concat ([], M.init) inputs input

/-- Admitted requests give a run. -/
theorem run_replay (inputs : List ι) (hadmits : M.AdmitsAll ([], M.init) inputs) :
    M.Run (M.replay inputs).1 (M.replay inputs).2 :=
  continues_replayFrom ([], M.init) inputs hadmits

end Machine

end WorkGate.Library
