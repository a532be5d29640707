/-
# Methods that may throw part of the way

A method of an object may change the object and then throw, and the change stays.  Seen as a
computation it therefore leaves a state in either case.  These rules take apart a call that did
not throw, one statement at a time.
-/

import Mathlib.Data.Nat.Notation

namespace WorkGate.Library

/-- A computation on objects of type `σ` that may throw. -/
abbrev Attempt (σ ε α : Type) : Type := ExceptT ε (StateM σ) α

namespace Attempt

variable {σ ε α β : Type}

/-- The call returns that value and leaves that object. -/
def Returns (attempt : Attempt σ ε α) (state : σ) (value : α) (after : σ) : Prop :=
  attempt.run state = (.ok value, after)

variable {attempt : Attempt σ ε α} {next : α → Attempt σ ε β} {state after : σ} {value : α}

/-- The second statement runs on what the first one left, unless the first one threw. -/
theorem run_bind : (attempt >>= next).run state =
    match attempt.run state with
    | (.ok found, between) => (next found).run between
    | (.error error, between) => (.error error, between) := by
  simp only [ExceptT.run, bind, ExceptT.bind, ExceptT.mk, StateT.bind, ExceptT.bindCont]
  cases attempt state with
  | mk answer between =>
      cases answer with
      | error error => rfl
      | ok found => rfl

theorem run_pure : (pure value : Attempt σ ε α).run state = (.ok value, state) := rfl

theorem run_get : (get : Attempt σ ε σ).run state = (.ok state, state) := rfl

theorem run_modify {change : σ → σ} :
    (modify change : Attempt σ ε Unit).run state = (.ok (), change state) := rfl

@[simp]
theorem returns_bind {result : β} :
    Returns (attempt >>= next) state result after ↔
      ∃ found between, Returns attempt state found between ∧
        Returns (next found) between result after := by
  simp only [Returns, run_bind]
  cases attempt.run state with
  | mk answer between =>
      cases answer with
      | error error =>
          constructor
          · intro h
            cases h
          · rintro ⟨found, other, hfound, -⟩
            cases hfound
      | ok found =>
          constructor
          · intro h
            exact ⟨found, between, rfl, h⟩
          · rintro ⟨other, reached, hother, hnext⟩
            cases hother
            exact hnext

@[simp]
theorem returns_pure {result : α} :
    Returns (pure value : Attempt σ ε α) state result after ↔ result = value ∧ after = state := by
  constructor
  · intro h
    cases h
    exact ⟨rfl, rfl⟩
  · rintro ⟨rfl, rfl⟩
    rfl

@[simp]
theorem returns_map {change : α → β} {result : β} :
    Returns (change <$> attempt) state result after ↔
      ∃ found, Returns attempt state found after ∧ result = change found := by
  rw [map_eq_pure_bind, returns_bind]
  constructor
  · rintro ⟨found, between, hfound, hresult⟩
    rw [returns_pure] at hresult
    exact ⟨found, hresult.2 ▸ hfound, hresult.1⟩
  · rintro ⟨found, hfound, rfl⟩
    exact ⟨found, after, hfound, returns_pure.mpr ⟨rfl, rfl⟩⟩

@[simp]
theorem returns_throw {error : ε} {result : α} :
    Returns (throw error : Attempt σ ε α) state result after ↔ False := by
  constructor
  · intro h
    cases h
  · exact False.elim

@[simp]
theorem returns_get {result : σ} :
    Returns (get : Attempt σ ε σ) state result after ↔ result = state ∧ after = state := by
  constructor
  · intro h
    cases h
    exact ⟨rfl, rfl⟩
  · rintro ⟨rfl, rfl⟩
    rfl

@[simp]
theorem returns_modify {change : σ → σ} {result : Unit} :
    Returns (modify change : Attempt σ ε Unit) state result after ↔ after = change state := by
  constructor
  · intro h
    cases h
    rfl
  · rintro rfl
    rfl

@[simp]
theorem returns_ite {condition : Prop} [Decidable condition] {first second : Attempt σ ε α} :
    Returns (if condition then first else second) state value after ↔
      (condition ∧ Returns first state value after) ∨
        (¬ condition ∧ Returns second state value after) := by
  by_cases hcondition : condition
  · simp [hcondition]
  · simp [hcondition]

/-- Go on if the condition holds. -/
def ensure (condition : Bool) (error : ε) : Attempt σ ε Unit :=
  if condition then pure () else throw error

@[simp]
theorem returns_ensure {condition : Bool} {error : ε} {result : Unit} :
    Returns (ensure condition error : Attempt σ ε Unit) state result after ↔
      condition = true ∧ after = state := by
  cases condition with
  | true => simp [ensure]
  | false => simp [ensure]

/-- The value of a computation that touches no object. -/
def ofExcept (computed : Except ε α) : Attempt σ ε α :=
  match computed with
  | .ok value => pure value
  | .error error => throw error

@[simp]
theorem returns_ofExcept {computed : Except ε α} {result : α} :
    Returns (ofExcept computed : Attempt σ ε α) state result after ↔
      computed = .ok result ∧ after = state := by
  cases computed with
  | ok found =>
      constructor
      · intro h
        cases h
        exact ⟨rfl, rfl⟩
      · rintro ⟨h, rfl⟩
        cases h
        rfl
  | error error =>
      constructor
      · intro h
        cases h
      · rintro ⟨h, -⟩
        cases h

theorem run_ofExcept {computed : Except ε α} :
    (ofExcept computed : Attempt σ ε α).run state = (computed, state) := by
  cases computed with
  | ok found => rfl
  | error error => rfl

theorem run_ensure {condition : Bool} {error : ε} :
    (ensure condition error : Attempt σ ε Unit).run state =
      (if condition then .ok () else .error error, state) := by
  cases condition with
  | true => rfl
  | false => rfl

/-- A method of a part of the object.  What it leaves of the part is written back, thrown
or not. -/
def within {τ : Type} (part : τ) (write : τ → σ → σ) (attempt : Attempt τ ε α) :
    Attempt σ ε α :=
  fun state => ((attempt.run part).1, write (attempt.run part).2 state)

theorem run_within {τ : Type} {part : τ} {write : τ → σ → σ} {attempt : Attempt τ ε α} :
    (within part write attempt).run state =
      ((attempt.run part).1, write (attempt.run part).2 state) := rfl

/-- What the call leaves, thrown or not. -/
def left (attempt : Attempt σ ε α) (state : σ) : σ := (attempt.run state).2

/-- Whether the call threw. -/
def threw (attempt : Attempt σ ε α) (state : σ) : Bool :=
  match (attempt.run state).1 with
  | .error _ => true
  | .ok _ => false

/-- A call that did not throw returned something. -/
theorem returns_of_not_threw (h : attempt.threw state = false) :
    ∃ value, Returns attempt state value (attempt.left state) := by
  cases hrun : (attempt.run state : Except ε α × σ) with
  | mk answer after =>
      cases answer with
      | error error =>
          rw [threw, hrun] at h
          cases h
      | ok found =>
          refine ⟨found, ?_⟩
          rw [Returns, left, hrun]

end Attempt

end WorkGate.Library
