/-
# Journals of credited amounts

An account has a goal.  Events are recorded against accounts, each under an
identity and a mark of its own; an event is credited when its account has not
reached the goal and its mark was never recorded before, and it closes the
account when its credit reaches the goal.

The journal is the list of recorded events, newest first, and the balance of an
account is by definition the sum of its credits.  An implementation that keeps a
running sum, a set of used marks and a flag per account is correct when these
agree with its journal; everything an accountant then asks (no mark pays twice,
one closing event exactly when the goal is reached, balances only grow) is proved
here once.
-/

import Mathlib.Algebra.BigOperators.Group.List.Basic
import Mathlib.Algebra.GroupWithZero.Nat
import Mathlib.Algebra.Order.Group.Nat

namespace WorkGate.Library

universe uα uε uφ

/-- One event recorded in a journal. -/
structure JournalEntry (α : Type uα) (ε : Type uε) (φ : Type uφ) where
  /-- The account the event was recorded against. -/
  account : α
  /-- The identity under which the event was recorded. -/
  event : ε
  /-- What the event must not share with an earlier one to be credited. -/
  mark : φ
  /-- What the event is worth. -/
  amount : ℕ
  /-- Whether the account was credited. -/
  credited : Bool
  /-- Whether this credit reached the goal. -/
  closing : Bool

namespace Journal

variable {α : Type uα} {ε : Type uε} {φ : Type uφ} [DecidableEq α]

/-- What one event contributes to an account. -/
def contribution (account : α) (entry : JournalEntry α ε φ) : ℕ :=
  if entry.account = account ∧ entry.credited = true then entry.amount else 0

/-- The credits of an account, summed. -/
def balance (journal : List (JournalEntry α ε φ)) (account : α) : ℕ :=
  (journal.map (contribution account)).sum

@[simp]
theorem balance_nil (account : α) : balance ([] : List (JournalEntry α ε φ)) account = 0 := rfl

@[simp]
theorem balance_cons (entry : JournalEntry α ε φ) (rest : List (JournalEntry α ε φ))
    (account : α) :
    balance (entry :: rest) account = contribution account entry + balance rest account := by
  simp [balance]

theorem balance_eq_zero_of_not_mem {journal : List (JournalEntry α ε φ)} {account : α}
    (hnone : ∀ entry ∈ journal, entry.account ≠ account) : balance journal account = 0 := by
  induction journal with
  | nil => rfl
  | cons entry rest ih =>
      have hentry : entry.account ≠ account := hnone entry (by simp)
      have hrest : balance rest account = 0 := ih fun e he => hnone e (by simp [he])
      simp [contribution, hentry, hrest]

/-- A journal kept by the rules, for accounts with the goals `goal`. -/
inductive Valid (goal : α → Option ℕ) : List (JournalEntry α ε φ) → Prop
  | nil : Valid goal []
  | record {entry : JournalEntry α ε φ} {rest : List (JournalEntry α ε φ)}
      (prior : Valid goal rest) {amount : ℕ} (hopen : goal entry.account = some amount)
      (hevent : ∀ e ∈ rest, e.event ≠ entry.event)
      (hcredited : entry.credited = true ↔
        balance rest entry.account < amount ∧ ∀ e ∈ rest, e.mark ≠ entry.mark)
      (hclosing : entry.closing = true ↔
        balance rest entry.account < amount ∧ amount ≤ balance (entry :: rest) entry.account) :
      Valid goal (entry :: rest)

namespace Valid

variable {goal : α → Option ℕ} {journal : List (JournalEntry α ε φ)}

/-- Opening further accounts keeps a journal valid. -/
theorem mono (hvalid : Valid goal journal) {goal' : α → Option ℕ}
    (hextends : ∀ account amount, goal account = some amount → goal' account = some amount) :
    Valid goal' journal := by
  induction hvalid with
  | nil => exact Valid.nil
  | record prior hopen hevent hcredited hclosing ih =>
      exact ih.record (hextends _ _ hopen) hevent hcredited hclosing

/-- Events are recorded against open accounts. -/
theorem account_open (hvalid : Valid goal journal) {entry : JournalEntry α ε φ}
    (hmem : entry ∈ journal) : ∃ amount, goal entry.account = some amount := by
  induction hvalid with
  | nil => simp at hmem
  | record prior hopen hevent hcredited hclosing ih =>
      rcases List.mem_cons.mp hmem with rfl | hrest
      · exact ⟨_, hopen⟩
      · exact ih hrest

/-- No mark is credited twice, over all accounts. -/
theorem eq_of_credited_of_mark_eq (hvalid : Valid goal journal)
    {first second : JournalEntry α ε φ} (hfirst : first ∈ journal) (hsecond : second ∈ journal)
    (hcfirst : first.credited = true) (hcsecond : second.credited = true)
    (hmark : first.mark = second.mark) : first = second := by
  induction hvalid with
  | nil => simp at hfirst
  | record prior hopen hevent hcredited hclosing ih =>
      rcases List.mem_cons.mp hfirst with rfl | hfirst'
      · rcases List.mem_cons.mp hsecond with rfl | hsecond'
        · rfl
        · exact absurd hmark.symm ((hcredited.mp hcfirst).2 second hsecond')
      · rcases List.mem_cons.mp hsecond with rfl | hsecond'
        · exact absurd hmark ((hcredited.mp hcsecond).2 first hfirst')
        · exact ih hfirst' hsecond'

/-- A closing event is recorded only once the balance has reached the goal. -/
theorem goal_le_of_closing (hvalid : Valid goal journal) {entry : JournalEntry α ε φ}
    (hmem : entry ∈ journal) (hclosing : entry.closing = true) {amount : ℕ}
    (hgoal : goal entry.account = some amount) : amount ≤ balance journal entry.account := by
  induction hvalid with
  | nil => simp at hmem
  | @record newest rest prior amount' hopen hevent hcredited hclose ih =>
      rcases List.mem_cons.mp hmem with rfl | hrest
      · obtain rfl : amount = amount' := by
          rw [hopen] at hgoal
          exact (Option.some.inj hgoal).symm
        exact (hclose.mp hclosing).2
      · have hprior := ih hrest
        rw [balance_cons]
        omega

/-- At most one event closes an account. -/
theorem eq_of_closing (hvalid : Valid goal journal)
    {first second : JournalEntry α ε φ} (hfirst : first ∈ journal) (hsecond : second ∈ journal)
    (hcfirst : first.closing = true) (hcsecond : second.closing = true)
    (haccount : first.account = second.account) : first = second := by
  induction hvalid with
  | nil => simp at hfirst
  | @record newest rest prior amount hopen hevent hcredited hclose ih =>
      -- An event recorded after a closing one meets a balance at the goal already.
      have hlate : ∀ entry ∈ rest, entry.closing = true → entry.account = newest.account →
          newest.closing = true → False := by
        intro entry hentry hec hea hnew
        have hreached := prior.goal_le_of_closing hentry hec (hea ▸ hopen)
        rw [hea] at hreached
        have hbelow := (hclose.mp hnew).1
        omega
      rcases List.mem_cons.mp hfirst with rfl | hfirst'
      · rcases List.mem_cons.mp hsecond with rfl | hsecond'
        · rfl
        · exact absurd hcfirst fun h => hlate second hsecond' hcsecond haccount.symm h
      · rcases List.mem_cons.mp hsecond with rfl | hsecond'
        · exact absurd hcsecond fun h => hlate first hfirst' hcfirst haccount h
        · exact ih hfirst' hsecond'

/-- An account with a positive goal has a closing event exactly when its balance
has reached the goal. -/
theorem exists_closing_iff (hvalid : Valid goal journal) {account : α} {amount : ℕ}
    (hgoal : goal account = some amount) (hpos : 0 < amount) :
    (∃ entry ∈ journal, entry.account = account ∧ entry.closing = true) ↔
      amount ≤ balance journal account := by
  constructor
  · rintro ⟨entry, hmem, rfl, hclosing⟩
    exact hvalid.goal_le_of_closing hmem hclosing hgoal
  · intro hreached
    induction hvalid with
    | nil =>
        rw [balance_nil] at hreached
        omega
    | @record newest rest prior amount' hopen hevent hcredited hclose ih =>
        by_cases hbefore : amount ≤ balance rest account
        · obtain ⟨entry, hmem, hrest⟩ := ih hbefore
          exact ⟨entry, List.mem_cons_of_mem _ hmem, hrest⟩
        · -- The goal was reached by the newest event, which is therefore this account's.
          have haccount : newest.account = account := by
            by_contra hne
            rw [balance_cons, contribution, if_neg fun h => hne h.1] at hreached
            omega
          subst haccount
          obtain rfl : amount = amount' := by
            rw [hopen] at hgoal
            exact (Option.some.inj hgoal).symm
          exact ⟨newest, List.mem_cons_self, rfl, hclose.mpr ⟨by omega, hreached⟩⟩

end Valid

end Journal

end WorkGate.Library
