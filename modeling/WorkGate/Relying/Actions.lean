/-
# Executing a protected action

Workers claim the action under a lease and settle it; the store decides which of them it
still listens to.  The fence is the worker's name and the lease, not the number of the
attempt, and only a completion looks at the execution deadline, so an attempt that was
superseded under the same name, or a failure or retry that comes late, gets through.
Everything else about an outcome holds in every run.
-/

import WorkGate.Library.Past
import WorkGate.Relying.Redemption

namespace WorkGate

open WorkGate.Library

namespace RelyingDatabase

/-! ## Outcomes -/

/-- An outcome that is settled is never written again. -/
theorem Effect.keeps_outcome {db after : RelyingDatabase} {request : RelyingRequest}
    {reply : RelyingReply} (heffect : Effect db request reply after) {redemptionId : String}
    {outcome : OutcomeRow} (houtcome : db.outcomes.lookup redemptionId = some outcome)
    (hsettled : outcome.status ≠ .pending) :
    after.outcomes.lookup redemptionId = some outcome := by
  have hsettle : ∀ status safeResult safeReason terminalAt,
      settleOutcome status safeResult safeReason terminalAt outcome = outcome := by
    intro status safeResult safeReason terminalAt
    rw [settleOutcome, if_neg hsettled]
  have hupdate : ∀ other status safeResult safeReason terminalAt,
      (db.outcomes.updateRow other
        (settleOutcome status safeResult safeReason terminalAt)).lookup redemptionId =
          some outcome := by
    intro other status safeResult safeReason terminalAt
    rw [Rows.lookup_updateRow_eq, houtcome, Option.map_some, hsettle, ite_self]
  have hoverdue : ∀ now, (db.settleOverdue now).outcomes.lookup redemptionId = some outcome := by
    intro now
    rw [lookup_outcomes_settleOverdue, houtcome, Option.map_some, hsettle, ite_self]
  cases heffect with
  | refuses => exact houtcome
  | registers _ _ hexecution | proves _ _ _ _ hexecution => rw [hexecution.outcomes, houtcome]
  | links _ _ _ _ _ _ _ hexecution => rw [hexecution.outcomes, houtcome]
  | creates _ _ _ _ _ hnew _ _ _ _ _ _ _ houtcomes =>
      rw [houtcomes]
      exact lookup_insert_of_lookup hnew houtcome
  | settles _ now => exact hoverdue now
  | claims _ now => exact hoverdue now
  | completes _ _ _ _ _ _ _ _ _ _ _ _ houtcomes
  | fails _ _ _ _ _ _ _ _ _ houtcomes =>
      rw [houtcomes]
      exact hupdate _ _ _ _ _
  | retries _ _ _ _ _ _ _ _ houtcomes => rw [houtcomes, houtcome]

theorem outcome_of_continues {history later : List (RelyingRequest × RelyingReply)}
    {db reached : RelyingDatabase} (hcontinues : relyingStore.Continues history db later reached)
    {redemptionId : String} {outcome : OutcomeRow}
    (houtcome : db.outcomes.lookup redemptionId = some outcome)
    (hsettled : outcome.status ≠ .pending) :
    reached.outcomes.lookup redemptionId = some outcome := by
  induction hcontinues with
  | refl => exact houtcome
  | extend _ request _ ih => exact (Effect.of_step _ request).keeps_outcome ih hsettled

/-! ## Intents and outcomes agree -/

/-- An intent and the outcome of its redemption settle together. -/
inductive Agrees : Option ExecutionIntentRow → Option OutcomeRow → Prop
  | absent : Agrees none none
  | present {intent : ExecutionIntentRow} {outcome : OutcomeRow}
      (hcompleted : intent.status = .completed ↔ outcome.status = .succeeded)
      (hfailed : intent.status = .failed ↔ outcome.status = .failed) :
      Agrees (some intent) (some outcome)

theorem Agrees.map_status {maybeIntent : Option ExecutionIntentRow}
    {maybeOutcome : Option OutcomeRow} (hagrees : Agrees maybeIntent maybeOutcome) :
    (maybeIntent.map (·.status) = some .completed ↔
      maybeOutcome.map (·.status) = some .succeeded) ∧
    (maybeIntent.map (·.status) = some .failed ↔ maybeOutcome.map (·.status) = some .failed) := by
  cases hagrees with
  | absent => simp
  | present hcompleted hfailed => simpa using ⟨hcompleted, hfailed⟩

/-- An intent that is waiting or worked on has a pending outcome. -/
theorem Agrees.pending {intent : ExecutionIntentRow} {maybeOutcome : Option OutcomeRow}
    (hagrees : Agrees (some intent) maybeOutcome)
    (hworked : intent.status = .pending ∨ intent.status = .processing) :
    ∃ outcome, maybeOutcome = some outcome ∧ outcome.status = .pending := by
  cases hagrees with
  | @present _ outcome hcompleted hfailed =>
      refine ⟨outcome, rfl, ?_⟩
      cases hstatus : outcome.status with
      | pending => rfl
      | succeeded =>
          rw [hcompleted.mpr hstatus] at hworked
          obtain hworked | hworked := hworked <;> cases hworked
      | failed =>
          rw [hfailed.mpr hstatus] at hworked
          obtain hworked | hworked := hworked <;> cases hworked

theorem settleOutcome_pending {status : OutcomeStatus} {safeResult safeReason : Option String}
    {terminalAt : ℕ} {outcome : OutcomeRow} (hpending : outcome.status = .pending) :
    settleOutcome status safeResult safeReason terminalAt outcome =
      ⟨status, safeResult, safeReason, some terminalAt⟩ := by
  rw [settleOutcome, if_pos hpending]

/-- Every intent agrees with its outcome. -/
def OutcomesAgree (db : RelyingDatabase) : Prop :=
  ∀ redemptionId, Agrees (db.intents.lookup redemptionId) (db.outcomes.lookup redemptionId)

theorem OutcomesAgree.settleOverdue {db : RelyingDatabase} (hagree : OutcomesAgree db) (now : ℕ) :
    OutcomesAgree (db.settleOverdue now) := by
  intro redemptionId
  rw [lookup_intents_settleOverdue, lookup_outcomes_settleOverdue]
  have hbefore := hagree redemptionId
  cases hexhausted : db.isExhausted redemptionId now with
  | false => simpa using hbefore
  | true =>
      obtain ⟨-, intent, -, hintent, hworked⟩ := isExhausted_eq_true hexhausted
      rw [hintent] at hbefore ⊢
      obtain ⟨outcome, houtcome, hpending⟩ := hbefore.pending hworked
      rw [houtcome]
      simp only [if_true, Option.map_some, settleOutcome_pending hpending]
      exact .present (by simp [releasedIntent]) (by simp [releasedIntent])

/-- A lease holder's write to its intent and to its outcome. -/
theorem OutcomesAgree.of_leased {db after : RelyingDatabase} (hagree : OutcomesAgree db)
    {redemptionId workerId : String} {clock : ℕ}
    (hlease : db.holdsLease redemptionId workerId clock = true)
    {write : ExecutionIntentRow → ExecutionIntentRow} {settle : OutcomeRow → OutcomeRow}
    (hintents : after.intents = db.intents.updateRow redemptionId write)
    (houtcomes : after.outcomes = db.outcomes.updateRow redemptionId settle)
    (hwrites : ∀ intent outcome, outcome.status = .pending →
      Agrees (some (write intent)) (some (settle outcome))) : OutcomesAgree after := by
  intro other
  rw [hintents, houtcomes, Rows.lookup_updateRow_eq, Rows.lookup_updateRow_eq]
  split
  · next heq =>
      subst heq
      obtain ⟨intent, -, hintent, hstatus, -⟩ := holdsLease_eq_true hlease
      have hbefore := hagree other
      rw [hintent] at hbefore
      obtain ⟨outcome, houtcome, hpending⟩ := hbefore.pending (.inr hstatus)
      rw [hintent, houtcome]
      exact hwrites intent outcome hpending
  · exact hagree other

theorem OutcomesAgree.effect {db after : RelyingDatabase} {request : RelyingRequest}
    {reply : RelyingReply} (hagree : OutcomesAgree db)
    (heffect : Effect db request reply after) : OutcomesAgree after := by
  cases heffect with
  | refuses => exact hagree
  | registers _ _ hexecution | proves _ _ _ _ hexecution | links _ _ _ _ _ _ _ hexecution =>
      intro redemptionId
      rw [hexecution.intents, hexecution.outcomes]
      exact hagree redemptionId
  | creates _ redemptionId _ _ _ _ _ _ _ _ _ _ _ houtcomes hintents =>
      intro other
      rw [hintents, houtcomes, Rows.lookup_insert_eq, Rows.lookup_insert_eq]
      split
      · exact .present (by simp) (by simp)
      · exact hagree other
  | settles _ now => exact hagree.settleOverdue now
  | @claims _ now _ _ _ redemptionId _ _ hintent hclaimable =>
      intro other
      have hsettled := hagree.settleOverdue now other
      rw [startAttempt, Rows.lookup_updateRow_eq]
      split
      · next heq =>
          subst heq
          obtain ⟨-, -, -, -, hstatus⟩ := isClaimable_eq_true hclaimable
          rw [hintent] at hsettled ⊢
          obtain ⟨outcome, houtcome, hpending⟩ :=
            hsettled.pending (hstatus.imp_right And.left)
          rw [houtcome]
          exact .present (by simp [hpending]) (by simp [hpending])
      · exact hsettled
  | completes _ _ _ _ _ hlease _ _ _ _ _ hintents houtcomes =>
      apply hagree.of_leased hlease hintents houtcomes
      intro intent outcome hpending
      rw [settleOutcome_pending hpending]
      exact .present (by simp [releasedIntent]) (by simp [releasedIntent])
  | fails _ _ _ _ _ hlease _ _ hintents houtcomes =>
      apply hagree.of_leased hlease hintents houtcomes
      intro intent outcome hpending
      rw [settleOutcome_pending hpending]
      exact .present (by simp [releasedIntent]) (by simp [releasedIntent])
  | retries _ action _ _ hlease _ _ hintents houtcomes =>
      have hsame : after.outcomes = db.outcomes.updateRow action.redemptionId id := by
        apply AList.ext
        simp [houtcomes, Rows.updateRow, Rows.mapRows]
      apply hagree.of_leased hlease hintents hsame
      intro intent outcome hpending
      exact .present (by simp [releasedIntent, hpending]) (by simp [releasedIntent, hpending])

theorem outcomesAgree_of_run {history : List (RelyingRequest × RelyingReply)}
    {db : RelyingDatabase} (hrun : relyingStore.Run history db) : OutcomesAgree db := by
  refine Machine.Run.invariant (P := fun _ reached => OutcomesAgree reached) ?_ ?_ hrun
  · intro redemptionId
    exact .absent
  · intro _ reached request _ hagree
    exact hagree.effect (Effect.of_step reached request)

/-! ## Attempts are bounded -/

/-- Every intent has its redemption, and never more attempts than that allows. -/
def AttemptsBounded (db : RelyingDatabase) : Prop :=
  ∀ redemptionId intent, db.intents.lookup redemptionId = some intent →
    ∃ record, db.redemptions.lookup redemptionId = some record ∧
      intent.attemptCount ≤ record.maximumAttempts

/-- Writes that leave the count of attempts keep the bound. -/
theorem AttemptsBounded.of_counts {db after : RelyingDatabase} (hbounded : AttemptsBounded db)
    (hredemptions : after.redemptions = db.redemptions)
    (hcounts : ∀ redemptionId intent, after.intents.lookup redemptionId = some intent →
      ∃ prior, db.intents.lookup redemptionId = some prior ∧
        intent.attemptCount = prior.attemptCount) : AttemptsBounded after := by
  intro redemptionId intent hintent
  obtain ⟨prior, hprior, hsame⟩ := hcounts redemptionId intent hintent
  obtain ⟨record, hrecord, hle⟩ := hbounded redemptionId prior hprior
  exact ⟨record, hredemptions ▸ hrecord, hsame ▸ hle⟩

theorem AttemptsBounded.updateRow {db after : RelyingDatabase} (hbounded : AttemptsBounded db)
    {key : String} {write : ExecutionIntentRow → ExecutionIntentRow}
    (hredemptions : after.redemptions = db.redemptions)
    (hintents : after.intents = db.intents.updateRow key write)
    (hcount : ∀ intent, (write intent).attemptCount = intent.attemptCount) :
    AttemptsBounded after := by
  apply hbounded.of_counts hredemptions
  intro redemptionId intent hintent
  rw [hintents, Rows.lookup_updateRow_eq] at hintent
  split at hintent
  · obtain ⟨prior, hprior, rfl⟩ := Option.map_eq_some_iff.mp hintent
    exact ⟨prior, hprior, hcount prior⟩
  · exact ⟨intent, hintent, rfl⟩

theorem AttemptsBounded.settleOverdue {db : RelyingDatabase} (hbounded : AttemptsBounded db)
    (now : ℕ) : AttemptsBounded (db.settleOverdue now) := by
  have hredemptions : (db.settleOverdue now).redemptions = db.redemptions := rfl
  apply hbounded.of_counts hredemptions
  intro redemptionId intent hintent
  rw [lookup_intents_settleOverdue] at hintent
  obtain ⟨prior, hprior, rfl⟩ := Option.map_eq_some_iff.mp hintent
  refine ⟨prior, hprior, ?_⟩
  split <;> rfl

theorem AttemptsBounded.effect {db after : RelyingDatabase} {request : RelyingRequest}
    {reply : RelyingReply} (hbounded : AttemptsBounded db)
    (heffect : Effect db request reply after) : AttemptsBounded after := by
  cases heffect with
  | refuses => exact hbounded
  | registers _ hredemptions hexecution | proves _ _ _ hredemptions hexecution =>
      apply hbounded.of_counts hredemptions.redemptions
      intro redemptionId intent hintent
      exact ⟨intent, hexecution.intents ▸ hintent, rfl⟩
  | links _ _ _ _ _ hredemptions _ hexecution =>
      apply hbounded.of_counts hredemptions
      intro redemptionId intent hintent
      exact ⟨intent, hexecution.intents ▸ hintent, rfl⟩
  | creates _ redemptionId _ _ hnew _ _ _ _ _ _ hredemptions _ _ hintents =>
      intro other intent hintent
      rw [hintents, Rows.lookup_insert_eq] at hintent
      rw [hredemptions]
      split at hintent
      · next heq =>
          subst heq
          cases hintent
          exact ⟨_, AList.lookup_insert .., Nat.zero_le _⟩
      · obtain ⟨record, hrecord, hle⟩ := hbounded other intent hintent
        exact ⟨record, lookup_insert_of_lookup hnew hrecord, hle⟩
  | settles _ now => exact hbounded.settleOverdue now
  | @claims _ now _ _ _ redemptionId intent _ hintent hclaimable =>
      intro other found hfound
      rw [startAttempt, Rows.lookup_updateRow_eq] at hfound
      split at hfound
      · next heq =>
          subst heq
          obtain ⟨record, hrecord, -, hcount, -⟩ := isClaimable_eq_true hclaimable
          rw [hintent] at hfound
          cases hfound
          exact ⟨record, hrecord, hcount⟩
      · exact hbounded.settleOverdue now other found hfound
  | completes _ _ _ _ _ _ _ hredemptions _ _ _ hintents
  | fails _ _ _ _ _ _ hredemptions _ hintents
  | retries _ _ _ _ _ hredemptions _ hintents =>
      exact hbounded.updateRow hredemptions.redemptions hintents fun _ => rfl

theorem attemptsBounded_of_run {history : List (RelyingRequest × RelyingReply)}
    {db : RelyingDatabase} (hrun : relyingStore.Run history db) : AttemptsBounded db := by
  refine Machine.Run.invariant (P := fun _ reached => AttemptsBounded reached) ?_ ?_ hrun
  · intro redemptionId intent hintent
    simp [relyingStore, empty] at hintent
  · intro _ reached request _ hbounded
    exact hbounded.effect (Effect.of_step reached request)

/-! ## Leases are granted by claims -/

/-- A claim that handed a worker an attempt under a lease. -/
def GrantsLease (redemptionId workerId : String) (attemptNumber leaseExpiresAt : ℕ)
    (_ : List (RelyingRequest × RelyingReply)) (entry : RelyingRequest × RelyingReply) : Prop :=
  ∃ now locked attemptId claimed,
    entry = (.maybeClaimAction workerId now leaseExpiresAt locked attemptId,
      .claimed (some claimed)) ∧
    claimed.redemptionId = redemptionId ∧ claimed.attemptNumber = attemptNumber

/-- A claim of a redemption, which supersedes every attempt before it. -/
def Supersedes (redemptionId : String) (entry : RelyingRequest × RelyingReply) : Prop :=
  ∃ claimed, entry.2 = .claimed (some claimed) ∧ claimed.redemptionId = redemptionId

/-- An intent that is worked on is either as it was, or was claimed just now. -/
theorem Effect.processing_cases {db after : RelyingDatabase} {request : RelyingRequest}
    {reply : RelyingReply} (heffect : Effect db request reply after) {redemptionId : String}
    {intent : ExecutionIntentRow} (hintent : after.intents.lookup redemptionId = some intent)
    (hprocessing : intent.status = .processing) :
    (db.intents.lookup redemptionId = some intent ∧
      ¬ Supersedes redemptionId (request, reply)) ∨
    ∃ workerId leaseExpiresAt, intent.leaseOwner = some workerId ∧
      intent.leaseExpiresAtUnixSeconds = some leaseExpiresAt ∧
      GrantsLease redemptionId workerId intent.attemptCount leaseExpiresAt [] (request, reply) := by
  have hreleased : ∀ {key : String} {write : ExecutionIntentRow → ExecutionIntentRow},
      (∀ prior, (write prior).status ≠ .processing) →
      (db.intents.updateRow key write).lookup redemptionId = some intent →
      db.intents.lookup redemptionId = some intent := by
    intro key write hwrite hwritten
    rw [Rows.lookup_updateRow_eq] at hwritten
    split at hwritten
    · obtain ⟨prior, -, rfl⟩ := Option.map_eq_some_iff.mp hwritten
      exact absurd hprocessing (hwrite prior)
    · exact hwritten
  have hoverdue : ∀ now, (db.settleOverdue now).intents.lookup redemptionId = some intent →
      db.intents.lookup redemptionId = some intent := by
    intro now hsettled
    rw [lookup_intents_settleOverdue] at hsettled
    obtain ⟨prior, hprior, heq⟩ := Option.map_eq_some_iff.mp hsettled
    split at heq
    · rw [← heq] at hprocessing
      cases hprocessing
    · rw [hprior, heq]
  cases heffect with
  | refuses => exact .inl ⟨hintent, by simp [Supersedes]⟩
  | registers _ _ hexecution | proves _ _ _ _ hexecution | links _ _ _ _ _ _ _ hexecution =>
      exact .inl ⟨hexecution.intents ▸ hintent, by simp [Supersedes]⟩
  | creates _ _ _ _ _ _ _ _ _ _ _ _ _ _ hintents =>
      rw [hintents, Rows.lookup_insert_eq] at hintent
      split at hintent
      · cases hintent
        cases hprocessing
      · exact .inl ⟨hintent, by simp [Supersedes]⟩
  | settles _ now => exact .inl ⟨hoverdue now hintent, by simp [Supersedes]⟩
  | @claims workerId now leaseExpiresAt locked attemptId key found claimed hfound _ _ _ hid
      hcount =>
      rw [startAttempt, Rows.lookup_updateRow_eq] at hintent
      split at hintent
      · next heq =>
          rw [heq, hfound] at hintent
          cases hintent
          exact .inr ⟨workerId, leaseExpiresAt, rfl, rfl, now, locked, attemptId, claimed, rfl,
            hid.trans heq.symm, hcount⟩
      · next hne =>
          refine .inl ⟨hoverdue now hintent, ?_⟩
          rintro ⟨other, hother, hsame⟩
          cases hother
          exact hne (hsame.symm.trans hid)
  | completes _ _ _ _ _ _ _ _ _ _ _ hintents
  | fails _ _ _ _ _ _ _ _ hintents
  | retries _ _ _ _ _ _ _ hintents =>
      rw [hintents] at hintent
      exact .inl ⟨hreleased (fun _ => by simp [releasedIntent]) hintent, by simp [Supersedes]⟩

/-- The lease on an intent is the one its latest claim granted. -/
def LeasesGranted (history : List (RelyingRequest × RelyingReply)) (db : RelyingDatabase) : Prop :=
  ∀ redemptionId intent workerId leaseExpiresAt,
    db.intents.lookup redemptionId = some intent → intent.status = .processing →
    intent.leaseOwner = some workerId → intent.leaseExpiresAtUnixSeconds = some leaseExpiresAt →
      Since (GrantsLease redemptionId workerId intent.attemptCount leaseExpiresAt)
        (Supersedes redemptionId) history

theorem leasesGranted_of_run {history : List (RelyingRequest × RelyingReply)}
    {db : RelyingDatabase} (hrun : relyingStore.Run history db) : LeasesGranted history db := by
  refine Machine.Run.invariant (P := LeasesGranted) ?_ ?_ hrun
  · intro redemptionId intent workerId leaseExpiresAt hintent
    simp [relyingStore, empty] at hintent
  · intro earlier reached request _ hgranted redemptionId intent workerId leaseExpiresAt hintent
      hprocessing howner hexpires
    obtain ⟨hprior, hkeeps⟩ | ⟨owner, expiresAt, hnewOwner, hnewExpires, hgrants⟩ :=
      (Effect.of_step reached request).processing_cases hintent hprocessing
    · apply Since.later _ hkeeps
      exact hgranted redemptionId intent workerId leaseExpiresAt hprior hprocessing howner hexpires
    · rw [howner] at hnewOwner
      rw [hexpires] at hnewExpires
      cases hnewOwner
      cases hnewExpires
      exact Since.now hgrants

/-! ## Attempts that are running -/

/-- Only the current attempt of an intent runs, and attempts are told apart by number. -/
structure AttemptsFit (db : RelyingDatabase) : Prop where
  processing : ∀ attemptId attempt, db.attempts.lookup attemptId = some attempt →
    attempt.status = .processing →
      ∃ intent, db.intents.lookup attempt.redemptionId = some intent ∧
        intent.status = .processing ∧ attempt.attemptNumber = intent.attemptCount
  numbered : ∀ first second attempt other, db.attempts.lookup first = some attempt →
    db.attempts.lookup second = some other → attempt.redemptionId = other.redemptionId →
      attempt.attemptNumber = other.attemptNumber → first = second

theorem AttemptsFit.countP_le_one {db : RelyingDatabase} (hfit : AttemptsFit db)
    (redemptionId : String) :
    (db.attempts.entries.countP fun entry => entry.2.redemptionId == redemptionId &&
      entry.2.status == .processing) ≤ 1 := by
  apply Rows.countP_entries_le_one
  intro first second hfirst hsecond hstarted hother
  rw [Bool.and_eq_true, beq_iff_eq, beq_iff_eq] at hstarted hother
  have hfirst := Rows.mem_entries_iff.mp hfirst
  have hsecond := Rows.mem_entries_iff.mp hsecond
  obtain ⟨intent, hintent, -, hnumber⟩ := hfit.processing _ _ hfirst hstarted.2
  obtain ⟨same, hsame, -, hsecondNumber⟩ := hfit.processing _ _ hsecond hother.2
  rw [hstarted.1] at hintent
  rw [hother.1, hintent] at hsame
  cases hsame
  exact hfit.numbered _ _ _ _ hfirst hsecond (hstarted.1.trans hother.1.symm)
    (hnumber.trans hsecondNumber.symm)

/-- What an update of the attempts in place may do: end attempts, nothing else. -/
structure EndsAttempts (before after : Rows String AttemptRow) : Prop where
  same : ∀ attemptId attempt, after.lookup attemptId = some attempt →
    ∃ prior, before.lookup attemptId = some prior ∧ attempt.redemptionId = prior.redemptionId ∧
      attempt.attemptNumber = prior.attemptNumber ∧
      (attempt.status = .processing → attempt = prior)

theorem EndsAttempts.trans {before middle after : Rows String AttemptRow}
    (hfirst : EndsAttempts before middle) (hsecond : EndsAttempts middle after) :
    EndsAttempts before after := by
  constructor
  intro attemptId attempt hattempt
  obtain ⟨passed, hpassed, hid, hnumber, hkeeps⟩ := hsecond.same attemptId attempt hattempt
  obtain ⟨prior, hprior, hpriorId, hpriorNumber, hpriorKeeps⟩ :=
    hfirst.same attemptId passed hpassed
  refine ⟨prior, hprior, hid.trans hpriorId, hnumber.trans hpriorNumber, ?_⟩
  intro hprocessing
  have heq := hkeeps hprocessing
  rw [heq] at hprocessing ⊢
  exact hpriorKeeps hprocessing

theorem EndsAttempts.of_ends {rows : Rows String AttemptRow} {status : AttemptStatus}
    {completedAt : ℕ} (ends : AttemptRow → Prop) [DecidablePred ends]
    (hstatus : status ≠ .processing) :
    EndsAttempts rows (rows.mapRows fun _ attempt =>
      if ends attempt then
        { attempt with status := status, completedAtUnixSeconds := some completedAt }
      else attempt) := by
  constructor
  intro attemptId attempt hattempt
  rw [Rows.lookup_mapRows] at hattempt
  obtain ⟨prior, hprior, rfl⟩ := Option.map_eq_some_iff.mp hattempt
  refine ⟨prior, hprior, ?_, ?_, ?_⟩
  · split <;> rfl
  · split <;> rfl
  · intro hprocessing
    split at hprocessing
    · exact absurd hprocessing hstatus
    · next hkept => rw [if_neg hkept]

theorem EndsAttempts.numbered {before after : Rows String AttemptRow}
    (hends : EndsAttempts before after)
    (hnumbered : ∀ first second attempt other, before.lookup first = some attempt →
      before.lookup second = some other → attempt.redemptionId = other.redemptionId →
        attempt.attemptNumber = other.attemptNumber → first = second) :
    ∀ first second attempt other, after.lookup first = some attempt →
      after.lookup second = some other → attempt.redemptionId = other.redemptionId →
        attempt.attemptNumber = other.attemptNumber → first = second := by
  intro first second attempt other hattempt hother hid hnumber
  obtain ⟨prior, hprior, hpriorId, hpriorNumber, -⟩ := hends.same first attempt hattempt
  obtain ⟨same, hsame, hsameId, hsameNumber, -⟩ := hends.same second other hother
  apply hnumbered first second prior same hprior hsame
  · rw [← hpriorId, hid, hsameId]
  · rw [← hpriorNumber, hnumber, hsameNumber]

theorem endsAttempts_settleOverdue (db : RelyingDatabase) (now : ℕ) :
    EndsAttempts db.attempts (db.settleOverdue now).attempts :=
  (EndsAttempts.of_ends (fun attempt => _ = true) (by simp)).trans
    (EndsAttempts.of_ends (fun attempt => _ = true) (by simp))

/-- An attempt that is not abandoned is not one the abandoning statement is about. -/
theorem not_current_of_kept {test : AttemptRow → Bool} {now : ℕ} {prior attempt : AttemptRow}
    (hkept : (if test prior then
      { prior with status := .abandoned, completedAtUnixSeconds := some now } else prior) = attempt)
    (hprocessing : attempt.status = .processing) : attempt = prior ∧ test attempt = false := by
  cases htest : test prior with
  | false =>
      rw [htest, if_neg Bool.false_ne_true] at hkept
      rw [← hkept]
      exact ⟨rfl, htest⟩
  | true =>
      rw [htest, if_pos rfl] at hkept
      rw [← hkept] at hprocessing
      cases hprocessing

theorem isCurrentAttempt_eq {db : RelyingDatabase} {attempt : AttemptRow}
    {record : RedemptionRow} {intent : ExecutionIntentRow}
    (test : RedemptionRow → ExecutionIntentRow → Bool)
    (hrecord : db.redemptions.lookup attempt.redemptionId = some record)
    (hintent : db.intents.lookup attempt.redemptionId = some intent)
    (hrunning : attempt.status = .processing) (hworked : intent.status = .processing)
    (hnumber : attempt.attemptNumber = intent.attemptCount) :
    db.isCurrentAttempt test attempt = test record intent := by
  simp [isCurrentAttempt, hrecord, hintent, hrunning, hworked, hnumber]

/-- An attempt the clean-up left running runs under a lease that is still live. -/
theorem AttemptsFit.running_settleOverdue {db : RelyingDatabase} (hfit : AttemptsFit db)
    (hbounded : AttemptsBounded db) {now : ℕ} {attemptId : String} {attempt : AttemptRow}
    (hattempt : (db.settleOverdue now).attempts.lookup attemptId = some attempt)
    (hrunning : attempt.status = .processing) :
    ∃ intent, (db.settleOverdue now).intents.lookup attempt.redemptionId = some intent ∧
      intent.status = .processing ∧ attempt.attemptNumber = intent.attemptCount ∧
      leaseOver intent now = false := by
  have hlookup : (db.settleOverdue now).attempts.lookup attemptId = _ :=
    (Rows.lookup_mapRows _ _ _).trans (congrArg _ (Rows.lookup_mapRows _ _ _))
  rw [hlookup] at hattempt
  obtain ⟨passed, hpassed, hkept⟩ := Option.map_eq_some_iff.mp hattempt
  obtain ⟨prior, hprior, hfirst⟩ := Option.map_eq_some_iff.mp hpassed
  obtain ⟨heq, hterminal⟩ := not_current_of_kept hkept hrunning
  rw [← heq] at hfirst
  obtain ⟨rfl, hexpired⟩ := not_current_of_kept hfirst hrunning
  obtain ⟨intent, hintent, hworked, hnumber⟩ := hfit.processing _ _ hprior hrunning
  obtain ⟨record, hrecord, -⟩ := hbounded _ _ hintent
  have hlive : leaseOver intent now = false :=
    (isCurrentAttempt_eq _ hrecord hintent hrunning hworked hnumber).symm.trans hexpired
  have hbefore : decide (record.executionDeadlineUnixSeconds ≤ now) = false := by
    have hboth := (isCurrentAttempt_eq _ hrecord hintent hrunning hworked hnumber).symm.trans
      hterminal
    rw [Bool.or_eq_false_iff] at hboth
    exact hboth.1
  have hexhausted : db.isExhausted attempt.redemptionId now = false := by
    simp [isExhausted, hrecord, hintent, hworked, hlive, hbefore]
  refine ⟨intent, ?_, hworked, hnumber, hlive⟩
  rw [lookup_intents_settleOverdue, hintent, Option.map_some, hexhausted]
  rfl

/-! ## Settling in time -/

/-- A worker's claim to settle an action: who asks, for which attempt, at which time. -/
def settlement : RelyingRequest → Option (String × ClaimedAction × ℕ)
  | .completeAccountCreation workerId action _ clock _ => some (workerId, action, clock)
  | .failClaimedAction workerId action _ _ clock => some (workerId, action, clock)
  | .scheduleActionRetry workerId action _ clock => some (workerId, action, clock)
  | _ => none

/-- Whether the store's own fence lets a settlement through. -/
def passesFence (db : RelyingDatabase) : RelyingRequest → Bool
  | .completeAccountCreation workerId action _ clock _ =>
      db.holdsLease action.redemptionId workerId clock &&
        db.beforeDeadline action.redemptionId clock
  | .failClaimedAction workerId action _ _ clock =>
      db.holdsLease action.redemptionId workerId clock
  | .scheduleActionRetry workerId action _ clock =>
      db.holdsLease action.redemptionId workerId clock
  | _ => false

/-- Whether an attempt is the one its intent counts. -/
def isCurrent (db : RelyingDatabase) (action : ClaimedAction) : Bool :=
  match db.intents.lookup action.redemptionId with
  | none => false
  | some intent => intent.attemptCount == action.attemptNumber

/-- Whether a settlement that passes the fence comes from the current attempt and before the
execution deadline. -/
def settlesInTime (db : RelyingDatabase) (request : RelyingRequest) : Bool :=
  match settlement request with
  | none => true
  | some (_, action, clock) => !db.passesFence request ||
      (db.isCurrent action && db.beforeDeadline action.redemptionId clock)

theorem settlesInTime_eq_true {db : RelyingDatabase} {request : RelyingRequest}
    {workerId : String} {action : ClaimedAction} {clock : ℕ}
    (htime : db.settlesInTime request = true)
    (hsettlement : settlement request = some (workerId, action, clock))
    (hpasses : db.passesFence request = true) :
    db.isCurrent action = true ∧ db.beforeDeadline action.redemptionId clock = true := by
  rw [settlesInTime, hsettlement] at htime
  simpa [hpasses] using htime

theorem isCurrent_eq_true {db : RelyingDatabase} {action : ClaimedAction}
    {intent : ExecutionIntentRow} (hintent : db.intents.lookup action.redemptionId = some intent)
    (h : db.isCurrent action = true) : intent.attemptCount = action.attemptNumber := by
  rw [isCurrent, hintent] at h
  exact beq_iff_eq.mp h

/-- The current attempt of an intent ends with the lease it runs under. -/
theorem AttemptsFit.of_settles {db after : RelyingDatabase} (hfit : AttemptsFit db)
    {action : ClaimedAction} {workerId : String} {clock completedAt : ℕ}
    {status : AttemptStatus} {write : ExecutionIntentRow → ExecutionIntentRow}
    (hlease : db.holdsLease action.redemptionId workerId clock = true)
    (hcurrent : db.isCurrent action = true) (hstatus : status ≠ .processing)
    (hintents : after.intents = db.intents.updateRow action.redemptionId write)
    (hattempts : after.attempts = (db.endAttempt action status completedAt).attempts) :
    AttemptsFit after := by
  have hends : EndsAttempts db.attempts after.attempts := by
    rw [hattempts]
    exact EndsAttempts.of_ends (fun attempt => attempt.redemptionId = action.redemptionId ∧
      attempt.attemptNumber = action.attemptNumber ∧ attempt.status = .processing) hstatus
  obtain ⟨current, -, hfound, -⟩ := holdsLease_eq_true hlease
  constructor
  · intro attemptId attempt hattempt hrunning
    obtain ⟨prior, hprior, -, -, hkept⟩ := hends.same attemptId attempt hattempt
    have heq := hkept hrunning
    subst heq
    obtain ⟨intent, hintent, hworked, hnumber⟩ := hfit.processing _ _ hprior hrunning
    by_cases hsame : attempt.redemptionId = action.redemptionId
    · rw [hsame, hfound] at hintent
      cases hintent
      have hacts : attempt.attemptNumber = action.attemptNumber :=
        hnumber.trans (isCurrent_eq_true hfound hcurrent)
      rw [hattempts, endAttempt, Rows.lookup_mapRows, hprior, Option.map_some,
        if_pos ⟨hsame, hacts, hrunning⟩] at hattempt
      have hended := congrArg AttemptRow.status (Option.some.inj hattempt)
      exact absurd (hended.trans hrunning) hstatus
    · refine ⟨intent, ?_, hworked, hnumber⟩
      rw [hintents, Rows.lookup_updateRow_ne hsame, hintent]
  · exact hends.numbered hfit.numbered

theorem AttemptsFit.effect {db after : RelyingDatabase} {request : RelyingRequest}
    {reply : RelyingReply} (hfit : AttemptsFit db) (hbounded : AttemptsBounded db)
    (htime : db.settlesInTime request = true)
    (heffect : Effect db request reply after) : AttemptsFit after := by
  cases heffect with
  | refuses => exact hfit
  | registers _ _ hexecution | proves _ _ _ _ hexecution | links _ _ _ _ _ _ _ hexecution =>
      constructor
      · rw [hexecution.attempts, hexecution.intents]
        exact hfit.processing
      · rw [hexecution.attempts]
        exact hfit.numbered
  | creates _ redemptionId _ _ _ _ hnew _ _ _ _ _ _ _ hintents hattempts =>
      constructor
      · intro attemptId attempt hattempt hrunning
        rw [hattempts] at hattempt
        obtain ⟨intent, hintent, hrest⟩ := hfit.processing _ _ hattempt hrunning
        rw [hintents]
        exact ⟨intent, lookup_insert_of_lookup hnew hintent, hrest⟩
      · rw [hattempts]
        exact hfit.numbered
  | settles _ now =>
      constructor
      · intro attemptId attempt hattempt hrunning
        obtain ⟨intent, hintent, hworked, hnumber, -⟩ :=
          hfit.running_settleOverdue hbounded hattempt hrunning
        exact ⟨intent, hintent, hworked, hnumber⟩
      · exact (endsAttempts_settleOverdue db now).numbered hfit.numbered
  | @claims workerId now leaseExpiresAt locked attemptId redemptionId intent _ hintent hclaimable
      hfresh hnumber =>
      have hnumbered := (endsAttempts_settleOverdue db now).numbered hfit.numbered
      constructor
      · intro other attempt hattempt hrunning
        rw [startAttempt, Rows.lookup_insert_eq] at hattempt
        rw [startAttempt, Rows.lookup_updateRow_eq]
        split at hattempt
        · cases hattempt
          rw [if_pos rfl, hintent]
          exact ⟨_, rfl, rfl, rfl⟩
        · obtain ⟨found, hfound, hworked, hcount, hlive⟩ :=
            hfit.running_settleOverdue hbounded hattempt hrunning
          split
          · next heq =>
              rw [heq, hintent] at hfound
              cases hfound
              obtain ⟨-, -, -, -, hstatus⟩ := isClaimable_eq_true hclaimable
              rw [hworked, hlive] at hstatus
              simp at hstatus
          · exact ⟨found, hfound, hworked, hcount⟩
      · intro first second attempt other hattempt hother hid hsame
        rw [startAttempt, Rows.lookup_insert_eq] at hattempt hother
        split at hattempt
        · next hfirst =>
            split at hother
            · next hsecond => rw [hfirst, hsecond]
            · cases hattempt
              exact absurd hsame.symm (hnumber second other hother hid.symm)
        · split at hother
          · cases hother
            exact absurd hsame (hnumber first attempt hattempt hid)
          · exact hnumbered first second attempt other hattempt hother hid hsame
  | completes _ _ _ _ _ hlease hdeadline _ _ _ _ hintents _ hattempts =>
      have hpasses := Bool.and_eq_true_iff.mpr ⟨hlease, hdeadline⟩
      have hcurrent := settlesInTime_eq_true htime rfl hpasses
      exact hfit.of_settles hlease hcurrent.1 (by simp) hintents hattempts
  | fails _ _ _ _ _ hlease _ _ hintents _ hattempts
  | retries _ _ _ _ hlease _ _ hintents _ hattempts =>
      have hcurrent := settlesInTime_eq_true htime rfl hlease
      exact hfit.of_settles hlease hcurrent.1 (by simp) hintents hattempts

/-- The workers' settlements all come in time. -/
def SettlesInTime (_ : List (RelyingRequest × RelyingReply)) (db : RelyingDatabase)
    (request : RelyingRequest) : Prop := db.settlesInTime request = true

instance : ∀ history db request, Decidable (SettlesInTime history db request) :=
  fun _ db request => inferInstanceAs (Decidable (db.settlesInTime request = true))

theorem attemptsFit_of_run {history : List (RelyingRequest × RelyingReply)}
    {db : RelyingDatabase} (hrun : (relyingStore.under SettlesInTime).Run history db) :
    AttemptsFit db := by
  refine Machine.Run.invariant_of (M := relyingStore.under SettlesInTime)
    (Q := fun _ reached => AttemptsBounded reached) (P := fun _ reached => AttemptsFit reached)
    (fun _ _ hreached => attemptsBounded_of_run hreached.of_under) ?_ ?_ hrun
  · constructor
    · intro attemptId attempt hattempt
      simp [Machine.under, relyingStore, empty] at hattempt
    · intro first second attempt other hattempt
      simp [Machine.under, relyingStore, empty] at hattempt
  · rintro _ reached request ⟨-, htime⟩ hbounded hfit
    exact hfit.effect hbounded htime (Effect.of_step reached request)

/-- A settlement that took effect came before the execution deadline, from the attempt that the
latest claim of its redemption handed that worker, under the lease that claim granted. -/
def SettlesFenced (earlier : List (RelyingRequest × RelyingReply))
    (entry : RelyingRequest × RelyingReply) : Prop :=
  ∀ workerId action clock, settlement entry.1 = some (workerId, action, clock) →
    (∀ error, entry.2 ≠ .refused error) →
      (relyingStore.stateAfter earlier).beforeDeadline action.redemptionId clock = true ∧
      ∃ leaseExpiresAt, clock < leaseExpiresAt ∧
        Since (GrantsLease action.redemptionId workerId action.attemptNumber leaseExpiresAt)
          (Supersedes action.redemptionId) earlier

/-- A settlement that was not refused passed the store's fence. -/
theorem Effect.passesFence {db after : RelyingDatabase} {request : RelyingRequest}
    {reply : RelyingReply} (heffect : Effect db request reply after) {workerId : String}
    {action : ClaimedAction} {clock : ℕ}
    (hsettlement : settlement request = some (workerId, action, clock))
    (hdone : ∀ error, reply ≠ .refused error) :
    db.passesFence request = true ∧ db.holdsLease action.redemptionId workerId clock = true := by
  cases heffect with
  | refuses _ error => exact absurd rfl (hdone error)
  | registers | proves | links | creates | settles | claims => cases hsettlement
  | completes _ _ _ _ _ hlease hdeadline =>
      cases hsettlement
      rw [RelyingDatabase.passesFence, hlease, hdeadline]
      exact ⟨rfl, rfl⟩
  | fails _ _ _ _ _ hlease | retries _ _ _ _ hlease =>
      cases hsettlement
      exact ⟨hlease, hlease⟩

theorem settlesFenced_of_run {history : List (RelyingRequest × RelyingReply)}
    {db : RelyingDatabase} (hrun : (relyingStore.under SettlesInTime).Run history db) :
    Always SettlesFenced history := by
  refine Machine.Run.always (M := relyingStore.under SettlesInTime) ?_ hrun
  rintro earlier reached request hreached ⟨-, htime⟩ workerId action clock hsettlement hdone
  have hprior : relyingStore.Run earlier reached := hreached.of_under
  obtain ⟨hpasses, hlease⟩ :=
    (Effect.of_step reached request).passesFence hsettlement hdone
  obtain ⟨hcurrent, hdeadline⟩ := settlesInTime_eq_true htime hsettlement hpasses
  obtain ⟨intent, leaseExpiresAt, hintent, hworked, howner, hexpires, hlive⟩ :=
    holdsLease_eq_true hlease
  have hgranted := leasesGranted_of_run hprior _ intent workerId leaseExpiresAt hintent hworked
    howner hexpires
  rw [isCurrent_eq_true hintent hcurrent] at hgranted
  rw [hprior.stateAfter_eq]
  exact ⟨hdeadline, leaseExpiresAt, hlive, hgranted⟩

/-- What a run of the store owes its protected actions. -/
structure SettlesActions (history : List (RelyingRequest × RelyingReply)) (db : RelyingDatabase) :
    Prop where
  writtenOnce : ∀ redemptionId outcome, db.outcomes.lookup redemptionId = some outcome →
    outcome.status ≠ .pending → ∀ later reached, relyingStore.Continues history db later reached →
      reached.outcomes.lookup redemptionId = some outcome
  completed : ∀ redemptionId,
    (db.intents.lookup redemptionId).map (·.status) = some .completed ↔
      (db.outcomes.lookup redemptionId).map (·.status) = some .succeeded
  failed : ∀ redemptionId,
    (db.intents.lookup redemptionId).map (·.status) = some .failed ↔
      (db.outcomes.lookup redemptionId).map (·.status) = some .failed
  bounded : ∀ redemptionId intent, db.intents.lookup redemptionId = some intent →
    ∃ record, db.redemptions.lookup redemptionId = some record ∧
      intent.attemptCount ≤ record.maximumAttempts
  fenced : Always SettlesFenced history
  startedOnce : ∀ redemptionId,
    (db.attempts.entries.countP fun entry => entry.2.redemptionId == redemptionId &&
      entry.2.status == .processing) ≤ 1

end RelyingDatabase

open RelyingDatabase

/-- In every run in which each settlement that passes the store's fence comes from the current
attempt and before the execution deadline, outcomes are written once, agree with their
intents, are settled only by attempts whose lease is live and not superseded, and at most one
attempt of an intent is left running. -/
theorem relyingStore_settlesActions {history : List (RelyingRequest × RelyingReply)}
    {db : RelyingDatabase} (hrun : (relyingStore.under SettlesInTime).Run history db) :
    SettlesActions history db where
  writtenOnce := fun _ _ houtcome hsettled _ _ hcontinues =>
    outcome_of_continues hcontinues houtcome hsettled
  completed := fun redemptionId =>
    ((outcomesAgree_of_run hrun.of_under) redemptionId).map_status.1
  failed := fun redemptionId => ((outcomesAgree_of_run hrun.of_under) redemptionId).map_status.2
  bounded := attemptsBounded_of_run hrun.of_under
  fenced := settlesFenced_of_run hrun
  startedOnce := (attemptsFit_of_run hrun).countP_le_one

theorem redeemedTwiceRequests_settlesActions :
    (relyingStore.replay redeemedTwiceRequests).2.outcomes.lookup "redemption_a" =
        some ⟨.succeeded, some "account_a", none, some 101⟩ ∧
      SettlesActions (relyingStore.replay redeemedTwiceRequests).1
        (relyingStore.replay redeemedTwiceRequests).2 := by
  refine ⟨by decide +kernel, relyingStore_settlesActions ?_⟩
  refine Machine.run_replay (M := relyingStore.under SettlesInTime) redeemedTwiceRequests ?_
  refine ⟨?_, ?_, ?_, ?_, ?_, trivial⟩
  all_goals refine ⟨trivial, ?_⟩
  all_goals decide +kernel

/-- A worker claims an action, claims it again when its lease ran out, and then the first of
the two attempts asks for a retry. -/
def staleRetryRequests : List RelyingRequest :=
  [.insertProtectedAction exampleProtectedAction,
    .redeem (exampleRedemption "pass_a" "proof_a" 100) "redemption_a",
    .maybeClaimAction "worker_a" 100 130 [] "attempt_a",
    .maybeClaimAction "worker_a" 130 160 [] "attempt_b",
    .scheduleActionRetry "worker_a" ⟨"redemption_a", "action_01", 1, ["transient"]⟩ 132 131,
    .maybeClaimAction "worker_a" 132 162 [] "attempt_c"]

/-- A worker claims an action shortly before its execution deadline and fails it afterwards,
while the lease is live. -/
def lateFailureRequests : List RelyingRequest :=
  [.insertProtectedAction exampleProtectedAction,
    .redeem (exampleRedemption "pass_a" "proof_a" 100) "redemption_a",
    .maybeClaimAction "worker_a" 390 420 [] "attempt_a",
    .failClaimedAction "worker_a" ⟨"redemption_a", "action_01", 1, ["transient"]⟩
      "action_execution_failed" 405 405]

/-- The superseded attempt's retry leaves two attempts running, and the late failure takes
effect after the deadline. -/
theorem settlements_unfenced :
    ¬ SettlesActions (relyingStore.replay staleRetryRequests).1
        (relyingStore.replay staleRetryRequests).2 ∧
      ¬ SettlesActions (relyingStore.replay lateFailureRequests).1
        (relyingStore.replay lateFailureRequests).2 := by
  constructor
  · intro hsettles
    have hstarted := hsettles.startedOnce "redemption_a"
    revert hstarted
    decide +kernel
  · intro hsettles
    have hreply : (relyingStore.replay lateFailureRequests).1.head?.map (·.2) = some .done := by
      decide +kernel
    obtain ⟨hlate, -⟩ := hsettles.fenced.1 "worker_a"
      ⟨"redemption_a", "action_01", 1, ["transient"]⟩ 405 rfl (by
        intro error heq
        have hrefused := hreply.symm.trans (congrArg some heq)
        cases hrefused)
    revert hlate
    decide +kernel

end WorkGate
