/-
# What a transaction does to the Relying Service's store

A transaction either changes nothing or has one of the effects listed here, each with the
guards under which it happens.  The invariants of redemptions and of the protected
actions go through these cases and never unfold a transaction again.
-/

import WorkGate.Library.Results
import WorkGate.Relying.Store

namespace WorkGate

open WorkGate.Library

namespace RelyingDatabase

/-- What redemptions wrote is as it was. -/
structure KeepsRedemptions (before after : RelyingDatabase) : Prop where
  redemptions : after.redemptions = before.redemptions
  passConsumptions : after.passConsumptions = before.passConsumptions

/-- What workers wrote is as it was. -/
structure KeepsExecution (before after : RelyingDatabase) : Prop where
  outcomes : after.outcomes = before.outcomes
  intents : after.intents = before.intents
  attempts : after.attempts = before.attempts
  accounts : after.accounts = before.accounts

/-- The account an Action Reference ends up with: the one it has, or a new one. -/
def TakesAccount (before after : RelyingDatabase) (actionReference accountId account : String) :
    Prop :=
  (before.accountFor actionReference = some account ∧ after.accounts = before.accounts) ∨
    (before.accountFor actionReference = none ∧ accountId ∉ before.accounts ∧
      account = accountId ∧ after.accounts = before.accounts.insert accountId actionReference)

/-- The effects of the store's transactions. -/
inductive Effect (before : RelyingDatabase) :
    RelyingRequest → RelyingReply → RelyingDatabase → Prop
  | refuses (request : RelyingRequest) (error : ReferencePersistenceError) :
      Effect before request (.refused error) before
  | registers (action : NewProtectedAction) {after : RelyingDatabase}
      (hredemptions : KeepsRedemptions before after) (hexecution : KeepsExecution before after) :
      Effect before (.insertProtectedAction action) .done after
  | proves (proofId : String) (expiresAt now : ℕ) {after : RelyingDatabase}
      (hredemptions : KeepsRedemptions before after) (hexecution : KeepsExecution before after) :
      Effect before (.consumeOutcomeProof proofId expiresAt now) .done after
  | links (redemption : ValidatedRedemption) (redemptionId : String)
      {row : PassConsumptionRow} {record : RedemptionRecord} {after : RelyingDatabase}
      (hfresh : (redemption.issuer, redemption.passId) ∉ before.passConsumptions)
      (hlinked : before.redemptionForAction redemption.audience redemption.actionReference =
        some row.redemptionId)
      (hrecord : record.redemptionId = row.redemptionId)
      (hredemptions : after.redemptions = before.redemptions)
      (hconsumed : after.passConsumptions =
        before.passConsumptions.insert (redemption.issuer, redemption.passId) row)
      (hexecution : KeepsExecution before after) :
      Effect before (.redeem redemption redemptionId) (.redeemed record) after
  | creates (redemption : ValidatedRedemption) (redemptionId : String)
      {row : PassConsumptionRow} {created : RedemptionRow} {acceptedAt : ℕ}
      {record : RedemptionRecord} {after : RelyingDatabase}
      (hfresh : (redemption.issuer, redemption.passId) ∉ before.passConsumptions)
      (hunlinked : before.redemptionForAction redemption.audience redemption.actionReference =
        none)
      (hnew : redemptionId ∉ before.redemptions) (hnewOutcome : redemptionId ∉ before.outcomes)
      (hnewIntent : redemptionId ∉ before.intents)
      (hrow : row.redemptionId = redemptionId) (hrecord : record.redemptionId = redemptionId)
      (haudience : created.audience = redemption.audience)
      (hreference : created.actionReference = redemption.actionReference)
      (hredemptions : after.redemptions = before.redemptions.insert redemptionId created)
      (hconsumed : after.passConsumptions =
        before.passConsumptions.insert (redemption.issuer, redemption.passId) row)
      (houtcomes : after.outcomes =
        before.outcomes.insert redemptionId ⟨.pending, none, none, none⟩)
      (hintents : after.intents =
        before.intents.insert redemptionId ⟨.pending, 0, none, none, acceptedAt⟩)
      (hattempts : after.attempts = before.attempts)
      (haccounts : after.accounts = before.accounts) :
      Effect before (.redeem redemption redemptionId) (.redeemed record) after
  | settles (workerId : String) (now leaseExpiresAt : ℕ) (locked : List String)
      (attemptId : String) :
      Effect before (.maybeClaimAction workerId now leaseExpiresAt locked attemptId)
        (.claimed none) (before.settleOverdue now)
  | claims (workerId : String) (now leaseExpiresAt : ℕ) (locked : List String)
      (attemptId : String) {redemptionId : String} {intent : ExecutionIntentRow}
      {claimed : ClaimedAction}
      (hintent : (before.settleOverdue now).intents.lookup redemptionId = some intent)
      (hclaimable : (before.settleOverdue now).isClaimable redemptionId intent now = true)
      (hfresh : attemptId ∉ (before.settleOverdue now).attempts)
      (hnumber : ∀ other attempt, (before.settleOverdue now).attempts.lookup other = some attempt →
        attempt.redemptionId = redemptionId → attempt.attemptNumber ≠ intent.attemptCount + 1)
      (hid : claimed.redemptionId = redemptionId)
      (hcount : claimed.attemptNumber = intent.attemptCount + 1) :
      Effect before (.maybeClaimAction workerId now leaseExpiresAt locked attemptId)
        (.claimed (some claimed))
        ((before.settleOverdue now).startAttempt redemptionId workerId attemptId
          (intent.attemptCount + 1) leaseExpiresAt now)
  | completes (workerId : String) (action : ClaimedAction) (completedAt clock : ℕ)
      (accountId : String) {account : String} {outcome : OutcomeRow} {record : RedemptionRecord}
      {after : RelyingDatabase}
      (hlease : before.holdsLease action.redemptionId workerId clock = true)
      (hdeadline : before.beforeDeadline action.redemptionId clock = true)
      (hredemptions : KeepsRedemptions before after)
      (hfound : before.outcomes.lookup action.redemptionId = some outcome)
      (hpending : outcome.status = .pending)
      (htakes : TakesAccount before after action.actionReference accountId account)
      (hintents : after.intents =
        before.intents.updateRow action.redemptionId (releasedIntent .completed))
      (houtcomes : after.outcomes = before.outcomes.updateRow action.redemptionId
        (settleOutcome .succeeded (some account) none completedAt))
      (hattempts : after.attempts = (before.endAttempt action .succeeded completedAt).attempts) :
      Effect before (.completeAccountCreation workerId action completedAt clock accountId)
        (.redeemed record) after
  | fails (workerId : String) (action : ClaimedAction) (safeReason : String)
      (completedAt clock : ℕ) {after : RelyingDatabase}
      (hlease : before.holdsLease action.redemptionId workerId clock = true)
      (hredemptions : KeepsRedemptions before after) (haccounts : after.accounts = before.accounts)
      (hintents : after.intents =
        before.intents.updateRow action.redemptionId (releasedIntent .failed))
      (houtcomes : after.outcomes = before.outcomes.updateRow action.redemptionId
        (settleOutcome .failed none (some safeReason) completedAt))
      (hattempts : after.attempts = (before.endAttempt action .abandoned completedAt).attempts) :
      Effect before (.failClaimedAction workerId action safeReason completedAt clock) .done after
  | retries (workerId : String) (action : ClaimedAction) (retryAt clock : ℕ)
      {after : RelyingDatabase}
      (hlease : before.holdsLease action.redemptionId workerId clock = true)
      (hredemptions : KeepsRedemptions before after) (haccounts : after.accounts = before.accounts)
      (hintents : after.intents = before.intents.updateRow action.redemptionId fun intent =>
        { releasedIntent .pending intent with nextAttemptAtUnixSeconds := retryAt })
      (houtcomes : after.outcomes = before.outcomes)
      (hattempts : after.attempts = (before.endAttempt action .abandoned retryAt).attempts) :
      Effect before (.scheduleActionRetry workerId action retryAt clock) .done after

/-! ## Each transaction has one of the effects -/

theorem insertProtectedAction_eq_ok {db after : RelyingDatabase} {action : NewProtectedAction}
    {done : Unit} (h : db.insertProtectedAction action = .ok (after, done)) :
    KeepsRedemptions db after ∧ KeepsExecution db after := by
  simp only [insertProtectedAction, bind_eq_ok, pure_eq_ok] at h
  obtain ⟨_, -, _, -, _, -, _, -, _, -, h⟩ := h
  cases h
  exact ⟨⟨rfl, rfl⟩, ⟨rfl, rfl, rfl, rfl⟩⟩

theorem consumeOutcomeProof_eq_ok {db after : RelyingDatabase} {proofId : String}
    {expiresAt now : ℕ} {done : Unit}
    (h : db.consumeOutcomeProof proofId expiresAt now = .ok (after, done)) :
    KeepsRedemptions db after ∧ KeepsExecution db after := by
  simp only [consumeOutcomeProof, bind_eq_ok, pure_eq_ok] at h
  obtain ⟨_, -, _, -, _, -, h⟩ := h
  cases h
  exact ⟨⟨rfl, rfl⟩, ⟨rfl, rfl, rfl, rfl⟩⟩

theorem selectRedemption_redemptionId {db : RelyingDatabase} {redemptionId : String}
    {record : RedemptionRecord} (h : db.selectRedemption redemptionId = .ok record) :
    record.redemptionId = redemptionId := by
  simp only [selectRedemption] at h
  split at h
  · simp only [bind_eq_ok, pure_eq_ok] at h
    obtain ⟨_, -, h⟩ := h
    cases h
    rfl
  · cases h

theorem Effect.of_redeem {db after : RelyingDatabase} {redemption : ValidatedRedemption}
    {redemptionId : String} {record : RedemptionRecord}
    (h : db.redeem redemption redemptionId = .ok (after, record)) :
    Effect db (.redeem redemption redemptionId) (.redeemed record) after := by
  simp only [redeem] at h
  split at h
  · cases h
  · simp only [bind_eq_ok, pure_eq_ok] at h
    obtain ⟨_, -, _, -, _, -, _, -, _, hconsumed, ⟨redeemed, linkedId⟩, hredeemed, _, -, _, -,
      _, hrecord, h⟩ := h
    have hfresh := refuseIf_eq_ok hconsumed
    rw [decide_eq_false_iff_not] at hfresh
    cases h
    have hid := selectRedemption_redemptionId hrecord
    simp only [redemptionOf] at hredeemed
    split at hredeemed
    · next existing hexisting =>
        cases hredeemed
        refine .links redemption redemptionId hfresh ?_ hid rfl rfl ⟨rfl, rfl, rfl, rfl⟩
        exact hexisting
    · next hunlinked =>
        simp only [insertRedemption, bind_eq_ok, pure_eq_ok] at hredeemed
        obtain ⟨_, -, _, -, _, -, _, -, _, -, _, hnew, hredeemed⟩ := hredeemed
        have hnew := refuseIf_eq_ok hnew
        simp only [Bool.or_eq_false_iff, decide_eq_false_iff_not] at hnew
        obtain ⟨⟨⟨hnew, hnewOutcome⟩, hnewIntent⟩, -⟩ := hnew
        cases hredeemed
        exact .creates redemption redemptionId hfresh hunlinked hnew hnewOutcome hnewIntent rfl hid
          rfl rfl rfl rfl rfl rfl rfl rfl

theorem claimableAction_eq_some {db : RelyingDatabase} {now : ℕ} {locked : List String}
    {redemptionId : String} {intent : ExecutionIntentRow}
    (h : db.claimableAction now locked = some ⟨redemptionId, intent⟩) :
    db.intents.lookup redemptionId = some intent ∧
      db.isClaimable redemptionId intent now = true := by
  have hmem := List.argmin_mem h
  rw [List.mem_filter, Rows.mem_entries_iff, Bool.and_eq_true] at hmem
  exact ⟨hmem.1, hmem.2.1⟩

theorem Effect.of_maybeClaimAction {db after : RelyingDatabase} {workerId : String}
    {now leaseExpiresAt : ℕ} {locked : List String} {attemptId : String}
    {maybeAction : Option ClaimedAction}
    (h : db.maybeClaimAction workerId now leaseExpiresAt locked attemptId =
      .ok (after, maybeAction)) :
    Effect db (.maybeClaimAction workerId now leaseExpiresAt locked attemptId)
      (.claimed maybeAction) after := by
  simp only [maybeClaimAction, bind_eq_ok] at h
  obtain ⟨_, hnow, _, -, h⟩ := h
  cases toI64_eq_ok hnow
  split at h
  · cases h
    exact .settles workerId now leaseExpiresAt locked attemptId
  · next redemptionId intent hclaimable =>
      obtain ⟨hintent, hclaimable⟩ := claimableAction_eq_some hclaimable
      simp only [claimAction, bind_eq_ok] at h
      obtain ⟨_, -, _, hlease, _, hkeys, h⟩ := h
      cases toI64_eq_ok hlease
      have hkeys := refuseIf_eq_ok hkeys
      rw [Bool.or_eq_false_iff, decide_eq_false_iff_not, List.any_eq_false] at hkeys
      split at h
      · cases h
      · split at h
        · cases h
        · cases h
          apply Effect.claims workerId now leaseExpiresAt locked attemptId hintent hclaimable
            hkeys.1 ?_ rfl rfl
          intro other attempt hattempt hsame hnumber
          apply hkeys.2 ⟨other, attempt⟩ (Rows.mem_entries_iff.mpr hattempt)
          simp [hsame, hnumber]

theorem accountOf_eq_ok {db after : RelyingDatabase} {actionReference accountId account : String}
    (h : db.accountOf actionReference accountId = .ok (after, account)) :
    TakesAccount db after actionReference accountId account ∧ KeepsRedemptions db after ∧
      after.outcomes = db.outcomes ∧ after.intents = db.intents ∧
      after.attempts = db.attempts := by
  simp only [accountOf] at h
  split at h
  · next existing hexisting =>
      cases h
      exact ⟨.inl ⟨hexisting, rfl⟩, ⟨rfl, rfl⟩, rfl, rfl, rfl⟩
  · next hnone =>
      obtain ⟨hfresh, h⟩ := guard_eq_ok h
      cases h
      exact ⟨.inr ⟨hnone, hfresh, rfl, rfl⟩, ⟨rfl, rfl⟩, rfl, rfl, rfl⟩

theorem Effect.of_completeAccountCreation {db after : RelyingDatabase} {workerId : String}
    {action : ClaimedAction} {completedAt clock : ℕ} {accountId : String}
    {record : RedemptionRecord}
    (h : db.completeAccountCreation workerId action completedAt clock accountId =
      .ok (after, record)) :
    Effect db (.completeAccountCreation workerId action completedAt clock accountId)
      (.redeemed record) after := by
  simp only [completeAccountCreation, bind_eq_ok, pure_eq_ok] at h
  obtain ⟨_, hfence, ⟨created, account⟩, hcreated, _, hcompleted, _, hpending, _, -, _, -, _, -,
    h⟩ := h
  cases toI64_eq_ok hcompleted
  have hfence := refuseIf_eq_ok hfence
  simp only [Bool.or_eq_false_iff, Bool.not_eq_false'] at hfence
  obtain ⟨htakes, hredemptions, houtcomes, hintents, hattempts⟩ := accountOf_eq_ok hcreated
  have hpending := refuseIf_eq_ok hpending
  rw [houtcomes] at hpending
  split at hpending
  · cases hpending
  · next outcome hfound =>
      cases h
      have hstatus : outcome.status = .pending := by simpa using hpending
      refine .completes workerId action completedAt clock accountId hfence.1 hfence.2
        ⟨hredemptions.redemptions, hredemptions.passConsumptions⟩ hfound hstatus htakes hintents
        ?_ ?_
      · exact congrArg (Rows.updateRow action.redemptionId _) houtcomes
      · simp only [endAttempt, hattempts]

theorem Effect.of_failClaimedAction {db after : RelyingDatabase} {workerId : String}
    {action : ClaimedAction} {safeReason : String} {completedAt clock : ℕ} {done : Unit}
    (h : db.failClaimedAction workerId action safeReason completedAt clock = .ok (after, done)) :
    Effect db (.failClaimedAction workerId action safeReason completedAt clock) .done after := by
  simp only [failClaimedAction, bind_eq_ok, pure_eq_ok] at h
  obtain ⟨_, hlease, _, hcompleted, _, -, _, -, h⟩ := h
  cases toI64_eq_ok hcompleted
  have hlease := refuseIf_eq_ok hlease
  rw [Bool.not_eq_false'] at hlease
  cases h
  exact .fails workerId action safeReason completedAt clock hlease ⟨rfl, rfl⟩ rfl rfl rfl rfl

theorem Effect.of_scheduleActionRetry {db after : RelyingDatabase} {workerId : String}
    {action : ClaimedAction} {retryAt clock : ℕ} {done : Unit}
    (h : db.scheduleActionRetry workerId action retryAt clock = .ok (after, done)) :
    Effect db (.scheduleActionRetry workerId action retryAt clock) .done after := by
  simp only [scheduleActionRetry, bind_eq_ok, pure_eq_ok] at h
  obtain ⟨_, hretry, _, hlease, _, -, h⟩ := h
  cases toI64_eq_ok hretry
  have hlease := refuseIf_eq_ok hlease
  rw [Bool.not_eq_false'] at hlease
  cases h
  exact .retries workerId action retryAt clock hlease ⟨rfl, rfl⟩ rfl rfl rfl rfl

/-- The answer to a transaction has an effect when every result it can be committed with
has one. -/
theorem Effect.of_transaction {α : Type} {db : RelyingDatabase} {request : RelyingRequest}
    {reply : α → RelyingReply}
    (written : Except ReferencePersistenceError (RelyingDatabase × α))
    (hwritten : ∀ after value, written = .ok (after, value) →
      Effect db request (reply value) after) :
    Effect db request (relyingAnswer reply (db.transaction written)).2
      (relyingAnswer reply (db.transaction written)).1 := by
  cases written with
  | error error => exact .refuses request error
  | ok pair => exact hwritten pair.1 pair.2 rfl

/-- Every transaction has one of the effects. -/
theorem Effect.of_step (db : RelyingDatabase) (request : RelyingRequest) :
    Effect db request (relyingStep db request).2 (relyingStep db request).1 := by
  cases request with
  | insertProtectedAction action =>
      apply Effect.of_transaction
      intro after done hwritten
      obtain ⟨hredemptions, hexecution⟩ := insertProtectedAction_eq_ok hwritten
      exact .registers action hredemptions hexecution
  | redeem redemption redemptionId =>
      exact .of_transaction _ fun _ _ hwritten => .of_redeem hwritten
  | consumeOutcomeProof proofId expiresAt now =>
      apply Effect.of_transaction
      intro after done hwritten
      obtain ⟨hredemptions, hexecution⟩ := consumeOutcomeProof_eq_ok hwritten
      exact .proves proofId expiresAt now hredemptions hexecution
  | maybeClaimAction workerId now leaseExpiresAt locked attemptId =>
      exact .of_transaction _ fun _ _ hwritten => .of_maybeClaimAction hwritten
  | completeAccountCreation workerId action completedAt clock accountId =>
      exact .of_transaction _ fun _ _ hwritten => .of_completeAccountCreation hwritten
  | failClaimedAction workerId action safeReason completedAt clock =>
      exact .of_transaction _ fun _ _ hwritten => .of_failClaimedAction hwritten
  | scheduleActionRetry workerId action retryAt clock =>
      exact .of_transaction _ fun _ _ hwritten => .of_scheduleActionRetry hwritten

/-! ## Reading the guards -/

theorem holdsLease_eq_true {db : RelyingDatabase} {redemptionId workerId : String} {clock : ℕ}
    (h : db.holdsLease redemptionId workerId clock = true) :
    ∃ intent expiresAt, db.intents.lookup redemptionId = some intent ∧
      intent.status = .processing ∧ intent.leaseOwner = some workerId ∧
      intent.leaseExpiresAtUnixSeconds = some expiresAt ∧ clock < expiresAt := by
  rw [holdsLease] at h
  split at h
  · cases h
  · next intent hintent =>
      rw [Bool.and_eq_true, Bool.and_eq_true, beq_iff_eq, beq_iff_eq] at h
      obtain ⟨⟨hstatus, howner⟩, hlive⟩ := h
      split at hlive
      · cases hlive
      · next expiresAt hexpires =>
          exact ⟨intent, expiresAt, hintent, hstatus, howner, hexpires, of_decide_eq_true hlive⟩

theorem isClaimable_eq_true {db : RelyingDatabase} {redemptionId : String}
    {intent : ExecutionIntentRow} {now : ℕ}
    (h : db.isClaimable redemptionId intent now = true) :
    ∃ record, db.redemptions.lookup redemptionId = some record ∧
      now < record.executionDeadlineUnixSeconds ∧
      intent.attemptCount < record.maximumAttempts ∧
      (intent.status = .pending ∨ intent.status = .processing ∧ leaseOver intent now = true) := by
  rw [isClaimable] at h
  split at h
  · cases h
  · next record hrecord =>
      simp only [Bool.and_eq_true, Bool.or_eq_true, decide_eq_true_eq, beq_iff_eq] at h
      obtain ⟨⟨⟨⟨-, hdeadline⟩, hcount⟩, -⟩, hstatus⟩ := h
      exact ⟨record, hrecord, hdeadline, hcount, hstatus⟩

theorem isExhausted_eq_true {db : RelyingDatabase} {redemptionId : String} {now : ℕ}
    (h : db.isExhausted redemptionId now = true) :
    ∃ record intent, db.redemptions.lookup redemptionId = some record ∧
      db.intents.lookup redemptionId = some intent ∧
      (intent.status = .pending ∨ intent.status = .processing) := by
  rw [isExhausted] at h
  split at h
  · next record intent hrecord hintent =>
      rw [Bool.and_eq_true, Bool.or_eq_true, beq_iff_eq, beq_iff_eq] at h
      exact ⟨record, intent, hrecord, hintent, h.1⟩
  · cases h

/-! ## The rows after the clean-up of a claim -/

@[simp]
theorem lookup_intents_settleOverdue (db : RelyingDatabase) (now : ℕ) (redemptionId : String) :
    (db.settleOverdue now).intents.lookup redemptionId =
      (db.intents.lookup redemptionId).map fun intent =>
        if db.isExhausted redemptionId now then releasedIntent .failed intent else intent :=
  Rows.lookup_mapRows _ _ _

@[simp]
theorem lookup_outcomes_settleOverdue (db : RelyingDatabase) (now : ℕ) (redemptionId : String) :
    (db.settleOverdue now).outcomes.lookup redemptionId =
      (db.outcomes.lookup redemptionId).map fun outcome =>
        if db.isExhausted redemptionId now then
          settleOutcome .failed none (some "action_execution_exhausted") now outcome
        else outcome :=
  Rows.lookup_mapRows _ _ _

/-! ## Settled intents stay -/

/-- An intent that is completed or failed is never written again. -/
theorem Effect.keeps_settled {db after : RelyingDatabase} {request : RelyingRequest}
    {reply : RelyingReply} (heffect : Effect db request reply after) {redemptionId : String}
    {intent : ExecutionIntentRow} (hintent : db.intents.lookup redemptionId = some intent)
    (hsettled : intent.status = .completed ∨ intent.status = .failed) :
    after.intents.lookup redemptionId = some intent := by
  have hworked : intent.status ≠ .pending ∧ intent.status ≠ .processing := by
    obtain hstatus | hstatus := hsettled
    · simp [hstatus]
    · simp [hstatus]
  have hleased : ∀ {workerId : String} {action : ClaimedAction} {clock : ℕ},
      db.holdsLease action.redemptionId workerId clock = true →
        redemptionId ≠ action.redemptionId := by
    intro workerId action clock hlease heq
    obtain ⟨found, -, hfound, hstatus, -⟩ := holdsLease_eq_true hlease
    rw [← heq, hintent] at hfound
    cases hfound
    exact hworked.2 hstatus
  have hoverdue : ∀ now, (db.settleOverdue now).intents.lookup redemptionId = some intent := by
    intro now
    rw [lookup_intents_settleOverdue, hintent, Option.map_some]
    split
    · next hexhausted =>
        obtain ⟨-, found, -, hfound, hstatus⟩ := isExhausted_eq_true hexhausted
        rw [hintent] at hfound
        cases hfound
        exact absurd hstatus (not_or.mpr hworked)
    · rfl
  cases heffect with
  | refuses => exact hintent
  | registers _ _ hexecution | proves _ _ _ _ hexecution =>
      rw [hexecution.intents, hintent]
  | links _ _ _ _ _ _ _ hexecution => rw [hexecution.intents, hintent]
  | creates _ _ _ _ _ _ hnew _ _ _ _ _ _ _ hintents =>
      rw [hintents, AList.lookup_insert_ne, hintent]
      intro heq
      exact hnew (heq ▸ Rows.mem_of_lookup hintent)
  | settles _ now => exact hoverdue now
  | claims _ now _ _ _ hfound hclaimable =>
      rw [startAttempt, Rows.lookup_updateRow_ne, hoverdue now]
      intro heq
      obtain ⟨-, -, -, -, hstatus⟩ := isClaimable_eq_true hclaimable
      rw [← heq, hoverdue now] at hfound
      cases hfound
      exact hstatus.elim hworked.1 fun hprocessing => hworked.2 hprocessing.1
  | completes _ _ _ _ _ hlease _ _ _ _ _ hintents
  | fails _ _ _ _ _ hlease _ _ hintents
  | retries _ _ _ _ hlease _ _ hintents =>
      rw [hintents, Rows.lookup_updateRow_ne (hleased hlease), hintent]

end RelyingDatabase

end WorkGate
