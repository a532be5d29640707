/-
# The Relying Service's store (src/reference_persistence/postgres.rs,
migrations/relying_service)

A redemption consumes a Gate Pass and schedules one protected action; workers claim
the action under a lease and settle it.  Every operation is one transaction, so an
operation is written as what it writes, or the error it is refused with, and
`transaction` rolls back what a refused one would have written.
-/

import WorkGate.Library.Machine
import WorkGate.Library.Rows
import Mathlib.Data.List.MinMax
import Mathlib.Data.Prod.Lex
import Mathlib.Data.String.Basic

namespace WorkGate

open WorkGate.Library

/-- The failures of the Relying Service's persistence.  `database` stands for every error of
the driver, a violated constraint among them. -/
inductive ReferencePersistenceError
  | duplicateProtectedAction
  | unknownProtectedAction
  | invalidPersistedData
  | consumedPass
  | replayedDpopProof
  | actionBindingConflict
  | lostExecutionLease
  | replayedOutcomeProof
  | database
  deriving DecidableEq, Repr

/-- An audience with an Action Reference, the key of a protected action. -/
abbrev ActionKey := String × String

/-- `relying_service.protected_actions`. -/
structure ProtectedActionRow where
  claimantJkt : String
  protectedActionType : String
  actionPolicy : String
  executionTimeoutSeconds : ℕ
  maximumAttempts : ℕ
  retryableErrorClasses : List String
  createdAtUnixSeconds : ℕ
  deriving DecidableEq

/-- `relying_service.redemption_records`. -/
structure RedemptionRow where
  audience : String
  actionReference : String
  claimantJkt : String
  protectedActionType : String
  actionPolicy : String
  acceptedAtUnixSeconds : ℕ
  executionDeadlineUnixSeconds : ℕ
  maximumAttempts : ℕ
  publicLookupExpiresAtUnixSeconds : ℕ
  deriving DecidableEq

/-- `relying_service.pass_consumptions`, under issuer and pass. -/
structure PassConsumptionRow where
  redemptionId : String
  consumedAtUnixSeconds : ℕ
  gatePassExpiresAtUnixSeconds : ℕ
  deriving DecidableEq

inductive OutcomeStatus
  | pending
  | succeeded
  | failed
  deriving DecidableEq, Repr

/-- `relying_service.protected_action_outcomes`; the result is the account it names. -/
structure OutcomeRow where
  status : OutcomeStatus
  safeResult : Option String
  safeReason : Option String
  terminalAtUnixSeconds : Option ℕ
  deriving DecidableEq

inductive ExecutionStatus
  | pending
  | processing
  | completed
  | failed
  deriving DecidableEq, Repr

/-- `relying_service.action_execution_intents`. -/
structure ExecutionIntentRow where
  status : ExecutionStatus
  attemptCount : ℕ
  leaseOwner : Option String
  leaseExpiresAtUnixSeconds : Option ℕ
  nextAttemptAtUnixSeconds : ℕ
  deriving DecidableEq

inductive AttemptStatus
  | processing
  | succeeded
  | abandoned
  deriving DecidableEq, Repr

/-- `relying_service.action_execution_attempts`. -/
structure AttemptRow where
  redemptionId : String
  attemptNumber : ℕ
  status : AttemptStatus
  startedAtUnixSeconds : ℕ
  completedAtUnixSeconds : Option ℕ
  deriving DecidableEq

/-- The tables of the Relying Service that redemptions and workers use. -/
structure RelyingDatabase where
  protectedActions : Rows ActionKey ProtectedActionRow
  redemptions : Rows String RedemptionRow
  passConsumptions : Rows (String × String) PassConsumptionRow
  outcomes : Rows String OutcomeRow
  intents : Rows String ExecutionIntentRow
  attempts : Rows String AttemptRow
  accounts : Rows String String
  dpopProofs : Rows String ℕ
  outcomeProofs : Rows String ℕ

/-- A Protected Action as it is registered. -/
structure NewProtectedAction where
  audience : String
  actionReference : String
  claimantJkt : String
  protectedActionType : String
  actionPolicy : String
  executionTimeoutSeconds : ℕ
  maximumAttempts : ℕ
  retryableErrorClasses : List String
  createdAtUnixSeconds : ℕ

/-- A redemption request whose signatures and binding were checked. -/
structure ValidatedRedemption where
  issuer : String
  passId : String
  audience : String
  actionReference : String
  claimantJkt : String
  protectedActionType : String
  actionPolicy : String
  dpopProofId : String
  acceptedAtUnixSeconds : ℕ
  gatePassExpiresAtUnixSeconds : ℕ
  dpopExpiresAtUnixSeconds : ℕ
  outcomeLookupWindowSeconds : ℕ

/-- Claimant-visible durable execution state linked to one Redemption Record. -/
inductive ProtectedActionOutcome
  | pending
  | succeeded (accountId : String)
  | failed (reason : String)
  deriving DecidableEq

/-- Durable idempotent outcome of the one protected reference action. -/
structure RedemptionRecord where
  redemptionId : String
  actionReference : String
  acceptedAtUnixSeconds : ℕ
  outcome : ProtectedActionOutcome
  deriving DecidableEq

/-- What a worker is handed. -/
structure ClaimedAction where
  redemptionId : String
  actionReference : String
  attemptNumber : ℕ
  retryableErrorClasses : List String
  deriving DecidableEq

namespace RelyingDatabase

/-- `to_i64`. -/
def toI64 (value : ℕ) : Except ReferencePersistenceError ℕ :=
  if value < 2 ^ 63 then .ok value else .error .invalidPersistedData

theorem toI64_eq_ok {value converted : ℕ} (h : toI64 value = .ok converted) :
    converted = value := by
  rw [toI64] at h
  split at h
  · cases h
    rfl
  · cases h

/-- `checked_add` of two `u64`. -/
def checkedAddU64 (left right : ℕ) : Except ReferencePersistenceError ℕ :=
  if left + right < 2 ^ 64 then .ok (left + right) else .error .invalidPersistedData

/-- A guard that refuses with an error. -/
def refuseIf (condition : Bool) (error : ReferencePersistenceError) :
    Except ReferencePersistenceError Unit :=
  if condition then .error error else .ok ()

theorem refuseIf_eq_ok {condition : Bool} {error : ReferencePersistenceError} {u : Unit}
    (h : refuseIf condition error = .ok u) : condition = false := by
  cases condition with
  | false => rfl
  | true => cases h

/-- Commit what a transaction wrote, or roll back. -/
def transaction {α : Type} (db : RelyingDatabase)
    (written : Except ReferencePersistenceError (RelyingDatabase × α)) :
    RelyingDatabase × Except ReferencePersistenceError α :=
  match written with
  | .error error => (db, .error error)
  | .ok (after, value) => (after, .ok value)

/-- The database after the migrations. -/
def empty : RelyingDatabase := ⟨∅, ∅, ∅, ∅, ∅, ∅, ∅, ∅, ∅⟩

/-! ## Redemptions -/

/-- `insert_protected_action`. -/
def insertProtectedAction (db : RelyingDatabase) (action : NewProtectedAction) :
    Except ReferencePersistenceError (RelyingDatabase × Unit) := do
  let executionTimeout ← toI64 action.executionTimeoutSeconds
  refuseIf (decide (2 ^ 31 ≤ action.maximumAttempts)) .invalidPersistedData
  let createdAt ← toI64 action.createdAtUnixSeconds
  -- The checks of the table.
  refuseIf (executionTimeout == 0 || action.maximumAttempts == 0) .database
  refuseIf (decide ((action.audience, action.actionReference) ∈ db.protectedActions))
    .duplicateProtectedAction
  return ({ db with
    protectedActions := db.protectedActions.insert (action.audience, action.actionReference) {
      claimantJkt := action.claimantJkt
      protectedActionType := action.protectedActionType
      actionPolicy := action.actionPolicy
      executionTimeoutSeconds := executionTimeout
      maximumAttempts := action.maximumAttempts
      retryableErrorClasses := action.retryableErrorClasses
      createdAtUnixSeconds := createdAt } }, ())

/-- `select_redemption_for_action`. -/
def redemptionForAction (db : RelyingDatabase) (audience actionReference : String) :
    Option String :=
  (db.redemptions.entries.find? fun entry =>
    entry.2.audience == audience && entry.2.actionReference == actionReference).map (·.1)

/-- `insert_redemption`, with its pending outcome and its execution intent.  The identity the
transaction draws is an argument. -/
def insertRedemption (db : RelyingDatabase) (redemption : ValidatedRedemption)
    (action : ProtectedActionRow) (redemptionId : String) :
    Except ReferencePersistenceError (RelyingDatabase × String) := do
  let executionDeadline ←
    checkedAddU64 redemption.acceptedAtUnixSeconds action.executionTimeoutSeconds
  let lookupExpiresAt ←
    checkedAddU64 redemption.acceptedAtUnixSeconds redemption.outcomeLookupWindowSeconds
  let acceptedAt ← toI64 redemption.acceptedAtUnixSeconds
  let executionDeadline ← toI64 executionDeadline
  let lookupExpiresAt ← toI64 lookupExpiresAt
  -- The keys of the three tables.
  refuseIf (decide (redemptionId ∈ db.redemptions) || decide (redemptionId ∈ db.outcomes) ||
    decide (redemptionId ∈ db.intents) ||
    (db.redemptionForAction redemption.audience redemption.actionReference).isSome) .database
  return ({ db with
    redemptions := db.redemptions.insert redemptionId {
      audience := redemption.audience
      actionReference := redemption.actionReference
      claimantJkt := redemption.claimantJkt
      protectedActionType := redemption.protectedActionType
      actionPolicy := redemption.actionPolicy
      acceptedAtUnixSeconds := acceptedAt
      executionDeadlineUnixSeconds := executionDeadline
      maximumAttempts := action.maximumAttempts
      publicLookupExpiresAtUnixSeconds := lookupExpiresAt }
    outcomes := db.outcomes.insert redemptionId ⟨.pending, none, none, none⟩
    intents := db.intents.insert redemptionId ⟨.pending, 0, none, none, acceptedAt⟩ },
    redemptionId)

/-- The redemption a pass is linked to: the one of its action, or a new one. -/
def redemptionOf (db : RelyingDatabase) (redemption : ValidatedRedemption)
    (action : ProtectedActionRow) (redemptionId : String) :
    Except ReferencePersistenceError (RelyingDatabase × String) :=
  match db.redemptionForAction redemption.audience redemption.actionReference with
  | some existing => .ok (db, existing)
  | none => db.insertRedemption redemption action redemptionId

/-- The outcome a row says. -/
def readOutcome (outcome : OutcomeRow) :
    Except ReferencePersistenceError ProtectedActionOutcome :=
  match outcome.status, outcome.safeResult, outcome.safeReason with
  | .pending, _, _ => .ok .pending
  | .succeeded, some accountId, _ => .ok (.succeeded accountId)
  | .succeeded, none, _ => .error .database
  | .failed, _, some reason => .ok (.failed reason)
  | .failed, _, none => .error .invalidPersistedData

/-- `select_redemption`. -/
def selectRedemption (db : RelyingDatabase) (redemptionId : String) :
    Except ReferencePersistenceError RedemptionRecord :=
  match db.redemptions.lookup redemptionId, db.outcomes.lookup redemptionId with
  | some row, some outcome => do
      let read ← readOutcome outcome
      return ⟨redemptionId, row.actionReference, row.acceptedAtUnixSeconds, read⟩
  | _, _ => .error .database

/-- Drop the proofs that expired before `now`. -/
def expireProofs (proofs : Rows String ℕ) (now : ℕ) : Rows String ℕ :=
  proofs.keepRows fun _ expiresAt => !decide (expiresAt < now)

/-- `redeem`. -/
def redeem (db : RelyingDatabase) (redemption : ValidatedRedemption) (redemptionId : String) :
    Except ReferencePersistenceError (RelyingDatabase × RedemptionRecord) :=
  match db.protectedActions.lookup (redemption.audience, redemption.actionReference) with
  | none => .error .unknownProtectedAction
  | some action => do
      refuseIf (action.claimantJkt != redemption.claimantJkt ||
        action.protectedActionType != redemption.protectedActionType ||
        action.actionPolicy != redemption.actionPolicy) .actionBindingConflict
      let acceptedAt ← toI64 redemption.acceptedAtUnixSeconds
      let dpopExpiresAt ← toI64 redemption.dpopExpiresAtUnixSeconds
      let live := { db with dpopProofs := expireProofs db.dpopProofs acceptedAt }
      refuseIf (decide (redemption.dpopProofId ∈ live.dpopProofs)) .replayedDpopProof
      let proven := { live with
        dpopProofs := live.dpopProofs.insert redemption.dpopProofId dpopExpiresAt }
      refuseIf (decide ((redemption.issuer, redemption.passId) ∈ proven.passConsumptions))
        .consumedPass
      let (redeemed, linkedId) ← proven.redemptionOf redemption action redemptionId
      let gatePassExpiresAt ← toI64 redemption.gatePassExpiresAtUnixSeconds
      -- The check on consumptions.
      refuseIf (decide (gatePassExpiresAt ≤ acceptedAt)) .database
      let consumed := { redeemed with
        passConsumptions := redeemed.passConsumptions.insert
          (redemption.issuer, redemption.passId) ⟨linkedId, acceptedAt, gatePassExpiresAt⟩ }
      let record ← consumed.selectRedemption linkedId
      return (consumed, record)

/-- `consume_outcome_proof`. -/
def consumeOutcomeProof (db : RelyingDatabase) (proofId : String) (expiresAt now : ℕ) :
    Except ReferencePersistenceError (RelyingDatabase × Unit) := do
  let now ← toI64 now
  let expiresAt ← toI64 expiresAt
  let live := expireProofs db.outcomeProofs now
  refuseIf (decide (proofId ∈ live)) .replayedOutcomeProof
  return ({ db with outcomeProofs := live.insert proofId expiresAt }, ())

/-! ## Executing actions -/

/-- Whether the lease of an intent has run out at `now`. -/
def leaseOver (intent : ExecutionIntentRow) (now : ℕ) : Bool :=
  match intent.leaseExpiresAtUnixSeconds with
  | none => false
  | some expiresAt => decide (expiresAt ≤ now)

/-- Whether an attempt is the processing attempt of an intent that is processing and passes a
test. -/
def isCurrentAttempt (db : RelyingDatabase) (test : RedemptionRow → ExecutionIntentRow → Bool)
    (attempt : AttemptRow) : Bool :=
  match db.redemptions.lookup attempt.redemptionId, db.intents.lookup attempt.redemptionId with
  | some record, some intent => attempt.attemptNumber == intent.attemptCount &&
      attempt.status == .processing && intent.status == .processing && test record intent
  | _, _ => false

/-- Abandon the current attempts of the intents that pass a test. -/
def abandonAttempts (db : RelyingDatabase) (test : RedemptionRow → ExecutionIntentRow → Bool)
    (now : ℕ) : RelyingDatabase :=
  { db with attempts := db.attempts.mapRows fun _ attempt =>
      if db.isCurrentAttempt test attempt then
        { attempt with status := .abandoned, completedAtUnixSeconds := some now }
      else attempt }

/-- `abandon_expired_attempts`. -/
def abandonExpiredAttempts (db : RelyingDatabase) (now : ℕ) : RelyingDatabase :=
  db.abandonAttempts (fun _ intent => leaseOver intent now) now

/-- `abandon_terminal_attempts`. -/
def abandonTerminalAttempts (db : RelyingDatabase) (now : ℕ) : RelyingDatabase :=
  db.abandonAttempts (fun record intent =>
    decide (record.executionDeadlineUnixSeconds ≤ now) ||
      decide (record.maximumAttempts ≤ intent.attemptCount) && leaseOver intent now) now

/-- Whether `fail_exhausted_actions` fails the intent of a redemption. -/
def isExhausted (db : RelyingDatabase) (redemptionId : String) (now : ℕ) : Bool :=
  match db.redemptions.lookup redemptionId, db.intents.lookup redemptionId with
  | some record, some intent => (intent.status == .pending || intent.status == .processing) &&
      (decide (record.executionDeadlineUnixSeconds ≤ now) ||
        decide (record.maximumAttempts ≤ intent.attemptCount) &&
          (intent.status == .pending || leaseOver intent now))
  | _, _ => false

/-- An intent without its lease. -/
def releasedIntent (status : ExecutionStatus) (intent : ExecutionIntentRow) :
    ExecutionIntentRow :=
  { intent with
    status := status
    leaseOwner := none
    leaseExpiresAtUnixSeconds := none }

/-- A pending outcome settled; one that is settled stays. -/
def settleOutcome (status : OutcomeStatus) (safeResult safeReason : Option String)
    (terminalAt : ℕ) (outcome : OutcomeRow) : OutcomeRow :=
  if outcome.status = .pending then ⟨status, safeResult, safeReason, some terminalAt⟩
  else outcome

/-- `fail_exhausted_actions`. -/
def failExhaustedActions (db : RelyingDatabase) (now : ℕ) : RelyingDatabase :=
  { db with
    intents := db.intents.mapRows fun redemptionId intent =>
      if db.isExhausted redemptionId now then releasedIntent .failed intent else intent
    outcomes := db.outcomes.mapRows fun redemptionId outcome =>
      if db.isExhausted redemptionId now then
        settleOutcome .failed none (some "action_execution_exhausted") now outcome
      else outcome }

/-- Whether `claim_action` may pick an intent. -/
def isClaimable (db : RelyingDatabase) (redemptionId : String) (intent : ExecutionIntentRow)
    (now : ℕ) : Bool :=
  match db.redemptions.lookup redemptionId with
  | none => false
  | some record =>
      decide ((record.audience, record.actionReference) ∈ db.protectedActions) &&
        decide (now < record.executionDeadlineUnixSeconds) &&
        decide (intent.attemptCount < record.maximumAttempts) &&
        decide (intent.nextAttemptAtUnixSeconds ≤ now) &&
        (intent.status == .pending || intent.status == .processing && leaseOver intent now)

/-- `claim_action`: the claimable intent that waited longest, skipping the rows that other
transactions hold locked. -/
def claimableAction (db : RelyingDatabase) (now : ℕ) (locked : List String) :
    Option ((_ : String) × ExecutionIntentRow) :=
  (db.intents.entries.filter fun entry =>
    db.isClaimable entry.1 entry.2 now && decide (entry.1 ∉ locked)).argmin
      fun entry => toLex (entry.2.nextAttemptAtUnixSeconds, entry.1)

/-- What every claim cleans up first. -/
def settleOverdue (db : RelyingDatabase) (now : ℕ) : RelyingDatabase :=
  let live := { db with
    dpopProofs := expireProofs db.dpopProofs now
    outcomeProofs := expireProofs db.outcomeProofs now }
  ((live.abandonExpiredAttempts now).abandonTerminalAttempts now).failExhaustedActions now

/-- `mark_action_processing` and `insert_action_attempt`. -/
def startAttempt (db : RelyingDatabase) (redemptionId workerId attemptId : String)
    (attemptNumber leaseExpiresAt now : ℕ) : RelyingDatabase :=
  { db with
    intents := db.intents.updateRow redemptionId fun intent => { intent with
      status := .processing
      attemptCount := attemptNumber
      leaseOwner := some workerId
      leaseExpiresAtUnixSeconds := some leaseExpiresAt }
    attempts := db.attempts.insert attemptId ⟨redemptionId, attemptNumber, .processing, now, none⟩ }

/-- The rest of `maybe_claim_action`, once an intent was picked. -/
def claimAction (db : RelyingDatabase) (redemptionId : String) (intent : ExecutionIntentRow)
    (workerId attemptId : String) (leaseExpiresAt now : ℕ) :
    Except ReferencePersistenceError (RelyingDatabase × Option ClaimedAction) := do
  let attemptNumber := intent.attemptCount + 1
  refuseIf (decide (2 ^ 31 ≤ attemptNumber)) .invalidPersistedData
  let leaseExpiresAt ← toI64 leaseExpiresAt
  -- The keys of the attempts.
  refuseIf (decide (attemptId ∈ db.attempts) || db.attempts.entries.any fun entry =>
    entry.2.redemptionId == redemptionId && entry.2.attemptNumber == attemptNumber) .database
  match db.redemptions.lookup redemptionId with
  | none => .error .database
  | some record =>
    match db.protectedActions.lookup (record.audience, record.actionReference) with
    | none => .error .database
    | some action =>
        return (db.startAttempt redemptionId workerId attemptId attemptNumber leaseExpiresAt now,
          some ⟨redemptionId, record.actionReference, attemptNumber,
            action.retryableErrorClasses⟩)

/-- `maybe_claim_action`. -/
def maybeClaimAction (db : RelyingDatabase) (workerId : String) (now leaseExpiresAt : ℕ)
    (locked : List String) (attemptId : String) :
    Except ReferencePersistenceError (RelyingDatabase × Option ClaimedAction) := do
  let now ← toI64 now
  let current := db.settleOverdue now
  -- The check on terminal times.
  refuseIf (now == 0 && db.outcomes.entries.any fun entry =>
    entry.2.status == .pending && db.isExhausted entry.1 now) .database
  match current.claimableAction now locked with
  | none => return (current, none)
  | some ⟨redemptionId, intent⟩ =>
      current.claimAction redemptionId intent workerId attemptId leaseExpiresAt now

/-- Whether a worker holds a live lease on an intent at the database's clock. -/
def holdsLease (db : RelyingDatabase) (redemptionId workerId : String) (clock : ℕ) : Bool :=
  match db.intents.lookup redemptionId with
  | none => false
  | some intent => intent.status == .processing && intent.leaseOwner == some workerId &&
      match intent.leaseExpiresAtUnixSeconds with
      | none => false
      | some expiresAt => decide (clock < expiresAt)

/-- Whether the execution deadline of a redemption is still ahead at the database's clock. -/
def beforeDeadline (db : RelyingDatabase) (redemptionId : String) (clock : ℕ) : Bool :=
  match db.redemptions.lookup redemptionId with
  | none => false
  | some record => decide (clock < record.executionDeadlineUnixSeconds)

/-- `complete_action_attempt` and `abandon_claimed_attempt`: a processing attempt ends. -/
def endAttempt (db : RelyingDatabase) (action : ClaimedAction) (status : AttemptStatus)
    (completedAt : ℕ) : RelyingDatabase :=
  { db with attempts := db.attempts.mapRows fun _ attempt =>
      if attempt.redemptionId = action.redemptionId ∧
          attempt.attemptNumber = action.attemptNumber ∧ attempt.status = .processing then
        { attempt with
          status := status
          completedAtUnixSeconds := some completedAt }
      else attempt }

/-- `select_reference_account`. -/
def accountFor (db : RelyingDatabase) (actionReference : String) : Option String :=
  (db.accounts.entries.find? fun entry => entry.2 == actionReference).map (·.1)

/-- `insert_reference_account` and the account it leaves for the Action Reference. -/
def accountOf (db : RelyingDatabase) (actionReference accountId : String) :
    Except ReferencePersistenceError (RelyingDatabase × String) :=
  match db.accountFor actionReference with
  | some existing => .ok (db, existing)
  | none =>
      if accountId ∈ db.accounts then .error .database
      else .ok ({ db with accounts := db.accounts.insert accountId actionReference }, accountId)

/-- `complete_account_creation`.  The clock is the database's own, not the caller's. -/
def completeAccountCreation (db : RelyingDatabase) (workerId : String) (action : ClaimedAction)
    (completedAt clock : ℕ) (accountId : String) :
    Except ReferencePersistenceError (RelyingDatabase × RedemptionRecord) := do
  refuseIf (!db.holdsLease action.redemptionId workerId clock ||
    !db.beforeDeadline action.redemptionId clock) .lostExecutionLease
  let completed := { db with
    intents := db.intents.updateRow action.redemptionId (releasedIntent .completed) }
  let (created, account) ← completed.accountOf action.actionReference accountId
  let completedAt ← toI64 completedAt
  refuseIf (match created.outcomes.lookup action.redemptionId with
    | none => true
    | some outcome => outcome.status != .pending) .invalidPersistedData
  -- The check on terminal times.
  refuseIf (completedAt == 0) .database
  let settled := { created with
    outcomes := created.outcomes.updateRow action.redemptionId
      (settleOutcome .succeeded (some account) none completedAt) }
  refuseIf (decide (2 ^ 31 ≤ action.attemptNumber)) .invalidPersistedData
  let ended := settled.endAttempt action .succeeded completedAt
  let record ← ended.selectRedemption action.redemptionId
  return (ended, record)

/-- `fail_claimed_action`. -/
def failClaimedAction (db : RelyingDatabase) (workerId : String) (action : ClaimedAction)
    (safeReason : String) (completedAt clock : ℕ) :
    Except ReferencePersistenceError (RelyingDatabase × Unit) := do
  refuseIf (!db.holdsLease action.redemptionId workerId clock) .lostExecutionLease
  let completedAt ← toI64 completedAt
  let failed := { db with
    intents := db.intents.updateRow action.redemptionId (releasedIntent .failed) }
  -- The check on terminal times.
  refuseIf (completedAt == 0 && match failed.outcomes.lookup action.redemptionId with
    | none => false
    | some outcome => outcome.status == .pending) .database
  let settled := { failed with
    outcomes := failed.outcomes.updateRow action.redemptionId
      (settleOutcome .failed none (some safeReason) completedAt) }
  refuseIf (decide (2 ^ 31 ≤ action.attemptNumber)) .invalidPersistedData
  return (settled.endAttempt action .abandoned completedAt, ())

/-- `schedule_action_retry`. -/
def scheduleActionRetry (db : RelyingDatabase) (workerId : String) (action : ClaimedAction)
    (retryAt clock : ℕ) : Except ReferencePersistenceError (RelyingDatabase × Unit) := do
  let retryAt ← toI64 retryAt
  refuseIf (!db.holdsLease action.redemptionId workerId clock) .lostExecutionLease
  let scheduled := { db with
    intents := db.intents.updateRow action.redemptionId fun intent =>
      { releasedIntent .pending intent with nextAttemptAtUnixSeconds := retryAt } }
  refuseIf (decide (2 ^ 31 ≤ action.attemptNumber)) .invalidPersistedData
  return (scheduled.endAttempt action .abandoned retryAt, ())

end RelyingDatabase

/-! ## The store as a machine -/

/-- The transactions of the store.  The identities a transaction draws, the rows it finds
locked and the database's clock are part of its request. -/
inductive RelyingRequest
  | insertProtectedAction (action : NewProtectedAction)
  | redeem (redemption : ValidatedRedemption) (redemptionId : String)
  | consumeOutcomeProof (proofId : String) (expiresAt now : ℕ)
  | maybeClaimAction (workerId : String) (now leaseExpiresAt : ℕ) (locked : List String)
      (attemptId : String)
  | completeAccountCreation (workerId : String) (action : ClaimedAction)
      (completedAt clock : ℕ) (accountId : String)
  | failClaimedAction (workerId : String) (action : ClaimedAction) (safeReason : String)
      (completedAt clock : ℕ)
  | scheduleActionRetry (workerId : String) (action : ClaimedAction) (retryAt clock : ℕ)

/-- What a transaction answers. -/
inductive RelyingReply
  | refused (error : ReferencePersistenceError)
  | done
  | redeemed (record : RedemptionRecord)
  | claimed (maybeAction : Option ClaimedAction)
  deriving DecidableEq

/-- A transaction's result as the store's answer. -/
def relyingAnswer {α : Type} (reply : α → RelyingReply)
    (result : RelyingDatabase × Except ReferencePersistenceError α) :
    RelyingDatabase × RelyingReply :=
  (result.1, match result.2 with
    | .ok value => reply value
    | .error error => .refused error)

/-- One committed transaction. -/
def relyingStep (db : RelyingDatabase) : RelyingRequest → RelyingDatabase × RelyingReply
  | .insertProtectedAction action =>
      relyingAnswer (fun _ => .done) (db.transaction (db.insertProtectedAction action))
  | .redeem redemption redemptionId =>
      relyingAnswer .redeemed (db.transaction (db.redeem redemption redemptionId))
  | .consumeOutcomeProof proofId expiresAt now =>
      relyingAnswer (fun _ => .done) (db.transaction (db.consumeOutcomeProof proofId expiresAt now))
  | .maybeClaimAction workerId now leaseExpiresAt locked attemptId =>
      relyingAnswer .claimed
        (db.transaction (db.maybeClaimAction workerId now leaseExpiresAt locked attemptId))
  | .completeAccountCreation workerId action completedAt clock accountId =>
      relyingAnswer .redeemed (db.transaction
        (db.completeAccountCreation workerId action completedAt clock accountId))
  | .failClaimedAction workerId action safeReason completedAt clock =>
      relyingAnswer (fun _ => .done)
        (db.transaction (db.failClaimedAction workerId action safeReason completedAt clock))
  | .scheduleActionRetry workerId action retryAt clock =>
      relyingAnswer (fun _ => .done)
        (db.transaction (db.scheduleActionRetry workerId action retryAt clock))

/-- The Relying Service's store: any transaction may come at any time. -/
def relyingStore : Machine RelyingDatabase RelyingRequest RelyingReply where
  init := RelyingDatabase.empty
  admits := fun _ _ _ => True
  step := relyingStep

end WorkGate
