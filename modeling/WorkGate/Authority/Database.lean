/-
# The Authority's database (migrations/gate_authority)

The tables the Authority's transactions read and write, one row type each.  Text
columns that only ever hold what a typed value was written as carry the typed
value; `BIGINT` columns written from `u64` carry a natural number, and the writers
check the signed range first.

A transaction is a function from the database it finds to the database it leaves
and the answer it gives.  Row and advisory locks make committed transactions
equivalent to running them one after another, so that is how they are composed.
There is one exception: `complete_issuance` locks the intent it signs but not the
challenge it marks, and a transaction that expires the challenge can commit in
between.  `Completions.lean` runs its two statements apart.
-/

import WorkGate.Lifecycle
import WorkGate.Library.Rows
import WorkGate.Progress.Projection

namespace WorkGate

open WorkGate.Library

/-- Why the Authority will never credit one Accepted Work Event. -/
inductive AcceptedWorkRefusal
  | unknownWorkLease
  | workLeaseEnded
  | workerContinuityLost
  | workLeaseExpired
  | challengeSatisfied
  | challengeCancelled
  | challengeDeadlinePassed
  | conflictingEventReplay
  deriving DecidableEq, Repr

/-- The failures of the Authority's persistence that its transactions raise.
`database` stands for every error of the driver: a violated constraint, a failed
cast, a `NULL` where a value is decoded. -/
inductive AuthorityPersistenceError
  | duplicateChallenge
  | unknownChallenge
  | duplicateWorkSession
  | unknownWorkSession
  | conflictingWorkSessionReplacement
  | forbiddenLifecycleTransition
  | wrongWorkLease
  | workerContinuityLost
  | workLeaseExpired
  | poolSelectionRequired
  | poolSelectionLocked
  | poolSelectionMismatch
  | unknownPoolOfferReplacement
  | conflictingPoolOfferReplacement
  | workRefused (refusal : AcceptedWorkRefusal)
  | lostSigningLease
  | replayedIssuanceProof
  | unknownTrustedConsentCeremony
  | lostTrustedConsentVerificationLease
  | trustedConsentRequired
  | invalidTrustedConsentReceipt
  | trustedConsentReceiptReplayed
  | trustedConsentChallengeUnavailable
  | invalidPersistedData
  | database
  | invalidProgress (error : ProgressError)
  | invalidLifecycle (error : LifecycleError)
  deriving DecidableEq, Repr

/-- `i64::try_from` of a `u64`, as every writer of a `BIGINT` column runs it. -/
def unixSecondsToI64 (value : ℕ) : Except AuthorityPersistenceError ℕ :=
  if value < 2 ^ 63 then .ok value else .error .invalidPersistedData

theorem unixSecondsToI64_eq_ok {value converted : ℕ} (h : unixSecondsToI64 value = .ok converted) :
    converted = value ∧ value < 2 ^ 63 := by
  rw [unixSecondsToI64] at h
  split at h
  · next hfits =>
      cases h
      exact ⟨rfl, hfits⟩
  · cases h

/-- An instant written to a column that a constraint keeps positive. -/
def checkedInstant (value : ℕ) : Except AuthorityPersistenceError ℕ := do
  let instant ← unixSecondsToI64 value
  if instant = 0 then .error .database else .ok instant

/-- Skip one hyphen, where a UUID literal may have one. -/
def skipHyphen : List Char → List Char
  | '-' :: rest => rest
  | rest => rest

/-- The hexadecimal digits of a UUID literal, or `none` when PostgreSQL refuses it: a
hyphen may follow every fourth digit, except the last. -/
def uuidDigits : ℕ → List Char → Option (List Char)
  | 0, [] => some []
  | 0, _ :: _ => none
  | _ + 1, [] => none
  | digits + 1, character :: rest =>
      let digit := character.toLower
      if character.isDigit || ('a' ≤ digit && digit ≤ 'f') then
        (uuidDigits digits (if digits % 4 = 0 ∧ digits ≠ 0 then skipHyphen rest else rest)).map
          (digit :: ·)
      else none

/-- `$1::uuid` read back with `::text`: 32 digits in lower case, with hyphens. -/
def castUuid (text : String) : Option String :=
  let braced := text.toList
  let bare :=
    if braced.head? = some '\x7b' then
      if braced.getLast? = some '\x7d' then some braced.tail.dropLast else none
    else some braced
  (bare.bind (uuidDigits 32)).map fun digits => String.ofList
    (digits.take 8 ++ '-' :: (digits.drop 8).take 4 ++ '-' :: (digits.drop 12).take 4 ++
      '-' :: (digits.drop 16).take 4 ++ '-' :: digits.drop 20)

/-- `gate_authority.work_challenges`. -/
structure ChallengeRow where
  workRequirement : CreditedWork
  verifiedProgress : VerifiedProgress
  satisfied : Bool
  lifecycleState : ChallengeLifecycleState
  lifecycleChangedAtUnixSeconds : Option ℕ
  expiresAtUnixSeconds : ℕ
  terminalAtUnixSeconds : Option ℕ
  gatePassClaimsSeed : String
  trustedConfirmationRequired : Bool
  deriving DecidableEq

/-- `gate_authority.work_sessions`. -/
structure SessionRow where
  challengeId : ChallengeId
  poolOfferId : String
  payoutCommitment : String
  lifecycleState : SessionLifecycleState
  leaseId : Option String
  continuityId : Option String
  lastMonotonicMilliseconds : Option ℕ
  leaseStartedAtMonotonicMilliseconds : Option ℕ
  renewAtMonotonicMilliseconds : Option ℕ
  expiresAtMonotonicMilliseconds : Option ℕ
  stopReason : Option SessionStopReason
  trustedConsentCeremonyId : Option String
  materialTrustedConfirmationRequired : Bool
  replacesSessionId : Option WorkSessionId
  replacementGeneration : ℕ
  replacementReason : Option SessionStopReason
  deriving DecidableEq

/-- `gate_authority.accepted_work_events`. -/
structure EventRow where
  challengeId : ChallengeId
  sessionId : WorkSessionId
  assignedTarget : AssignedTarget
  receivedAt : ReceiptTime
  shareFingerprint : ShareFingerprint
  networkTargetOutcome : NetworkTargetOutcome
  disposition : AcceptedWorkDisposition
  creditedWork : Option CreditedWork
  verifiedProgress : VerifiedProgress
  workRequirement : CreditedWork
  issuanceIntentCreated : Bool
  deriving DecidableEq

/-- The states of a signing intent. -/
inductive IntentStatus
  | pending
  | signing
  | issued
  | failed
  deriving DecidableEq, Repr

/-- The claims a pass is signed over: the challenge's seed under a pass identity. -/
structure GatePassClaimsTemplate where
  seed : String
  passId : String
  deriving DecidableEq

/-- `gate_authority.gate_pass_issuance_intents`. -/
structure IntentRow where
  algorithm : String
  claimsTemplate : GatePassClaimsTemplate
  signingDeadlineUnixSeconds : ℕ
  status : IntentStatus
  signingLeaseOwner : Option String
  signingLeaseExpiresAtUnixSeconds : Option ℕ
  authorityKid : Option String
  gatePass : Option String
  issuedAtUnixSeconds : Option ℕ
  expiresAtUnixSeconds : Option ℕ
  deriving DecidableEq

inductive OutboxStatus
  | pending
  | processing
  | completed
  | failed
  deriving DecidableEq, Repr

/-- `gate_authority.authority_outbox`, unique per challenge for its one kind. -/
structure OutboxRow where
  status : OutboxStatus
  availableAtUnixSeconds : ℕ
  deriving DecidableEq

/-- `gate_authority.claimant_issuance_proofs`. -/
structure ProofRow where
  challengeId : ChallengeId
  expiresAtUnixSeconds : ℕ
  deriving DecidableEq

inductive SelectionStatus
  | proposed
  | consented
  deriving DecidableEq, Repr

/-- `gate_authority.pool_selections`. -/
structure SelectionRow where
  poolOfferId : String
  payoutCommitment : String
  status : SelectionStatus
  selectedAtUnixSeconds : ℕ
  consentedAtUnixSeconds : Option ℕ
  deriving DecidableEq

/-- What leases read of `gate_authority.trusted_consent_ceremonies`. -/
structure CeremonyRow where
  challengeId : ChallengeId
  verified : Bool
  trustedConsentReceipt : Option String
  receiptExpiresAtUnixSeconds : Option ℕ
  deriving DecidableEq

/-- What sessions read of `gate_authority.pool_offer_replacements`. -/
structure ReplacementRow where
  candidateSessionId : WorkSessionId
  pendingReconfirmation : Bool
  deriving DecidableEq

/-- The tables of the Authority. -/
structure AuthorityDatabase where
  challenges : Rows ChallengeId ChallengeRow
  sessions : Rows WorkSessionId SessionRow
  shareFingerprints : Rows ShareFingerprint ChallengeId
  events : Rows AcceptedWorkEventId EventRow
  intents : Rows ChallengeId IntentRow
  outbox : Rows ChallengeId OutboxRow
  claimantProofs : Rows String ProofRow
  poolSelections : Rows ChallengeId SelectionRow
  ceremonies : Rows String CeremonyRow
  replacements : Rows WorkSessionId ReplacementRow

namespace AuthorityDatabase

/-- The database after the migrations. -/
def empty : AuthorityDatabase := ⟨∅, ∅, ∅, ∅, ∅, ∅, ∅, ∅, ∅, ∅⟩

/-- The columns every stop clears. -/
def stoppedSession (reason : SessionStopReason) (row : SessionRow) : SessionRow :=
  { row with
    lifecycleState := .stopping
    leaseId := none
    continuityId := none
    lastMonotonicMilliseconds := none
    renewAtMonotonicMilliseconds := none
    expiresAtMonotonicMilliseconds := none
    stopReason := some reason }

/-- `stop_sessions`. -/
def stopSessions (db : AuthorityDatabase) (challengeId : ChallengeId) (reason : SessionStopReason)
    (fromStates : List SessionLifecycleState) : AuthorityDatabase :=
  { db with sessions := db.sessions.mapRows fun _ row =>
      if row.challengeId = challengeId ∧ row.lifecycleState ∈ fromStates then
        stoppedSession reason row
      else row }

/-- `stop_one_session`. -/
def stopOneSession (db : AuthorityDatabase) (sessionId : WorkSessionId)
    (reason : SessionStopReason) : AuthorityDatabase :=
  { db with sessions := db.sessions.updateRow sessionId (stoppedSession reason) }

/-- A challenge moved to a state at an instant, with its terminal time. -/
def setLifecycle (db : AuthorityDatabase) (challengeId : ChallengeId)
    (state : ChallengeLifecycleState) (changedAt : ℕ) (terminalAt : Option ℕ → Option ℕ) :
    AuthorityDatabase :=
  { db with challenges := db.challenges.updateRow challengeId fun row => { row with
      lifecycleState := state
      lifecycleChangedAtUnixSeconds := some changedAt
      terminalAtUnixSeconds := terminalAt row.terminalAtUnixSeconds } }

end AuthorityDatabase

/-- What a transaction leaves: the database, and the answer to its caller.  A
transaction that returns an error before it commits leaves the database it found. -/
abbrev TransactionResult (α : Type) := AuthorityDatabase × Except AuthorityPersistenceError α

/-- Roll back and return an error. -/
def rollback {α : Type} (db : AuthorityDatabase) (error : AuthorityPersistenceError) :
    TransactionResult α := (db, .error error)

/-- Commit and return a value. -/
def commit {α : Type} (db : AuthorityDatabase) (value : α) : TransactionResult α := (db, .ok value)

/-- Commit, and return an error all the same. -/
def commitError {α : Type} (db : AuthorityDatabase) (error : AuthorityPersistenceError) :
    TransactionResult α := (db, .error error)

end WorkGate
