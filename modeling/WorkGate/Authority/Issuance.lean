/-
# Issuing Gate Passes (src/authority_persistence/postgres.rs, .../postgres/accounting.rs)

A satisfied challenge has one signing intent.  A signing worker claims it under a
lease, signs outside the database and then completes it; the lease and the signing
deadline are what keeps a slow worker from completing a claim it has lost.
-/

import WorkGate.Authority.Sessions
import Mathlib.Data.List.MinMax
import Mathlib.Data.Prod.Lex
import Mathlib.Data.String.Basic

namespace WorkGate

open WorkGate.Library

/-- What a signing worker is handed. -/
structure ClaimedIssuance where
  challengeId : ChallengeId
  algorithm : String
  claimsTemplate : GatePassClaimsTemplate
  deriving DecidableEq

/-- Whether an intent can still be signed. -/
def IntentRow.isOpen (intent : IntentRow) : Bool :=
  intent.status == .pending || intent.status == .signing

/-- Whether an intent may be claimed at `now`: nobody has claimed it, or the claim has
run out. -/
def IntentRow.claimable (intent : IntentRow) (now : ℕ) : Bool :=
  decide (now < intent.signingDeadlineUnixSeconds) && (intent.status == .pending ||
    intent.status == .signing && match intent.signingLeaseExpiresAtUnixSeconds with
      | none => false
      | some leaseExpiresAt => decide (leaseExpiresAt ≤ now))

namespace AuthorityDatabase

/-- Whether `fail_expired_issuance` at `now` fails the intent of a challenge. -/
def issuanceExpired (db : AuthorityDatabase) (challengeId : ChallengeId) (now : ℕ) : Bool :=
  match db.intents.lookup challengeId with
  | none => false
  | some intent => intent.isOpen && decide (intent.signingDeadlineUnixSeconds ≤ now)

/-- The signing deadline of a challenge's intent. -/
def signingDeadline (db : AuthorityDatabase) (challengeId : ChallengeId) : Option ℕ :=
  (db.intents.lookup challengeId).map fun intent => intent.signingDeadlineUnixSeconds

/-- `fail_expired_issuance`: intents, challenges and outbox rows in one statement. -/
def failExpiredIssuance (db : AuthorityDatabase) (now : ℕ) : AuthorityDatabase :=
  { db with
    intents := db.intents.mapRows fun challengeId intent =>
      if db.issuanceExpired challengeId now then { intent with
        status := .failed
        signingLeaseOwner := none
        signingLeaseExpiresAtUnixSeconds := none }
      else intent
    challenges := db.challenges.mapRows fun challengeId row =>
      if db.issuanceExpired challengeId now then { row with
        terminalAtUnixSeconds := db.signingDeadline challengeId
        lifecycleState := .expired
        lifecycleChangedAtUnixSeconds := db.signingDeadline challengeId }
      else row
    outbox := db.outbox.mapRows fun challengeId row =>
      if db.issuanceExpired challengeId now && decide (challengeId ∈ db.challenges) then
        { row with status := .failed }
      else row }

/-- `claim_issuance`: the claimable intent with the earliest deadline, skipping the rows
that other transactions hold locked. -/
def claimableIssuance (db : AuthorityDatabase) (now : ℕ) (locked : List ChallengeId) :
    Option ((_ : ChallengeId) × IntentRow) :=
  (db.intents.entries.filter fun entry =>
    entry.2.claimable now && decide (entry.1 ∈ db.challenges) && decide (entry.1 ∉ locked)).argmin
      fun entry => toLex (entry.2.signingDeadlineUnixSeconds, entry.1.text)

/-- The claim written: `mark_issuance_signing` and `mark_outbox_processing`. -/
def markIssuanceSigning (db : AuthorityDatabase) (challengeId : ChallengeId) (workerId : String)
    (leaseExpiresAt : ℕ) : AuthorityDatabase :=
  { db with
    intents := db.intents.updateRow challengeId fun intent => { intent with
      status := .signing
      signingLeaseOwner := some workerId
      signingLeaseExpiresAtUnixSeconds := some leaseExpiresAt }
    outbox := db.outbox.updateRow challengeId fun row => { row with status := .processing } }

/-- `maybe_claim_issuance`. -/
def maybeClaimIssuance (db : AuthorityDatabase) (workerId : String) (now leaseExpiresAt : ℕ)
    (locked : List ChallengeId) : TransactionResult (Option ClaimedIssuance) :=
  match unixSecondsToI64 now, unixSecondsToI64 leaseExpiresAt with
  | .error error, _ => rollback db error
  | _, .error error => rollback db error
  | .ok now, .ok leaseExpiresAt =>
    let current := (db.failExpiredIssuance now).deleteExpiredProofs now
    match current.claimableIssuance now locked with
    | none => commit current none
    | some ⟨challengeId, intent⟩ =>
        commit (current.markIssuanceSigning challengeId workerId leaseExpiresAt)
          (some ⟨challengeId, intent.algorithm, intent.claimsTemplate⟩)

/-- What a signing worker hands back. -/
structure CompletedIssuance where
  challengeId : ChallengeId
  authorityKid : String
  gatePass : String
  issuedAt : ℕ
  expiresAt : ℕ

/-- Whether `complete_issuance` finds the worker's claim alive at the database's clock. -/
def holdsClaim (db : AuthorityDatabase) (challengeId : ChallengeId) (workerId : String)
    (clock : ℕ) : Bool :=
  match db.intents.lookup challengeId with
  | none => false
  | some intent => intent.status == .signing && intent.signingLeaseOwner == some workerId &&
      (match intent.signingLeaseExpiresAtUnixSeconds with
        | none => false
        | some leaseExpiresAt => decide (clock < leaseExpiresAt)) &&
      decide (clock < intent.signingDeadlineUnixSeconds)

/-- `complete_issuance`, where nothing commits between its statements.  The clock is the
database's own, not the caller's. -/
def completeIssuance (db : AuthorityDatabase) (workerId : String) (completed : CompletedIssuance)
    (clock : ℕ) : TransactionResult Unit :=
  match unixSecondsToI64 completed.issuedAt, unixSecondsToI64 completed.expiresAt with
  | .error error, _ => rollback db error
  | _, .error error => rollback db error
  | .ok issuedAt, .ok expiresAt =>
    if !db.holdsClaim completed.challengeId workerId clock then rollback db .lostSigningLease
    -- The constraint on issued intents.
    else if issuedAt = 0 ∨ expiresAt ≤ issuedAt then rollback db .database
    else
      let signed := { db with
        intents := db.intents.updateRow completed.challengeId fun intent => { intent with
          status := .issued
          signingLeaseOwner := none
          signingLeaseExpiresAtUnixSeconds := none
          authorityKid := some completed.authorityKid
          gatePass := some completed.gatePass
          issuedAtUnixSeconds := some issuedAt
          expiresAtUnixSeconds := some expiresAt }
        outbox := db.outbox.updateRow completed.challengeId fun row =>
          { row with status := .completed } }
      commit (signed.setLifecycle completed.challengeId .passIssued issuedAt
        fun _ => some issuedAt) ()

end AuthorityDatabase

end WorkGate
