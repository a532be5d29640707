/-
# Challenges, selections and sessions (src/authority_persistence/postgres.rs,
src/authority_persistence/postgres/pool_selection.rs, .../offer_replacement.rs)

The transactions that create what the lifecycle then moves: a challenge, the pool
selection it is worked under, its sessions and their replacements.
-/

import WorkGate.Authority.Lifecycle

namespace WorkGate

open WorkGate.Library

/-- What `insert_challenge` takes of a descriptor and its claims. -/
structure NewChallenge where
  challengeId : ChallengeId
  requiredWork : CreditedWork
  expiresAtUnixSeconds : ℕ
  claimsSeed : String
  requiresTrustedConfirmation : Bool

/-- SHA-256 commitment used to lock the exact payout choice without retaining it. -/
structure PoolSelectionCommitment where
  poolOfferId : String
  commitment : String
  deriving DecidableEq

/-- The shape both the table's constraints and `PoolSelectionCommitment::persisted`
ask of a selection. -/
def isSelection (poolOfferId payoutCommitment : String) : Bool :=
  let offer := poolOfferId.toList
  let payout := payoutCommitment.toList
  !offer.isEmpty && offer.length ≤ 128 && offer.all isOpaqueIdCharacter &&
    payout.length == 64 && payout.all fun c => c.isDigit || ('a' ≤ c && c ≤ 'f')

namespace AuthorityDatabase

def insertChallenge (db : AuthorityDatabase) (new : NewChallenge) : TransactionResult Unit :=
  match checkedInstant new.expiresAtUnixSeconds with
  | .error error => rollback db error
  | .ok expiresAt =>
    if new.challengeId ∈ db.challenges then rollback db .duplicateChallenge
    else commit { db with challenges := db.challenges.insert new.challengeId {
      workRequirement := new.requiredWork
      verifiedProgress := VerifiedProgress.zero
      satisfied := false
      lifecycleState := .issued
      lifecycleChangedAtUnixSeconds := none
      expiresAtUnixSeconds := expiresAt
      terminalAtUnixSeconds := some expiresAt
      gatePassClaimsSeed := new.claimsSeed
      trustedConfirmationRequired := new.requiresTrustedConfirmation } } ()

/-- The challenge takes `command`, and its deadline has not passed. -/
def lockOpenChallenge (db : AuthorityDatabase) (challengeId : ChallengeId) (now : ℕ)
    (command : ChallengeLifecycleCommand) : Except AuthorityPersistenceError ℕ :=
  match db.challenges.lookup challengeId with
  | none => .error .unknownChallenge
  | some row =>
    match applyChallengeCommand row.lifecycleState command with
    | .error _ => .error .forbiddenLifecycleTransition
    | .ok _ => do
        let instant ← unixSecondsToI64 now
        if instant ≥ row.expiresAtUnixSeconds then .error .forbiddenLifecycleTransition
        else .ok instant

def proposePoolSelection (db : AuthorityDatabase) (challengeId : ChallengeId)
    (poolOfferId payoutCommitment : String) (now : ℕ) :
    TransactionResult PoolSelectionCommitment :=
  match db.lockOpenChallenge challengeId now .selectPoolOffer with
  | .error error => rollback db error
  | .ok instant =>
    if instant = 0 || !isSelection poolOfferId payoutCommitment then rollback db .database
    else match db.poolSelections.lookup challengeId with
      | none =>
          let proposed : SelectionRow := ⟨poolOfferId, payoutCommitment, .proposed, instant, none⟩
          commit { db with poolSelections := db.poolSelections.insert challengeId proposed }
            ⟨poolOfferId, payoutCommitment⟩
      | some existing =>
        if existing.status = .proposed then
          commit { db with poolSelections := db.poolSelections.updateRow challengeId fun row =>
            { row with
              poolOfferId := poolOfferId
              payoutCommitment := payoutCommitment
              selectedAtUnixSeconds := instant } } ⟨poolOfferId, payoutCommitment⟩
        else if existing.poolOfferId ≠ poolOfferId ∨
            existing.payoutCommitment ≠ payoutCommitment then rollback db .poolSelectionLocked
        else commit db ⟨existing.poolOfferId, existing.payoutCommitment⟩

def confirmPoolSelection (db : AuthorityDatabase) (challengeId : ChallengeId)
    (payoutCommitment : String) (now : ℕ) : TransactionResult PoolSelectionCommitment :=
  match db.lockOpenChallenge challengeId now .confirmPoolSelection with
  | .error error => rollback db error
  | .ok instant =>
    match db.poolSelections.lookup challengeId with
    | none => rollback db .poolSelectionRequired
    | some existing =>
      if existing.payoutCommitment ≠ payoutCommitment then rollback db .poolSelectionMismatch
      else if existing.status = .consented then
        commit db ⟨existing.poolOfferId, existing.payoutCommitment⟩
      -- Consent may not be dated before the selection.
      else if instant < existing.selectedAtUnixSeconds then rollback db .database
      else commit { db with poolSelections := db.poolSelections.updateRow challengeId fun row =>
        { row with status := .consented, consentedAtUnixSeconds := some instant } }
        ⟨existing.poolOfferId, existing.payoutCommitment⟩

/-- Whether a pending material replacement has reserved this session identity. -/
def reservedPredecessor (db : AuthorityDatabase) (sessionId : WorkSessionId) :
    Option WorkSessionId :=
  (db.replacements.entries.find? fun entry =>
    entry.2.candidateSessionId == sessionId && entry.2.pendingReconfirmation).map (·.1)

/-- A session before any lease. -/
def readySession (challengeId : ChallengeId) (poolOfferId payoutCommitment : String) :
    SessionRow where
  challengeId := challengeId
  poolOfferId := poolOfferId
  payoutCommitment := payoutCommitment
  lifecycleState := .ready
  leaseId := none
  continuityId := none
  lastMonotonicMilliseconds := none
  leaseStartedAtMonotonicMilliseconds := none
  renewAtMonotonicMilliseconds := none
  expiresAtMonotonicMilliseconds := none
  stopReason := none
  trustedConsentCeremonyId := none
  materialTrustedConfirmationRequired := false
  replacesSessionId := none
  replacementGeneration := 0
  replacementReason := none

def insertWorkSession (db : AuthorityDatabase) (challengeId : ChallengeId)
    (sessionId : WorkSessionId) (now : ℕ) : TransactionResult Unit :=
  match db.lockOpenChallenge challengeId now .registerSession with
  | .error error => rollback db error
  | .ok _ =>
    match db.poolSelections.lookup challengeId with
    | none => rollback db .poolSelectionRequired
    | some selection =>
      if selection.status ≠ .consented then rollback db .poolSelectionRequired
      else if (db.reservedPredecessor sessionId).isSome then rollback db .trustedConsentRequired
      else if sessionId ∈ db.sessions then rollback db .duplicateWorkSession
      else
        let session := readySession challengeId selection.poolOfferId selection.payoutCommitment
        commit { db with sessions := db.sessions.insert sessionId session } ()

/-- `replacement_from_row`. -/
def replacementFromRow (sessionId : WorkSessionId) (row : SessionRow) :
    Except AuthorityPersistenceError SessionReplacement :=
  match row.replacesSessionId, row.replacementReason with
  | some replaced, some reason =>
      (SessionReplacement.persisted
        ⟨sessionId, replaced, row.replacementGeneration, reason⟩).mapError .invalidLifecycle
  | _, _ => .error .database

/-- `replace_work_session_in_transaction`. -/
def replaceWorkSessionInTransaction (db : AuthorityDatabase)
    (replacedSessionId sessionId : WorkSessionId) (now : ℕ) (allowMaterialPending : Bool) :
    Except AuthorityPersistenceError (AuthorityDatabase × SessionReplacement) :=
  match db.sessions.lookup replacedSessionId with
  | none => .error .unknownWorkSession
  | some replaced =>
    match db.challenges.lookup replaced.challengeId with
    | none => .error .unknownWorkSession
    | some challenge =>
      let pendingCandidate := match db.replacements.lookup replacedSessionId with
        | none => false
        | some replacement => replacement.pendingReconfirmation
      if pendingCandidate && !allowMaterialPending then .error .trustedConsentRequired
      else if match db.reservedPredecessor sessionId with
          | none => false
          | some reserved => !allowMaterialPending || reserved != replacedSessionId then
        .error .trustedConsentRequired
      else match db.sessions.entries.find? fun entry =>
          entry.2.replacesSessionId == some replacedSessionId with
        | some existing => do
            let replacement ← replacementFromRow existing.1 existing.2
            if replacement.sessionId ≠ sessionId then .error .conflictingWorkSessionReplacement
            else return (db, replacement)
        | none =>
          match replaced.stopReason with
          | none => .error .database
          | some reason =>
            if (replaced.lifecycleState ≠ .stopping ∧ replaced.lifecycleState ≠ .failed) ∨
                reason.allowsReplacement = false then .error .forbiddenLifecycleTransition
            else match applyChallengeCommand challenge.lifecycleState .registerSession with
              | .error _ => .error .forbiddenLifecycleTransition
              | .ok _ => do
                  let instant ← unixSecondsToI64 now
                  if instant ≥ challenge.expiresAtUnixSeconds then
                    .error .forbiddenLifecycleTransition
                  else
                    let generation := ((db.sessions.entries.filter fun entry =>
                      entry.2.challengeId = replaced.challengeId).map fun entry =>
                        entry.2.replacementGeneration).foldl max 0 + 1
                    if sessionId ∈ db.sessions then .error .duplicateWorkSession
                    else do
                      let replacement ← (SessionReplacement.persisted
                        ⟨sessionId, replacedSessionId, generation, reason⟩).mapError
                          .invalidLifecycle
                      let session := { readySession replaced.challengeId replaced.poolOfferId
                          replaced.payoutCommitment with
                        replacesSessionId := some replacedSessionId
                        replacementGeneration := generation
                        replacementReason := some reason }
                      return ({ db with sessions := db.sessions.insert sessionId session },
                        replacement)

def replaceWorkSession (db : AuthorityDatabase) (replacedSessionId sessionId : WorkSessionId)
    (now : ℕ) : TransactionResult SessionReplacement :=
  match db.replaceWorkSessionInTransaction replacedSessionId sessionId now false with
  | .error error => rollback db error
  | .ok (written, replacement) => commit written replacement

/-- `release_material`: the released session needs its own confirmation. -/
def releaseMaterialPoolOfferReplacement (db : AuthorityDatabase)
    (replacedSessionId candidateSessionId : WorkSessionId) (now : ℕ) :
    TransactionResult SessionReplacement :=
  match db.replaceWorkSessionInTransaction replacedSessionId candidateSessionId now true with
  | .error error => rollback db error
  | .ok (written, replacement) =>
      commit { written with sessions := written.sessions.updateRow candidateSessionId fun row =>
        { row with materialTrustedConfirmationRequired := true } } replacement

/-- Drop the claimant proofs that expired before `now`. -/
def deleteExpiredProofs (db : AuthorityDatabase) (now : ℕ) : AuthorityDatabase :=
  { db with claimantProofs := db.claimantProofs.keepRows fun _ row =>
      !decide (row.expiresAtUnixSeconds < now) }

/-- `consume_issuance_proof`. -/
def consumeIssuanceProof (db : AuthorityDatabase) (challengeId : ChallengeId) (proofId : String)
    (expiresAt now : ℕ) : TransactionResult Unit :=
  match unixSecondsToI64 now, unixSecondsToI64 expiresAt with
  | .error error, _ => rollback db error
  | _, .error error => rollback db error
  | .ok now, .ok expiresAt =>
    let live := db.deleteExpiredProofs now
    if proofId ∈ live.claimantProofs then rollback db .replayedIssuanceProof
    else if challengeId ∉ live.challenges then rollback db .database
    else
      let proof : ProofRow := ⟨challengeId, expiresAt⟩
      commit { live with claimantProofs := live.claimantProofs.insert proofId proof } ()

end AuthorityDatabase

end WorkGate
