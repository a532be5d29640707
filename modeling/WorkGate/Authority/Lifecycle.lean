/-
# Lifecycle transactions (src/authority_persistence/postgres/lifecycle.rs)

Pausing, cancelling, leasing, renewing, interrupting, restoring and failing.  Each
transaction that names a challenge first expires it when its deadline has passed,
and keeps that even when it then refuses the caller.
-/

import WorkGate.Authority.Database

namespace WorkGate

open WorkGate.Library

/-- Redacted claimant-facing view of a Work Challenge lifecycle. -/
structure ChallengeLifecycle where
  challengeId : ChallengeId
  state : ChallengeLifecycleState
  verifiedProgress : VerifiedProgress
  workRequirement : CreditedWork
  authorizationEligible : Bool
  expiresAtUnixSeconds : ℕ
  lifecycleDeadlineUnixSeconds : ℕ
  deriving DecidableEq

/-- The receipt a lease start presents for a challenge that needs confirmation. -/
structure TrustedConsentLeaseAdmission where
  ceremonyId : String
  challengeId : String
  compactReceipt : String
  expiresAtUnixSeconds : ℕ
  deriving DecidableEq

/-- `transition_error`. -/
def transitionError : LifecycleError → AuthorityPersistenceError
  | .forbiddenTransition => .forbiddenLifecycleTransition
  | error => .invalidLifecycle error

/-- `lease_observation_error`. -/
def leaseObservationError : LifecycleError → AuthorityPersistenceError
  | .forbiddenTransition => .forbiddenLifecycleTransition
  | .wrongWorkLease => .wrongWorkLease
  | error => .invalidLifecycle error

/-- `stopped_lease_error`. -/
def stoppedLeaseError : SessionStopReason → AuthorityPersistenceError
  | .leaseExpired => .workLeaseExpired
  | .workerReboot | .monotonicReset => .workerContinuityLost
  | _ => .invalidPersistedData

namespace AuthorityDatabase

/-- When the challenge, or the pass it was issued, expires. -/
def lifecycleDeadline (db : AuthorityDatabase) (challengeId : ChallengeId) (row : ChallengeRow) :
    Except AuthorityPersistenceError ℕ :=
  if row.lifecycleState = .passIssued then
    match (db.intents.lookup challengeId).bind fun intent => intent.expiresAtUnixSeconds with
    | some passExpiresAt => .ok passExpiresAt
    | none => .error .invalidPersistedData
  else .ok row.expiresAtUnixSeconds

/-- `terminalize_expired`. -/
def terminalizeExpired (db : AuthorityDatabase) (challengeId : ChallengeId) (now : ℕ) :
    Except AuthorityPersistenceError AuthorityDatabase :=
  match db.challenges.lookup challengeId with
  | none => .error .unknownChallenge
  | some row =>
    match db.lifecycleDeadline challengeId row with
    | .error error => .error error
    | .ok deadline =>
      if now < deadline then .ok db
      else match applyChallengeCommand row.lifecycleState .expire with
        | .error .forbiddenTransition => .ok db
        | .error error => .error (.invalidLifecycle error)
        | .ok target =>
          if target = row.lifecycleState then .ok db
          else match checkedInstant deadline with
            | .error error => .error error
            | .ok instant =>
              -- The terminal time already set is kept.
              .ok ((db.setLifecycle challengeId .expired instant
                fun terminalAt => terminalAt.or (some instant)).stopSessions challengeId
                  .challengeExpired [.ready, .leased])

/-- `select_challenge`. -/
def selectChallenge (db : AuthorityDatabase) (challengeId : ChallengeId) :
    Except AuthorityPersistenceError ChallengeLifecycle :=
  match db.challenges.lookup challengeId with
  | none => .error .unknownChallenge
  | some row =>
    let maybeDeadline :=
      if row.lifecycleState = .passIssued then
        (db.intents.lookup challengeId).bind fun intent => intent.expiresAtUnixSeconds
      else some row.expiresAtUnixSeconds
    match maybeDeadline with
    | none => .error .database
    | some deadline => .ok {
        challengeId
        state := row.lifecycleState
        verifiedProgress := row.verifiedProgress
        workRequirement := row.workRequirement
        authorizationEligible := row.lifecycleState.authorizationEligible
        expiresAtUnixSeconds := row.expiresAtUnixSeconds
        lifecycleDeadlineUnixSeconds := deadline }

/-- Commit what was written together with the view of the challenge. -/
def commitSelected (found written : AuthorityDatabase) (challengeId : ChallengeId) :
    TransactionResult ChallengeLifecycle :=
  match written.selectChallenge challengeId with
  | .error error => rollback found error
  | .ok lifecycle => commit written lifecycle

def challengeLifecycle (db : AuthorityDatabase) (challengeId : ChallengeId) (now : ℕ) :
    TransactionResult ChallengeLifecycle :=
  match db.terminalizeExpired challengeId now with
  | .error error => rollback db error
  | .ok current => commitSelected db current challengeId

def pauseChallenge (db : AuthorityDatabase) (challengeId : ChallengeId) (reason : PauseReason)
    (now : ℕ) : TransactionResult ChallengeLifecycle :=
  match db.terminalizeExpired challengeId now with
  | .error error => rollback db error
  | .ok current =>
    match current.challenges.lookup challengeId with
    | none => rollback db .unknownChallenge
    | some row =>
      match applyChallengeCommand row.lifecycleState .pause with
      | .error error => commitError current (transitionError error)
      | .ok _ =>
          commitSelected db (current.stopSessions challengeId reason.stopReason [.leased])
            challengeId

def cancelChallenge (db : AuthorityDatabase) (challengeId : ChallengeId) (now : ℕ) :
    TransactionResult ChallengeLifecycle :=
  match db.terminalizeExpired challengeId now with
  | .error error => rollback db error
  | .ok current =>
    match current.challenges.lookup challengeId with
    | none => rollback db .unknownChallenge
    | some row =>
      match applyChallengeCommand row.lifecycleState .cancel with
      | .error error => commitError current (transitionError error)
      | .ok target =>
        if target = row.lifecycleState then commitSelected db current challengeId
        else match checkedInstant now with
          | .error error => rollback db error
          | .ok instant =>
              commitSelected db ((current.setLifecycle challengeId .cancelled instant
                fun _ => some instant).stopSessions challengeId .challengeCancelled
                  [.ready, .leased]) challengeId

/-- What `lock_challenge_and_session` reads. -/
structure LockedLeaseContext where
  challengeId : ChallengeId
  challengeState : ChallengeLifecycleState
  sessionState : SessionLifecycleState
  selectionConsented : Bool
  trustedConfirmationRequired : Bool
  maybeTrustedConsentCeremonyId : Option String

/-- `lock_challenge_and_session`. -/
def lockChallengeAndSession (db : AuthorityDatabase) (sessionId : WorkSessionId) :
    Except AuthorityPersistenceError LockedLeaseContext :=
  match db.sessions.lookup sessionId with
  | none => .error .unknownWorkSession
  | some session =>
    match db.challenges.lookup session.challengeId with
    | none => .error .unknownWorkSession
    | some challenge => .ok {
        challengeId := session.challengeId
        challengeState := challenge.lifecycleState
        sessionState := session.lifecycleState
        selectionConsented := match db.poolSelections.lookup session.challengeId with
          | none => false
          | some selection => selection.poolOfferId == session.poolOfferId &&
              selection.payoutCommitment == session.payoutCommitment &&
              selection.status == .consented
        trustedConfirmationRequired := challenge.trustedConfirmationRequired ||
          session.materialTrustedConfirmationRequired
        maybeTrustedConsentCeremonyId := session.trustedConsentCeremonyId }

/-- `trusted_consent_lease::admit`: a ceremony is bound to one session for good. -/
def admitTrustedConsent (db : AuthorityDatabase) (sessionId : WorkSessionId)
    (locked : LockedLeaseContext) (maybeAdmission : Option TrustedConsentLeaseAdmission)
    (now : ℕ) : Except AuthorityPersistenceError AuthorityDatabase :=
  if !locked.trustedConfirmationRequired then
    if maybeAdmission.isSome then .error .invalidTrustedConsentReceipt else .ok db
  else match maybeAdmission with
    | none => .error .trustedConsentRequired
    | some admission =>
      if admission.challengeId ≠ locked.challengeId.text then .error .invalidTrustedConsentReceipt
      else match locked.maybeTrustedConsentCeremonyId with
        | some existing =>
            if existing = admission.ceremonyId then .ok db
            else .error .invalidTrustedConsentReceipt
        | none => do
            let expiresAt ← unixSecondsToI64 admission.expiresAtUnixSeconds
            let instant ← unixSecondsToI64 now
            let authorized := match db.ceremonies.lookup admission.ceremonyId with
              | none => false
              | some ceremony => decide (ceremony.challengeId = locked.challengeId) &&
                  ceremony.verified &&
                  ceremony.trustedConsentReceipt == some admission.compactReceipt &&
                  ceremony.receiptExpiresAtUnixSeconds == some expiresAt &&
                  decide (instant < expiresAt)
            if !authorized then .error .invalidTrustedConsentReceipt
            -- The unique index over bound ceremonies.
            else if db.sessions.entries.any fun entry =>
                entry.2.trustedConsentCeremonyId == some admission.ceremonyId then
              .error .trustedConsentReceiptReplayed
            else .ok { db with sessions := db.sessions.updateRow sessionId fun row =>
              { row with trustedConsentCeremonyId := some admission.ceremonyId } }

/-- What a lease start is asked for. -/
structure StartWorkLeaseInput where
  sessionId : WorkSessionId
  maybeTrustedConsent : Option TrustedConsentLeaseAdmission
  clock : WorkerClock
  leaseId : String
  renewAtMonotonicMilliseconds : ℕ
  expiresAtMonotonicMilliseconds : ℕ
  nowUnixSeconds : ℕ

/-- The three readings of a lease, in range and in order as the constraint on leased
sessions asks. -/
def leaseReadings (last renewAt expiresAt : ℕ) :
    Except AuthorityPersistenceError (ℕ × ℕ × ℕ) := do
  let last ← unixSecondsToI64 last
  let renewAt ← unixSecondsToI64 renewAt
  let expiresAt ← unixSecondsToI64 expiresAt
  if last < renewAt ∧ renewAt < expiresAt then .ok (last, renewAt, expiresAt) else .error .database

def startWorkLease (db : AuthorityDatabase) (input : StartWorkLeaseInput) :
    TransactionResult WorkLease :=
  match db.sessions.lookup input.sessionId with
  | none => rollback db .unknownWorkSession
  | some session =>
    match db.terminalizeExpired session.challengeId input.nowUnixSeconds with
    | .error error => rollback db error
    | .ok current =>
      match current.lockChallengeAndSession input.sessionId with
      | .error error => rollback db error
      | .ok locked =>
        if !locked.selectionConsented then commitError current .poolSelectionRequired
        else match applyChallengeCommand locked.challengeState .startWork,
            applySessionCommand locked.sessionState .startLease with
          | .ok targetChallenge, .ok _ =>
            match current.admitTrustedConsent input.sessionId locked input.maybeTrustedConsent
                input.nowUnixSeconds with
            | .error error => rollback db error
            | .ok admitted =>
              let activated : Except AuthorityPersistenceError AuthorityDatabase :=
                if targetChallenge ≠ locked.challengeState then
                  (checkedInstant input.nowUnixSeconds).map fun instant =>
                    admitted.setLifecycle session.challengeId .active instant id
                else .ok admitted
              match activated, castUuid input.leaseId, leaseReadings
                  input.clock.monotonicMilliseconds input.renewAtMonotonicMilliseconds
                  input.expiresAtMonotonicMilliseconds with
              | .error error, _, _ => rollback db error
              | _, _, .error error => rollback db error
              | _, none, _ => rollback db .database
              | .ok started, some leaseId, .ok (last, renewAt, expiresAt) =>
                  commit { started with
                    sessions := started.sessions.updateRow input.sessionId fun row => { row with
                      lifecycleState := .leased
                      leaseId := some leaseId
                      continuityId := some input.clock.continuityId
                      lastMonotonicMilliseconds := some last
                      leaseStartedAtMonotonicMilliseconds := some last
                      renewAtMonotonicMilliseconds := some renewAt
                      expiresAtMonotonicMilliseconds := some expiresAt
                      stopReason := none } }
                    ⟨input.leaseId, input.renewAtMonotonicMilliseconds,
                      input.expiresAtMonotonicMilliseconds⟩
          | _, _ => commitError current .forbiddenLifecycleTransition

/-- What a renewal is asked for. -/
structure RenewWorkLeaseInput where
  sessionId : WorkSessionId
  leaseId : String
  clock : WorkerClock
  renewAtMonotonicMilliseconds : ℕ
  expiresAtMonotonicMilliseconds : ℕ
  now : ℕ

/-- Whether the receipt a session was started under has run out. -/
def trustedConsentLapsed (db : AuthorityDatabase) (challenge : ChallengeRow)
    (session : SessionRow) (now : ℕ) : Bool :=
  let maybeReceiptExpiry := session.trustedConsentCeremonyId.bind fun ceremonyId =>
    (db.ceremonies.lookup ceremonyId).bind fun ceremony => ceremony.receiptExpiresAtUnixSeconds
  (challenge.trustedConfirmationRequired || session.materialTrustedConfirmationRequired) &&
    match maybeReceiptExpiry with
    | none => true
    | some expiry => decide (expiry ≤ now)

/-- The lease columns of a session, where none is `NULL`. -/
def leaseColumns (session : SessionRow) (lastReading : Option ℕ) :
    Except AuthorityPersistenceError (String × String × ℕ × ℕ) :=
  match session.leaseId, session.continuityId, lastReading,
      session.expiresAtMonotonicMilliseconds with
  | some leaseId, some continuityId, some last, some expiresAt =>
      .ok (leaseId, continuityId, last, expiresAt)
  | _, _, _, _ => .error .database

def renewWorkLease (db : AuthorityDatabase) (input : RenewWorkLeaseInput) :
    TransactionResult WorkLease :=
  match db.sessions.lookup input.sessionId with
  | none => rollback db .unknownWorkSession
  | some found =>
    match db.terminalizeExpired found.challengeId input.now with
    | .error error => rollback db error
    | .ok current =>
      match current.sessions.lookup input.sessionId, current.challenges.lookup found.challengeId,
          unixSecondsToI64 input.now with
      | none, _, _ => rollback db .database
      | _, none, _ => rollback db .database
      | _, _, .error error => rollback db error
      | some session, some challenge, .ok now =>
        if current.trustedConsentLapsed challenge session now then
          commitError current .trustedConsentRequired
        else match applySessionCommand session.lifecycleState .observeLease with
          | .error error => commitError current (transitionError error)
          | .ok _ =>
            match leaseColumns session session.lastMonotonicMilliseconds with
            | .error error => rollback db error
            | .ok (leaseId, continuityId, last, expiresAt) =>
              match observeWorkLease {
                  state := session.lifecycleState
                  expectedLeaseId := leaseId
                  expectedContinuityId := continuityId
                  lastMonotonicMilliseconds := last
                  expiresAtMonotonicMilliseconds := expiresAt
                  presentedLeaseId := input.leaseId
                  clock := input.clock } with
              | .error error => rollback db (leaseObservationError error)
              | .ok (.stop reason) =>
                  commitError (current.stopOneSession input.sessionId reason)
                    (stoppedLeaseError reason)
              | .ok .accepted =>
                match leaseReadings input.clock.monotonicMilliseconds
                    input.renewAtMonotonicMilliseconds input.expiresAtMonotonicMilliseconds with
                | .error error => rollback db error
                | .ok (last, renewAt, expiresAt) =>
                    commit { current with
                      sessions := current.sessions.updateRow input.sessionId fun row => { row with
                        lastMonotonicMilliseconds := some last
                        renewAtMonotonicMilliseconds := some renewAt
                        expiresAtMonotonicMilliseconds := some expiresAt } }
                      ⟨input.leaseId, input.renewAtMonotonicMilliseconds,
                        input.expiresAtMonotonicMilliseconds⟩

/-- A session command that writes the session when it changes its state. -/
def applyToSession (db : AuthorityDatabase) (sessionId : WorkSessionId)
    (command : SessionLifecycleCommand) (write : SessionRow → SessionRow) :
    TransactionResult Unit :=
  match db.sessions.lookup sessionId with
  | none => rollback db .unknownWorkSession
  | some session =>
    match applySessionCommand session.lifecycleState command with
    | .error error => rollback db (transitionError error)
    | .ok target =>
        if target = session.lifecycleState then commit db ()
        else commit { db with sessions := db.sessions.updateRow sessionId write } ()

def interruptWorkSession (db : AuthorityDatabase) (sessionId : WorkSessionId)
    (interruption : WorkerInterruption) : TransactionResult Unit :=
  db.applyToSession sessionId .stop (stoppedSession interruption.stopReason)

def confirmWorkSessionRestored (db : AuthorityDatabase) (sessionId : WorkSessionId) :
    TransactionResult Unit :=
  db.applyToSession sessionId .confirmRestored fun row => { row with lifecycleState := .restored }

def failWorkSession (db : AuthorityDatabase) (sessionId : WorkSessionId) :
    TransactionResult Unit :=
  db.applyToSession sessionId .fail fun row =>
    { stoppedSession .sessionFailed row with lifecycleState := .failed }

/-- The lease of a stored session, where its identity is not `NULL`. -/
def maybeStoredLease (row : SessionRow) : Except AuthorityPersistenceError (Option WorkLease) :=
  match row.leaseId, row.renewAtMonotonicMilliseconds, row.expiresAtMonotonicMilliseconds with
  | some leaseId, some renewAt, some expiresAt => .ok (some ⟨leaseId, renewAt, expiresAt⟩)
  | some _, _, _ => .error .database
  | none, _, _ => .ok none

/-- `work_session_lifecycle`: the columns of a session, read as the state they must fit. -/
def workSessionLifecycle (db : AuthorityDatabase) (sessionId : WorkSessionId) :
    Except AuthorityPersistenceError SessionLifecycle :=
  match db.sessions.lookup sessionId with
  | none => .error .unknownWorkSession
  | some row => do
      let maybeLease ← maybeStoredLease row
      (SessionLifecycle.persisted sessionId row.challengeId row.lifecycleState
        (row.stopReason.map SessionStopReason.asStr) maybeLease).mapError .invalidLifecycle

end AuthorityDatabase

end WorkGate
