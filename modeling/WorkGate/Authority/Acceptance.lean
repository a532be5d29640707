/-
# Accepting work (src/authority_persistence/postgres.rs, .../postgres/accounting.rs)

`accept_work` is one transaction with many ways out.  A known event is answered
from its row; an event that cannot count is refused, and two refusals also commit
what they found out (the challenge expired, the lease ended).  Only the last branch
writes an event, and `AcceptsWork` says everything it writes.
-/

import WorkGate.Authority.Lifecycle

namespace WorkGate

open WorkGate.Library

/-- What `accept_work` answers. -/
structure PersistedAcceptance where
  challengeId : ChallengeId
  acknowledgement : AcceptedWorkAcknowledgement
  deriving DecidableEq

/-- Names why a challenge in `state` no longer accepts work. -/
def challengeRefusal : ChallengeLifecycleState → AuthorityPersistenceError
  | .satisfied | .passIssued => .workRefused .challengeSatisfied
  | .cancelled => .workRefused .challengeCancelled
  | .expired => .workRefused .challengeDeadlinePassed
  | .issued | .active => .forbiddenLifecycleTransition

/-- `map_lease_error`. -/
def mapLeaseError : LifecycleError → AuthorityPersistenceError
  | .forbiddenTransition => .workRefused .workLeaseEnded
  | .wrongWorkLease => .workRefused .unknownWorkLease
  | error => .invalidLifecycle error

/-- How a stopped lease refuses the event that stopped it. -/
def stoppedWorkRefusal : SessionStopReason → AuthorityPersistenceError
  | .leaseExpired => .workRefused .workLeaseExpired
  | .workerReboot | .monotonicReset => .workRefused .workerContinuityLost
  | _ => .invalidPersistedData

/-- The acknowledgement an event row holds. -/
def EventRow.acceptance (row : EventRow) (eventId : AcceptedWorkEventId) : PersistedAcceptance where
  challengeId := row.challengeId
  acknowledgement := {
    eventId
    workSessionId := row.sessionId
    receivedAt := row.receivedAt
    networkTargetOutcome := row.networkTargetOutcome
    disposition := row.disposition
    maybeCreditedWork := row.creditedWork
    verifiedProgress := row.verifiedProgress
    workRequirement := row.workRequirement
    issuanceIntentCreated := row.issuanceIntentCreated }

/-- The columns a delivery must repeat to be a replay of the row. -/
def EventRow.canonicalMatches (row : EventRow) (event : AcceptedWorkEvent) : Bool :=
  row.sessionId == event.workSessionId && row.assignedTarget == event.assignedTarget &&
    row.receivedAt == event.receivedAt && row.shareFingerprint == event.shareFingerprint &&
    row.networkTargetOutcome == event.networkTargetOutcome

/-- `persisted_acceptance`, with `refused_replay` applied. -/
def persistedAcceptance (row : EventRow) (event : AcceptedWorkEvent) :
    Except AuthorityPersistenceError PersistedAcceptance :=
  if !row.canonicalMatches event then .error (.workRefused .conflictingEventReplay)
  else .ok (row.acceptance event.eventId)

/-- The row a first delivery leaves. -/
def eventRow (event : AcceptedWorkEvent) (challengeId : ChallengeId)
    (workRequirement : CreditedWork) (transition : AcceptedWorkTransition) : EventRow where
  challengeId := challengeId
  sessionId := event.workSessionId
  assignedTarget := event.assignedTarget
  receivedAt := event.receivedAt
  shareFingerprint := event.shareFingerprint
  networkTargetOutcome := event.networkTargetOutcome
  disposition := transition.disposition
  creditedWork := transition.maybeCreditedWork
  verifiedProgress := transition.verifiedProgress
  workRequirement := workRequirement
  issuanceIntentCreated := transition.issuanceIntentCreated

/-- `GATE_PASS_JWS_ALGORITHM`. -/
def gatePassJwsAlgorithm : String := "Ed25519"

/-- The intent a satisfied challenge gets; its deadline is the challenge's expiry. -/
def pendingIntent (challenge : ChallengeRow) (passUuid : String) : IntentRow where
  algorithm := gatePassJwsAlgorithm
  claimsTemplate := ⟨challenge.gatePassClaimsSeed, "pass_" ++ passUuid⟩
  signingDeadlineUnixSeconds := challenge.expiresAtUnixSeconds
  status := .pending
  signingLeaseOwner := none
  signingLeaseExpiresAtUnixSeconds := none
  authorityKid := none
  gatePass := none
  issuedAtUnixSeconds := none
  expiresAtUnixSeconds := none

namespace AuthorityDatabase

/-- `observe_session_lease`, before it writes what it observed. -/
def observeSessionLease (session : SessionRow) (leaseId : String) (clock : WorkerClock) :
    Except AuthorityPersistenceError LeaseObservation :=
  match applySessionCommand session.lifecycleState .observeLease with
  | .error error => .error (mapLeaseError error)
  | .ok _ =>
    -- Only the start of the lease bounds a late reading from below.
    match leaseColumns session session.leaseStartedAtMonotonicMilliseconds with
    | .error error => .error error
    | .ok (persistedLeaseId, continuityId, leaseStartedAt, expiresAt) =>
        (observeWorkLease {
          state := session.lifecycleState
          expectedLeaseId := persistedLeaseId
          expectedContinuityId := continuityId
          lastMonotonicMilliseconds := leaseStartedAt
          expiresAtMonotonicMilliseconds := expiresAt
          presentedLeaseId := leaseId
          clock }).mapError mapLeaseError

/-- `update_progress`. -/
def updateProgress (db : AuthorityDatabase) (challengeId : ChallengeId)
    (verifiedProgress : VerifiedProgress) (satisfied : Bool) (changedAt : ℕ) : AuthorityDatabase :=
  let settled := match db.intents.lookup challengeId with
    | none => false
    | some intent => intent.status == .issued || intent.status == .failed
  { db with challenges := db.challenges.updateRow challengeId fun row => { row with
      verifiedProgress := verifiedProgress
      satisfied := satisfied
      lifecycleState := if satisfied then .satisfied else row.lifecycleState
      lifecycleChangedAtUnixSeconds :=
        if satisfied then some changedAt else row.lifecycleChangedAtUnixSeconds
      terminalAtUnixSeconds :=
        if satisfied && !settled then none else row.terminalAtUnixSeconds } }

/-- `insert_issuance_intent`, with the constraints that could refuse it. -/
def insertIssuanceIntent (db : AuthorityDatabase) (challengeId : ChallengeId)
    (challenge : ChallengeRow) (availableAt : ℕ) (passUuid : String) :
    Except AuthorityPersistenceError AuthorityDatabase :=
  let intent := pendingIntent challenge passUuid
  if challengeId ∈ db.intents || challengeId ∈ db.outbox || db.intents.entries.any fun entry =>
      entry.2.claimsTemplate.passId == intent.claimsTemplate.passId then .error .database
  else .ok { db with
    intents := db.intents.insert challengeId intent
    outbox := db.outbox.insert challengeId ⟨.pending, availableAt⟩ }

/-- The writes of an accepted event, from its fingerprint to its row. -/
def recordAcceptance (db : AuthorityDatabase) (event : AcceptedWorkEvent)
    (challengeId : ChallengeId) (challenge : ChallengeRow) (transition : AcceptedWorkTransition)
    (passUuid : String) : Except AuthorityPersistenceError AuthorityDatabase := do
  let receivedAt ← unixSecondsToI64 event.receivedAt.unixSeconds
  let fingerprinted : AuthorityDatabase := { db with
    shareFingerprints :=
      if event.shareFingerprint ∈ db.shareFingerprints then db.shareFingerprints
      else db.shareFingerprints.insert event.shareFingerprint challengeId }
  let progressed := fingerprinted.updateProgress challengeId transition.verifiedProgress
    transition.satisfied receivedAt
  let intended ←
    if transition.issuanceIntentCreated then
      (progressed.insertIssuanceIntent challengeId challenge receivedAt passUuid).map fun written =>
        written.stopSessions challengeId .challengeSatisfied [.ready, .leased]
    else .ok progressed
  return { intended with
    events := intended.events.insert event.eventId
      (eventRow event challengeId challenge.workRequirement transition) }

/-- `accept_work`.  The pass identity the transaction draws is an argument. -/
def acceptWork (db : AuthorityDatabase) (event : AcceptedWorkEvent) (leaseId : String)
    (clock : WorkerClock) (now : ℕ) (passUuid : String) : TransactionResult PersistedAcceptance :=
  match db.events.lookup event.eventId with
  | some row =>
    match persistedAcceptance row event with
    | .error error => rollback db error
    | .ok replay => commit db replay
  | none =>
    match db.sessions.lookup event.workSessionId with
    | none => rollback db (.workRefused .unknownWorkLease)
    | some session =>
      let challengeId := session.challengeId
      match db.challenges.lookup challengeId with
      | none => rollback db .database
      | some challenge =>
        match applyChallengeCommand challenge.lifecycleState .acceptWork with
        | .error _ => rollback db (challengeRefusal challenge.lifecycleState)
        | .ok _ =>
          if challenge.satisfied ≠ challenge.verifiedProgress.meets challenge.workRequirement then
            rollback db .invalidPersistedData
          -- Late delivery never completes a challenge: the Authority's clock decides too.
          else if max event.receivedAt.unixSeconds now ≥ challenge.expiresAtUnixSeconds then
            commitError ((db.setLifecycle challengeId .expired challenge.expiresAtUnixSeconds
              fun _ => some challenge.expiresAtUnixSeconds).stopSessions challengeId
                .challengeExpired [.ready, .leased]) (.workRefused .challengeDeadlinePassed)
          else match observeSessionLease session leaseId clock with
            | .error error => rollback db error
            | .ok (.stop reason) =>
                commitError (db.stopOneSession event.workSessionId reason)
                  (stoppedWorkRefusal reason)
            | .ok .accepted =>
              match acceptedWorkTransition {
                  progressBefore := challenge.verifiedProgress
                  workRequirement := challenge.workRequirement
                  creditedWork := event.assignedTarget.creditedWork
                  fingerprintInserted := decide (event.shareFingerprint ∉ db.shareFingerprints) }
                with
              | .error error => rollback db (.invalidProgress error)
              | .ok transition =>
                if transition.issuanceIntentCreated = true ∧
                    (applyChallengeCommand challenge.lifecycleState .satisfy).toOption = none then
                  rollback db .forbiddenLifecycleTransition
                else match db.recordAcceptance event challengeId challenge transition passUuid with
                  | .error error => rollback db error
                  | .ok written =>
                      commit written ((eventRow event challengeId challenge.workRequirement
                        transition).acceptance event.eventId)

/-! ## What accepting can do -/

/-- An event recorded for the first time. -/
structure AcceptsWork (db : AuthorityDatabase) (event : AcceptedWorkEvent) (now : ℕ)
    (written : AuthorityDatabase) (challengeId : ChallengeId) (challenge : ChallengeRow)
    (transition : AcceptedWorkTransition) : Prop where
  fresh : event.eventId ∉ db.events
  challenge_eq : db.challenges.lookup challengeId = some challenge
  active : challenge.lifecycleState = .active
  flag : challenge.satisfied = challenge.verifiedProgress.meets challenge.workRequirement
  timely : max event.receivedAt.unixSeconds now < challenge.expiresAtUnixSeconds
  spec : TransitionSpec challenge.verifiedProgress.value.toNat
    challenge.workRequirement.value.toNat event.assignedTarget.creditedWork.value.toNat
    (decide (event.shareFingerprint ∉ db.shareFingerprints)) transition
  fingerprints_eq : written.shareFingerprints =
    if event.shareFingerprint ∈ db.shareFingerprints then db.shareFingerprints
    else db.shareFingerprints.insert event.shareFingerprint challengeId
  challenges_eq : written.challenges = (db.updateProgress challengeId transition.verifiedProgress
    transition.satisfied event.receivedAt.unixSeconds).challenges
  intents_eq : (transition.issuanceIntentCreated = true ∧ challengeId ∉ db.intents ∧
      ∃ passUuid, written.intents = db.intents.insert challengeId
        (pendingIntent challenge passUuid)) ∨
    (transition.issuanceIntentCreated = false ∧ written.intents = db.intents)
  events_eq : written.events = db.events.insert event.eventId
    (eventRow event challengeId challenge.workRequirement transition)

theorem insertIssuanceIntent_eq_ok {db written : AuthorityDatabase} {challengeId : ChallengeId}
    {challenge : ChallengeRow} {availableAt : ℕ} {passUuid : String}
    (h : db.insertIssuanceIntent challengeId challenge availableAt passUuid = .ok written) :
    challengeId ∉ db.intents ∧ written = { db with
      intents := db.intents.insert challengeId (pendingIntent challenge passUuid)
      outbox := db.outbox.insert challengeId ⟨.pending, availableAt⟩ } := by
  simp only [insertIssuanceIntent] at h
  split at h
  · cases h
  · next hfree =>
      cases h
      exact ⟨fun hmem => hfree (by simp [hmem]), rfl⟩

/-- What the writes of an accepted event leave in the tables of the accounting. -/
theorem recordAcceptance_spec {db written : AuthorityDatabase} {event : AcceptedWorkEvent}
    {challengeId : ChallengeId} {challenge : ChallengeRow} {transition : AcceptedWorkTransition}
    {passUuid : String}
    (h : db.recordAcceptance event challengeId challenge transition passUuid = .ok written) :
    written.shareFingerprints = (if event.shareFingerprint ∈ db.shareFingerprints then
      db.shareFingerprints else db.shareFingerprints.insert event.shareFingerprint challengeId) ∧
    written.challenges = (db.updateProgress challengeId transition.verifiedProgress
      transition.satisfied event.receivedAt.unixSeconds).challenges ∧
    ((transition.issuanceIntentCreated = true ∧ challengeId ∉ db.intents ∧
      ∃ passUuid, written.intents = db.intents.insert challengeId
        (pendingIntent challenge passUuid)) ∨
      (transition.issuanceIntentCreated = false ∧ written.intents = db.intents)) ∧
    written.events = db.events.insert event.eventId
      (eventRow event challengeId challenge.workRequirement transition) := by
  simp only [recordAcceptance, bind, Except.bind, pure, Except.pure] at h
  split at h
  · cases h
  · next receivedAt hreceived =>
      obtain ⟨rfl, -⟩ := unixSecondsToI64_eq_ok hreceived
      cases hintent : transition.issuanceIntentCreated with
      | false =>
          simp only [hintent, Bool.false_eq_true, ↓reduceIte, Except.ok.injEq] at h
          subst h
          exact ⟨rfl, rfl, .inr ⟨rfl, rfl⟩, rfl⟩
      | true =>
          simp only [hintent, ↓reduceIte, Except.map] at h
          split at h
          · cases h
          · next intended hintended =>
              cases h
              split at hintended
              · cases hintended
              · next inserted hinserted =>
                  cases hintended
                  obtain ⟨habsent, rfl⟩ := insertIssuanceIntent_eq_ok hinserted
                  exact ⟨rfl, rfl, .inl ⟨rfl, habsent, passUuid, rfl⟩, rfl⟩

/-- Everything `accept_work` can do. -/
theorem acceptWork_cases {db written : AuthorityDatabase} {event : AcceptedWorkEvent}
    {leaseId : String} {clock : WorkerClock} {now : ℕ} {passUuid : String}
    {reply : Except AuthorityPersistenceError PersistedAcceptance}
    (h : db.acceptWork event leaseId clock now passUuid = (written, reply)) :
    (written = db ∧ ∃ row, db.events.lookup event.eventId = some row ∧
      row.canonicalMatches event = true ∧ reply = .ok (row.acceptance event.eventId)) ∨
    (written = db ∧ ∃ error, reply = .error error) ∨
    (∃ challengeId challenge, db.challenges.lookup challengeId = some challenge ∧
      challenge.lifecycleState = .active ∧
      challenge.expiresAtUnixSeconds ≤ max event.receivedAt.unixSeconds now ∧
      written = (db.setLifecycle challengeId .expired challenge.expiresAtUnixSeconds
        fun _ => some challenge.expiresAtUnixSeconds).stopSessions challengeId
          .challengeExpired [.ready, .leased] ∧
      ∃ error, reply = .error error) ∨
    (∃ reason error, written = db.stopOneSession event.workSessionId reason ∧
      reply = .error error) ∨
    (∃ challengeId challenge transition,
      AcceptsWork db event now written challengeId challenge transition ∧
      reply = .ok ((eventRow event challengeId challenge.workRequirement transition).acceptance
        event.eventId)) := by
  simp only [acceptWork] at h
  split at h
  · next row hrow =>
      simp only [persistedAcceptance] at h
      split at h
      · cases h
        exact .inr (.inl ⟨rfl, _, rfl⟩)
      · next replay hreplay =>
          cases h
          split at hreplay
          · cases hreplay
          · next hmatches =>
              cases hreplay
              exact .inl ⟨rfl, row, hrow, by simpa using hmatches, rfl⟩
  · next hnone =>
      split at h
      · cases h
        exact .inr (.inl ⟨rfl, _, rfl⟩)
      · next session hsession =>
          split at h
          · cases h
            exact .inr (.inl ⟨rfl, _, rfl⟩)
          · next challenge hchallenge =>
              split at h
              · cases h
                exact .inr (.inl ⟨rfl, _, rfl⟩)
              · next target hactive =>
                  have hstate := applyChallengeCommand_acceptWork hactive
                  split at h
                  · cases h
                    exact .inr (.inl ⟨rfl, _, rfl⟩)
                  · next hflag =>
                      rw [not_not] at hflag
                      split at h
                      · next hlate =>
                          cases h
                          exact .inr (.inr (.inl ⟨_, challenge, hchallenge, hstate, hlate, rfl, _,
                            rfl⟩))
                      · next htimely =>
                          split at h
                          · cases h
                            exact .inr (.inl ⟨rfl, _, rfl⟩)
                          · cases h
                            exact .inr (.inr (.inr (.inl ⟨_, _, rfl, rfl⟩)))
                          · split at h
                            · cases h
                              exact .inr (.inl ⟨rfl, _, rfl⟩)
                            · next transition htransition =>
                                split at h
                                · cases h
                                  exact .inr (.inl ⟨rfl, _, rfl⟩)
                                · split at h
                                  · cases h
                                    exact .inr (.inl ⟨rfl, _, rfl⟩)
                                  · next recorded hrecorded =>
                                      cases h
                                      obtain ⟨hfingerprints, hchallenges, hintents, hevents⟩ :=
                                        recordAcceptance_spec hrecorded
                                      exact .inr (.inr (.inr (.inr ⟨_, challenge, transition,
                                        ⟨AList.lookup_eq_none.mp hnone, hchallenge, hstate, hflag,
                                          not_le.mp htimely,
                                          acceptedWorkTransition_spec htransition,
                                          hfingerprints, hchallenges, hintents, hevents⟩, rfl⟩)))

end AuthorityDatabase

end WorkGate
