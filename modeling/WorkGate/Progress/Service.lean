/-
# The progress service (src/progress/service.rs)

One service holds the projections of all challenges, the sessions bound to them,
every accepted event and every share fingerprint ever seen.  Each call runs under
one lock, so the service is a machine that answers one call at a time.

The maps are tied together by `ServiceInvariant`: the recorded events, newest
first, form a valid journal whose accounts are the challenges, and each running
total is the balance of its account.
-/

import WorkGate.Library.Machine
import WorkGate.Library.Journal
import WorkGate.Progress.Projection

namespace WorkGate

open WorkGate.Library

structure GlobalEventRecord where
  challengeId : ChallengeId
  acceptedEvent : AcceptedEventRecord
  deriving DecidableEq

/-- Non-authoritative activity status kept separate from Verified Progress. -/
inductive ActivityEstimateStatus
  | unavailable
  deriving DecidableEq, Repr

/-- Public lifecycle payload sent through Server-Sent Events. -/
structure ProgressUpdate where
  challengeId : ChallengeId
  verifiedProgress : VerifiedProgress
  workRequirement : CreditedWork
  satisfied : Bool
  activityEstimate : ActivityEstimateStatus
  deriving DecidableEq

/-- `ChallengeProgress::update`. -/
def ChallengeProgress.update (progress : ChallengeProgress) (challengeId : ChallengeId) :
    ProgressUpdate where
  challengeId := challengeId
  verifiedProgress := progress.verifiedProgress
  workRequirement := progress.workRequirement
  satisfied := progress.isSatisfied
  activityEstimate := .unavailable

/-- `ProgressServiceState`.  A challenge's broadcast channel holds no state of its own:
the update a report sends through it is part of the reply. -/
structure ProgressServiceState where
  challenges : Rows ChallengeId ChallengeProgress
  workSessions : Rows WorkSessionId ChallengeId
  events : Rows AcceptedWorkEventId GlobalEventRecord
  shareFingerprints : Rows ShareFingerprint ChallengeId

namespace ProgressServiceState

/-- The service as `Default` builds it. -/
def empty : ProgressServiceState := ⟨∅, ∅, ∅, ∅⟩

/-- Registers an immutable issued challenge before accepting Work Sessions. -/
def registerChallenge (state : ProgressServiceState) (challengeId : ChallengeId)
    (workRequirement : CreditedWork) : Except ProgressError ProgressServiceState :=
  if challengeId ∈ state.challenges then .error .duplicateChallenge
  else .ok { state with
    challenges := state.challenges.insert challengeId (ChallengeProgress.new workRequirement) }

/-- Binds one opaque Work Session to exactly one registered challenge. -/
def registerSession (state : ProgressServiceState) (challengeId : ChallengeId)
    (sessionId : WorkSessionId) : Except ProgressError ProgressServiceState :=
  if sessionId ∈ state.workSessions then .error .duplicateWorkSession
  else match state.challenges.lookup challengeId with
    | none => .error .unknownChallenge
    | some progress => do
        let registered ← progress.registerSession sessionId
        return { state with
          challenges := state.challenges.updateRow challengeId fun _ => registered
          workSessions := state.workSessions.insert sessionId challengeId }

/-- What a report answers: the acknowledgement, and the update sent to subscribers
when the progress changed. -/
structure Reported where
  acknowledgement : AcceptedWorkAcknowledgement
  maybeUpdate : Option ProgressUpdate
  deriving DecidableEq

/-- Applies one event and returns its stable replay acknowledgement. -/
def report (state : ProgressServiceState) (event : AcceptedWorkEvent) :
    Except ProgressError (ProgressServiceState × Reported) :=
  match state.workSessions.lookup event.workSessionId with
  | none => .error .unknownWorkSession
  | some challengeId =>
    match state.events.lookup event.eventId with
    | some record =>
        if record.challengeId ≠ challengeId then .error .conflictingEventReplay
        else do
          let acknowledgement ← record.acceptedEvent.replayAcknowledgement event
          return (state, ⟨acknowledgement, none⟩)
    | none =>
        let globallyDuplicateShare := decide (event.shareFingerprint ∈ state.shareFingerprints)
        match state.challenges.lookup challengeId with
        | none => .error .unknownChallenge
        | some progress => do
            let (accepted, acknowledgement) ←
              progress.acceptWithGlobalDuplicate event globallyDuplicateShare
            let maybeUpdate :=
              if accepted.verifiedProgress ≠ progress.verifiedProgress then
                some (accepted.update challengeId)
              else none
            return ({ state with
              challenges := state.challenges.updateRow challengeId fun _ => accepted
              shareFingerprints :=
                if event.shareFingerprint ∈ state.shareFingerprints then state.shareFingerprints
                else state.shareFingerprints.insert event.shareFingerprint challengeId
              events := state.events.insert event.eventId ⟨challengeId, ⟨event, acknowledgement⟩⟩ },
              ⟨acknowledgement, maybeUpdate⟩)

end ProgressServiceState

/-- The calls of the service. -/
inductive ProgressCall
  | registerChallenge (challengeId : ChallengeId) (workRequirement : CreditedWork)
  | registerSession (challengeId : ChallengeId) (sessionId : WorkSessionId)
  | report (event : AcceptedWorkEvent)

/-- What a call is answered. -/
inductive ProgressReply
  | registered
  | acknowledged (reported : ProgressServiceState.Reported)
  | refused (error : ProgressError)
  deriving DecidableEq

/-- One call under the lock.  A refused call leaves the state it found. -/
def progressStep (state : ProgressServiceState) :
    ProgressCall → ProgressServiceState × ProgressReply
  | .registerChallenge challengeId workRequirement =>
      match state.registerChallenge challengeId workRequirement with
      | .ok next => (next, .registered)
      | .error error => (state, .refused error)
  | .registerSession challengeId sessionId =>
      match state.registerSession challengeId sessionId with
      | .ok next => (next, .registered)
      | .error error => (state, .refused error)
  | .report event =>
      match state.report event with
      | .ok (next, reported) => (next, .acknowledged reported)
      | .error error => (state, .refused error)

/-- `ProgressService`: any call may come at any time. -/
def progressService : Machine ProgressServiceState ProgressCall ProgressReply where
  init := ProgressServiceState.empty
  admits := fun _ _ _ => True
  step := progressStep

namespace ProgressServiceState

variable {state next : ProgressServiceState} {event : AcceptedWorkEvent} {reported : Reported}

/-- A report answered with a recorded acknowledgement. -/
structure Replays (state : ProgressServiceState) (event : AcceptedWorkEvent)
    (next : ProgressServiceState) (reported : Reported) : Prop where
  record : ∃ challengeId record,
    state.events.lookup event.eventId = some ⟨challengeId, record⟩ ∧
      reported.acknowledgement = record.acknowledgement
  unchanged : next = state

/-- A report of an event never seen before. -/
structure Records (state : ProgressServiceState) (event : AcceptedWorkEvent)
    (challengeId : ChallengeId) (progress accepted : ChallengeProgress)
    (next : ProgressServiceState) (acknowledgement : AcceptedWorkAcknowledgement) : Prop where
  fresh : event.eventId ∉ state.events
  session : state.workSessions.lookup event.workSessionId = some challengeId
  challenge : state.challenges.lookup challengeId = some progress
  accepts : progress.acceptWithGlobalDuplicate event
    (decide (event.shareFingerprint ∈ state.shareFingerprints)) = .ok (accepted, acknowledgement)
  challenges_eq : next.challenges = state.challenges.updateRow challengeId fun _ => accepted
  workSessions_eq : next.workSessions = state.workSessions
  fingerprints_eq : next.shareFingerprints =
    if event.shareFingerprint ∈ state.shareFingerprints then state.shareFingerprints
    else state.shareFingerprints.insert event.shareFingerprint challengeId
  events_eq : next.events =
    state.events.insert event.eventId ⟨challengeId, ⟨event, acknowledgement⟩⟩

/-- Everything a successful report can do. -/
theorem report_cases (h : state.report event = .ok (next, reported)) :
    state.Replays event next reported ∨
      ∃ challengeId progress accepted,
        state.Records event challengeId progress accepted next reported.acknowledgement := by
  simp only [report] at h
  split at h
  · cases h
  · next challengeId hsession =>
      split at h
      · next record hrecord =>
          split at h
          · cases h
          · next hsame =>
              rw [not_not] at hsame
              simp only [AcceptedEventRecord.replayAcknowledgement, bind, Except.bind, pure,
                Except.pure] at h
              split at h
              · cases h
              · next acknowledgement hreplay =>
                  cases h
                  split at hreplay
                  · cases hreplay
                  · cases hreplay
                    exact .inl ⟨⟨record.challengeId, record.acceptedEvent, hrecord, rfl⟩, rfl⟩
      · next hnone =>
          split at h
          · cases h
          · next progress hprogress =>
              simp only [bind, Except.bind, pure, Except.pure] at h
              split at h
              · cases h
              · next result haccept =>
                  obtain ⟨accepted, acknowledgement⟩ := result
                  cases h
                  exact .inr ⟨challengeId, progress, accepted,
                    AList.lookup_eq_none.mp hnone, hsession, hprogress, haccept, rfl, rfl, rfl, rfl⟩

/-- A registered challenge starts an empty projection of its own. -/
theorem registerChallenge_cases {challengeId : ChallengeId} {workRequirement : CreditedWork}
    (h : state.registerChallenge challengeId workRequirement = .ok next) :
    challengeId ∉ state.challenges ∧
      next = { state with
        challenges :=
          state.challenges.insert challengeId (ChallengeProgress.new workRequirement) } := by
  simp only [registerChallenge] at h
  split at h
  · cases h
  · next hfresh =>
      cases h
      exact ⟨hfresh, rfl⟩

/-- A registered session is added to its projection and bound to it. -/
theorem registerSession_cases {challengeId : ChallengeId} {sessionId : WorkSessionId}
    (h : state.registerSession challengeId sessionId = .ok next) :
    ∃ progress, state.challenges.lookup challengeId = some progress ∧
      next = { state with
        challenges := state.challenges.updateRow challengeId fun _ =>
          { progress with workSessions := insert sessionId progress.workSessions }
        workSessions := state.workSessions.insert sessionId challengeId } := by
  simp only [registerSession] at h
  split at h
  · cases h
  · split at h
    · cases h
    · next progress hprogress =>
        simp only [ChallengeProgress.registerSession, bind, Except.bind, pure, Except.pure] at h
        split at h
        · cases h
        · next registered hregistered =>
            split at hregistered
            · cases hregistered
            · cases hregistered
              cases h
              exact ⟨progress, hprogress, rfl⟩

end ProgressServiceState

end WorkGate
