/-
# Reports, statement by statement (src/progress/service.rs, src/progress.rs)

`report` writes to the projection of one challenge and to two global maps, at different
points around arithmetic that may fail, and a failure does not undo what was written.
Here the calls are followed as they write.  That nothing is written before the last
failure, so that `progressStep` describes them, is a theorem; from there follows what a
repeated delivery is answered, in every later state.
-/

import WorkGate.Library.Attempts
import WorkGate.Progress.Accounting

namespace WorkGate

open WorkGate.Library

namespace ChallengeProgress

/-- `accept_with_global_duplicate` on the projection it is given. -/
def acceptInPlace (event : AcceptedWorkEvent) (globallyDuplicateShare : Bool) :
    Attempt ChallengeProgress ProgressError AcceptedWorkAcknowledgement := do
  let progress ← get
  match progress.eventRecords.lookup event.eventId with
  | some record => Attempt.ofExcept (record.replayAcknowledgement event)
  | none =>
      Attempt.ensure (decide (event.workSessionId ∈ progress.workSessions)) .unknownWorkSession
      let duplicateShare :=
        globallyDuplicateShare || decide (event.shareFingerprint ∈ progress.shareFingerprints)
      let transition ← Attempt.ofExcept (acceptedWorkTransition {
        progressBefore := progress.verifiedProgress
        workRequirement := progress.workRequirement
        creditedWork := event.assignedTarget.creditedWork
        fingerprintInserted := !duplicateShare })
      modify fun progress => { progress with verifiedProgress := transition.verifiedProgress }
      modify fun progress => { progress with
        shareFingerprints := insert event.shareFingerprint progress.shareFingerprints }
      let updated ← get
      let acknowledgement : AcceptedWorkAcknowledgement := {
        eventId := event.eventId
        workSessionId := event.workSessionId
        receivedAt := event.receivedAt
        networkTargetOutcome := event.networkTargetOutcome
        disposition := transition.disposition
        maybeCreditedWork := transition.maybeCreditedWork
        verifiedProgress := updated.verifiedProgress
        workRequirement := updated.workRequirement
        issuanceIntentCreated := transition.issuanceIntentCreated }
      modify fun progress => { progress with
        eventRecords := progress.eventRecords.insert event.eventId ⟨event, acknowledgement⟩ }
      return acknowledgement

/-- The projection is written only once nothing can fail any more. -/
theorem run_acceptInPlace (progress : ChallengeProgress) (event : AcceptedWorkEvent)
    (duplicate : Bool) : (acceptInPlace event duplicate).run progress =
      match progress.acceptWithGlobalDuplicate event duplicate with
      | .ok (accepted, acknowledgement) => (.ok acknowledgement, accepted)
      | .error error => (.error error, progress) := by
  simp only [acceptInPlace, Attempt.run_bind, Attempt.run_get, acceptWithGlobalDuplicate]
  cases progress.eventRecords.lookup event.eventId with
  | some record =>
      simp only [Attempt.run_ofExcept, bind, Except.bind, pure, Except.pure]
      cases record.replayAcknowledgement event with
      | ok acknowledgement => rfl
      | error error => rfl
  | none =>
      by_cases hsession : event.workSessionId ∈ progress.workSessions
      · simp only [hsession, decide_true, ↓reduceIte, not_true_eq_false, bind, Except.bind]
        cases acceptedWorkTransition {
            progressBefore := progress.verifiedProgress
            workRequirement := progress.workRequirement
            creditedWork := event.assignedTarget.creditedWork
            fingerprintInserted :=
              !(duplicate || decide (event.shareFingerprint ∈ progress.shareFingerprints)) } with
        | ok transition => rfl
        | error error => rfl
      · simp only [Attempt.run_bind, Attempt.run_ensure, hsession, decide_false,
          Bool.false_eq_true, ↓reduceIte, not_false_eq_true]

end ChallengeProgress

namespace ProgressServiceState

/-- `report` under the lock. -/
def reportInPlace (event : AcceptedWorkEvent) :
    Attempt ProgressServiceState ProgressError Reported := do
  let state ← get
  match state.workSessions.lookup event.workSessionId with
  | none => throw .unknownWorkSession
  | some challengeId =>
    match state.events.lookup event.eventId with
    | some record => do
        Attempt.ensure (decide (record.challengeId = challengeId)) .conflictingEventReplay
        let acknowledgement ← Attempt.ofExcept (record.acceptedEvent.replayAcknowledgement event)
        return ⟨acknowledgement, none⟩
    | none =>
        let globallyDuplicateShare := decide (event.shareFingerprint ∈ state.shareFingerprints)
        match state.challenges.lookup challengeId with
        | none => throw .unknownChallenge
        | some progress => do
            -- The channel is borrowed from the map, so the call writes into the map.
            let (acknowledgement, maybeUpdate) ← Attempt.within progress
              (fun left state => { state with
                challenges := state.challenges.updateRow challengeId fun _ => left })
              (do
                let acknowledgement ←
                  ChallengeProgress.acceptInPlace event globallyDuplicateShare
                let accepted ← get
                let maybeUpdate :=
                  if accepted.verifiedProgress ≠ progress.verifiedProgress then
                    some (accepted.update challengeId)
                  else none
                return (acknowledgement, maybeUpdate))
            modify fun state => { state with
              shareFingerprints :=
                if event.shareFingerprint ∈ state.shareFingerprints then state.shareFingerprints
                else state.shareFingerprints.insert event.shareFingerprint challengeId }
            modify fun state => { state with
              events := state.events.insert event.eventId ⟨challengeId, ⟨event, acknowledgement⟩⟩ }
            return ⟨acknowledgement, maybeUpdate⟩

/-- A report that fails has written nothing, and one that succeeds has written what
`report` computes. -/
theorem run_reportInPlace (state : ProgressServiceState) (event : AcceptedWorkEvent) :
    (reportInPlace event).run state =
      match state.report event with
      | .ok (next, reported) => (.ok reported, next)
      | .error error => (.error error, state) := by
  simp only [reportInPlace, Attempt.run_bind, Attempt.run_get, report]
  cases state.workSessions.lookup event.workSessionId with
  | none => rfl
  | some challengeId =>
      cases state.events.lookup event.eventId with
      | some record =>
          by_cases hsame : record.challengeId = challengeId
          · simp only [hsame, decide_true, ↓reduceIte, ne_eq, not_true_eq_false, bind, Except.bind]
            cases record.acceptedEvent.replayAcknowledgement event with
            | ok acknowledgement => rfl
            | error error => rfl
          · simp only [Attempt.run_bind, Attempt.run_ensure, hsame, decide_false,
              Bool.false_eq_true, ↓reduceIte, ne_eq, not_false_eq_true]
      | none =>
          cases hprogress : state.challenges.lookup challengeId with
          | none => simp only [hprogress]; rfl
          | some progress =>
              simp only [hprogress, Attempt.run_bind, Attempt.run_within,
                ChallengeProgress.run_acceptInPlace]
              cases progress.acceptWithGlobalDuplicate event
                  (decide (event.shareFingerprint ∈ state.shareFingerprints)) with
              | ok result => rfl
              | error error =>
                  have hrow := Rows.updateRow_eq_self (f := fun _ => progress) hprogress rfl
                  simp only [hrow]
                  rfl

/-! ## Replays -/

/-- Every recorded event was answered by its acknowledgement, under a session that is still
bound to the same challenge. -/
def Remembered (history : List (ProgressCall × ProgressReply)) (state : ProgressServiceState) :
    Prop :=
  ∀ eventId record, state.events.lookup eventId = some record →
    state.workSessions.lookup record.acceptedEvent.event.workSessionId =
        some record.challengeId ∧
      ∃ maybeUpdate, (ProgressCall.report record.acceptedEvent.event,
        ProgressReply.acknowledged ⟨record.acceptedEvent.acknowledgement, maybeUpdate⟩) ∈ history

/-- Records are never changed or dropped. -/
def EventsKept (earlier later : ProgressServiceState) : Prop :=
  ∀ eventId record, earlier.events.lookup eventId = some record →
    later.events.lookup eventId = some record

/-- The same event as far as the Authority relies on it: all but the Worker's own report. -/
def SameAuthoritatively (event other : AcceptedWorkEvent) : Prop :=
  { event with maybeWorkerReport := none } = { other with maybeWorkerReport := none }

section Steps

variable {history : List (ProgressCall × ProgressReply)} {state next : ProgressServiceState}

theorem not_mem_of_registerSession {challengeId : ChallengeId} {sessionId : WorkSessionId}
    (h : state.registerSession challengeId sessionId = .ok next) :
    sessionId ∉ state.workSessions := by
  intro hmem
  simp [registerSession, hmem] at h

/-- Calls that touch neither the records nor a bound session. -/
theorem Remembered.silent (hremembered : Remembered history state)
    (hevents : next.events = state.events)
    (hsessions : ∀ sessionId challengeId, state.workSessions.lookup sessionId = some challengeId →
      next.workSessions.lookup sessionId = some challengeId)
    (entry : ProgressCall × ProgressReply) : Remembered (entry :: history) next := by
  intro eventId record hrecord
  rw [hevents] at hrecord
  obtain ⟨hsession, maybeUpdate, hmem⟩ := hremembered eventId record hrecord
  exact ⟨hsessions _ _ hsession, maybeUpdate, List.mem_cons_of_mem _ hmem⟩

theorem Remembered.records (hremembered : Remembered history state) {event : AcceptedWorkEvent}
    {challengeId : ChallengeId} {progress accepted : ChallengeProgress} {reported : Reported}
    (h : state.Records event challengeId progress accepted next reported.acknowledgement) :
    Remembered ((.report event, .acknowledged reported) :: history) next := by
  intro eventId record hrecord
  rw [h.events_eq, Rows.lookup_insert_eq] at hrecord
  rw [h.workSessions_eq]
  split at hrecord
  · cases hrecord
    exact ⟨h.session, reported.maybeUpdate, List.mem_cons_self⟩
  · obtain ⟨hsession, maybeUpdate, hmem⟩ := hremembered eventId record hrecord
    exact ⟨hsession, maybeUpdate, List.mem_cons_of_mem _ hmem⟩

theorem Remembered.step (hremembered : Remembered history state) (call : ProgressCall) :
    Remembered ((call, (progressStep state call).2) :: history) (progressStep state call).1 := by
  cases call with
  | registerChallenge challengeId workRequirement =>
      simp only [progressStep]
      split
      · next reached hreached =>
          obtain ⟨-, rfl⟩ := registerChallenge_cases hreached
          exact hremembered.silent rfl (fun _ _ h => h) _
      · exact hremembered.silent rfl (fun _ _ h => h) _
  | registerSession challengeId sessionId =>
      simp only [progressStep]
      split
      · next reached hreached =>
          have hfresh := not_mem_of_registerSession hreached
          obtain ⟨progress, -, rfl⟩ := registerSession_cases hreached
          apply Remembered.silent hremembered
          · rfl
          · intro bound account hbound
            rw [AList.lookup_insert_ne, hbound]
            rintro rfl
            exact hfresh (Rows.mem_of_lookup hbound)
      · exact hremembered.silent rfl (fun _ _ h => h) _
  | report event =>
      simp only [progressStep]
      split
      · next reached reported hreported =>
          rcases report_cases hreported with hreplay | ⟨challengeId, progress, accepted, hrecords⟩
          · rw [hreplay.unchanged]
            exact hremembered.silent rfl (fun _ _ h => h) _
          · exact hremembered.records hrecords
      · exact hremembered.silent rfl (fun _ _ h => h) _

theorem remembered_of_run (hrun : progressService.Run history state) : Remembered history state :=
  Machine.Run.invariant (P := Remembered)
    (by intro eventId record h; simp [progressService, empty] at h)
    (fun _ _ call _ hprior => hprior.step call) hrun

theorem eventsKept_step (state : ProgressServiceState) (call : ProgressCall) :
    EventsKept state (progressStep state call).1 := by
  intro eventId record hrecord
  cases call with
  | registerChallenge challengeId workRequirement =>
      simp only [progressStep]
      split
      · next reached hreached =>
          obtain ⟨-, rfl⟩ := registerChallenge_cases hreached
          exact hrecord
      · exact hrecord
  | registerSession challengeId sessionId =>
      simp only [progressStep]
      split
      · next reached hreached =>
          obtain ⟨progress, -, rfl⟩ := registerSession_cases hreached
          exact hrecord
      · exact hrecord
  | report event =>
      simp only [progressStep]
      split
      · next reached reported hreported =>
          rcases report_cases hreported with hreplay | ⟨challengeId, progress, accepted, hrecords⟩
          · rw [hreplay.unchanged]
            exact hrecord
          · rw [hrecords.events_eq, AList.lookup_insert_ne, hrecord]
            rintro rfl
            exact hrecords.fresh (Rows.mem_of_lookup hrecord)
      · exact hrecord

theorem eventsKept_of_continues {later : List (ProgressCall × ProgressReply)}
    {reached : ProgressServiceState}
    (hcontinues : progressService.Continues history state later reached) :
    EventsKept state reached := by
  refine Machine.Continues.preserves (P := fun _ s => EventsKept state s) ?_ hcontinues
    (fun _ _ h => h)
  intro h s call hadmits hkept eventId record hrecord
  exact eventsKept_step s call eventId record (hkept eventId record hrecord)

end Steps

theorem matchesAuthoritativeReplay_iff {event other : AcceptedWorkEvent} :
    event.matchesAuthoritativeReplay other = true ↔ SameAuthoritatively event other := by
  simp only [AcceptedWorkEvent.matchesAuthoritativeReplay, SameAuthoritatively, Bool.and_eq_true,
    beq_iff_eq, AcceptedWorkEvent.mk.injEq, and_assoc, and_true]

/-- The answer to a delivery of an event already recorded: the recorded acknowledgement for
the same event, an error for any other, and no change in either case. -/
theorem run_reportInPlace_of_recorded {history : List (ProgressCall × ProgressReply)}
    {state : ProgressServiceState} (hremembered : Remembered history state)
    {event : AcceptedWorkEvent} {record : GlobalEventRecord}
    (hrecord : state.events.lookup event.eventId = some record) :
    (SameAuthoritatively record.acceptedEvent.event event →
        (reportInPlace event).run state =
          (.ok ⟨record.acceptedEvent.acknowledgement, none⟩, state)) ∧
      (¬ SameAuthoritatively record.acceptedEvent.event event →
        ∃ error, (reportInPlace event).run state = (.error error, state)) := by
  obtain ⟨hbound, -⟩ := hremembered _ _ hrecord
  rw [← matchesAuthoritativeReplay_iff, run_reportInPlace, report, hrecord]
  constructor
  · intro hsame
    have hsession : record.acceptedEvent.event.workSessionId = event.workSessionId := by
      have heq := matchesAuthoritativeReplay_iff.mp hsame
      rw [SameAuthoritatively, AcceptedWorkEvent.mk.injEq] at heq
      exact heq.2.1
    rw [← hsession, hbound]
    simp [AcceptedEventRecord.replayAcknowledgement, hsame, bind, Except.bind, pure, Except.pure]
  · intro hdiffers
    cases state.workSessions.lookup event.workSessionId with
    | none => exact ⟨_, rfl⟩
    | some challengeId =>
        apply Exists.intro ProgressError.conflictingEventReplay
        by_cases hchallenge : record.challengeId = challengeId
        · simp [hchallenge, AcceptedEventRecord.replayAcknowledgement, hdiffers, bind, Except.bind]
        · simp [hchallenge]

end ProgressServiceState

/-- In every state a run of the service reaches, a report that fails has changed nothing; and
an event recorded there was answered by its acknowledgement, which every later delivery of
the same event is answered by again, while a delivery that differs in anything the Authority
relies on is refused, both without any change. -/
theorem report_atomic_and_replayed {history : List (ProgressCall × ProgressReply)}
    {state : ProgressServiceState} (hrun : progressService.Run history state) :
    (∀ event error left,
      (ProgressServiceState.reportInPlace event).run state = (.error error, left) →
        left = state) ∧
      ∀ eventId record, state.events.lookup eventId = some record →
        (∃ maybeUpdate, (ProgressCall.report record.acceptedEvent.event,
          ProgressReply.acknowledged ⟨record.acceptedEvent.acknowledgement, maybeUpdate⟩) ∈
            history) ∧
        ∀ later reached, progressService.Continues history state later reached →
          ∀ event : AcceptedWorkEvent, event.eventId = eventId →
            (ProgressServiceState.SameAuthoritatively record.acceptedEvent.event event →
              (ProgressServiceState.reportInPlace event).run reached =
                (.ok ⟨record.acceptedEvent.acknowledgement, none⟩, reached)) ∧
            (¬ ProgressServiceState.SameAuthoritatively record.acceptedEvent.event event →
              ∃ error, (ProgressServiceState.reportInPlace event).run reached =
                (.error error, reached)) := by
  constructor
  · intro event error left h
    rw [ProgressServiceState.run_reportInPlace] at h
    cases hreport : state.report event with
    | ok result =>
        rw [hreport] at h
        cases h
    | error failure =>
        rw [hreport] at h
        cases h
        rfl
  · intro eventId record hrecord
    constructor
    · exact (ProgressServiceState.remembered_of_run hrun eventId record hrecord).2
    · intro later reached hcontinues event heventId
      subst heventId
      exact ProgressServiceState.run_reportInPlace_of_recorded
        (ProgressServiceState.remembered_of_run (hrun.trans hcontinues))
        (ProgressServiceState.eventsKept_of_continues hcontinues _ _ hrecord)

/-- The share of `oneShareCalls`, with a report of the Worker that was not there before. -/
def reportedShare : AcceptedWorkEvent where
  eventId := ⟨"event_a", validEvent_a⟩
  workSessionId := ⟨"session_a", validSession_a⟩
  assignedTarget := ⟨List.replicate 32 255, length_easiest, easiest_ne_zero⟩
  receivedAt := ⟨1, Nat.one_ne_zero⟩
  shareFingerprint := ⟨"share_a", validShare_a⟩
  networkTargetOutcome := .belowNetworkTarget
  maybeWorkerReport := some ⟨"12", 0, 3⟩

theorem oneShareCalls_replayed : ∃ record,
    (progressService.replay oneShareCalls).2.events.lookup reportedShare.eventId = some record ∧
      (ProgressServiceState.reportInPlace reportedShare).run
          (progressService.replay oneShareCalls).2 =
        (.ok ⟨record.acceptedEvent.acknowledgement, none⟩,
          (progressService.replay oneShareCalls).2) := by
  have hrecorded : ((progressService.replay oneShareCalls).2.events.lookup
      reportedShare.eventId).map (fun record => record.acceptedEvent.event) =
        some { reportedShare with maybeWorkerReport := none } := by
    decide +kernel
  obtain ⟨record, hrecord, hevent⟩ := Option.map_eq_some_iff.mp hrecorded
  refine ⟨record, hrecord, ?_⟩
  have hsame : ProgressServiceState.SameAuthoritatively record.acceptedEvent.event
      reportedShare := by
    rw [hevent]
    rfl
  exact (((report_atomic_and_replayed (Machine.run_replay oneShareCalls
    ⟨trivial, trivial, trivial, trivial, trivial⟩)).2 _ _ hrecord).2 _ _ .refl reportedShare
      rfl).1 hsame

end WorkGate
