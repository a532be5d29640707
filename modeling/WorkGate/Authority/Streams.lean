/-
# Progress and lifecycle streams (src/authority_application.rs,
src/authority_application/lifecycle_events.rs)

A client of a challenge's event stream is given the persisted progress and the persisted lifecycle
first, and then what the calls of the application announce after their transactions commit.  A
transaction, the announcement that follows it, the reading of a snapshot and the subscription to a
channel are steps of their own here, and any others may come between them.

Each of the two maps of channels is keyed by challenge; together they are one feed whose topics are
the challenges of either map.
-/

import WorkGate.Library.Broadcast
import WorkGate.Progress.Service
import WorkGate.Authority.Accounting

namespace WorkGate

open WorkGate.Library

/-! ## What is streamed -/

/-- A channel of `progress_channels` or of `lifecycle_channels`. -/
inductive StreamTopic
  | verifiedProgress (challengeId : ChallengeId)
  | challengeLifecycle (challengeId : ChallengeId)
  deriving DecidableEq

/-- An event sent to the clients of a stream. -/
inductive StreamUpdate
  | verifiedProgress (update : ProgressUpdate)
  | challengeLifecycle (lifecycle : ChallengeLifecycle)
  deriving DecidableEq

/-- `ProgressUpdate::persisted`. -/
def ProgressUpdate.persisted (challengeId : ChallengeId) (verifiedProgress : VerifiedProgress)
    (workRequirement : CreditedWork) : ProgressUpdate where
  challengeId := challengeId
  verifiedProgress := verifiedProgress
  workRequirement := workRequirement
  satisfied := verifiedProgress.meets workRequirement
  activityEstimate := .unavailable

/-- `PROGRESS_CHANNEL_CAPACITY`. -/
def progressChannelCapacity : ℕ := 32

namespace AuthorityDatabase

/-- `progress`, as the update a subscriber is given first. -/
def progress (db : AuthorityDatabase) (challengeId : ChallengeId) :
    Except AuthorityPersistenceError ProgressUpdate :=
  match db.challenges.lookup challengeId with
  | none => .error .unknownChallenge
  | some row => .ok (.persisted challengeId row.verifiedProgress row.workRequirement)

/-- Whether an update tells the persisted progress, or the persisted lifecycle state. -/
def Persists (db : AuthorityDatabase) : StreamTopic → StreamUpdate → Prop
  | .verifiedProgress challengeId, .verifiedProgress update =>
      (db.challenges.lookup challengeId).map ChallengeRow.verifiedProgress =
        some update.verifiedProgress
  | .challengeLifecycle challengeId, .challengeLifecycle lifecycle =>
      (db.challenges.lookup challengeId).map ChallengeRow.lifecycleState = some lifecycle.state
  | _, _ => False

instance decidablePersists (db : AuthorityDatabase) (topic : StreamTopic)
    (update : StreamUpdate) : Decidable (db.Persists topic update) := by
  unfold Persists
  split
  · infer_instance
  · infer_instance
  · infer_instance

/-- The challenges whose lifecycle state a transaction changed. -/
def lifecycleChanges (db after : AuthorityDatabase) : List ChallengeId :=
  db.challenges.keys.filter fun challengeId =>
    (after.challenges.lookup challengeId).map ChallengeRow.lifecycleState !=
      (db.challenges.lookup challengeId).map ChallengeRow.lifecycleState

end AuthorityDatabase

/-! ## What calls announce -/

/-- An announcement a call makes after its transaction: an update it has, or the lifecycle of a
challenge, which it reads again first. -/
abbrev StreamNotice : Type := Feed.Notice StreamTopic StreamUpdate

/-- `notify_lifecycle_for_session`.  A session stays with its challenge. -/
def notifyLifecycleForSession (db : AuthorityDatabase) (sessionId : WorkSessionId) :
    List StreamNotice :=
  match db.sessions.lookup sessionId with
  | none => []
  | some session => [.reread (.challengeLifecycle session.challengeId)]

/-- The refusals after which `accept_work` announces the lifecycle. -/
def AcceptedWorkRefusal.stopsSession : AcceptedWorkRefusal → Bool
  | .workerContinuityLost | .workLeaseExpired => true
  | _ => false

/-- What the application's call announces once its transaction has answered. -/
def notifications (db : AuthorityDatabase) :
    AuthorityRequest → AuthorityReply → List StreamNotice
  | .challengeLifecycle challengeId _, .lifecycle lifecycle
  | .pauseChallenge challengeId _ _, .lifecycle lifecycle
  | .cancelChallenge challengeId _, .lifecycle lifecycle =>
      [.update (.challengeLifecycle challengeId) (.challengeLifecycle lifecycle)]
  | .acceptWork _ _ _ _ _, .accepted acceptance =>
      .update (.verifiedProgress acceptance.challengeId)
        (.verifiedProgress (.persisted acceptance.challengeId
          acceptance.acknowledgement.verifiedProgress
          acceptance.acknowledgement.workRequirement)) ::
      if acceptance.acknowledgement.issuanceIntentCreated then
        [.reread (.challengeLifecycle acceptance.challengeId)]
      else []
  | .acceptWork event _ _ _ _, .refused (.workRefused refusal) =>
      if refusal.stopsSession then notifyLifecycleForSession db event.workSessionId else []
  | .startWorkLease input, .lease _ => notifyLifecycleForSession db input.sessionId
  | .renewWorkLease input, .refused .workerContinuityLost
  | .renewWorkLease input, .refused .workLeaseExpired =>
      notifyLifecycleForSession db input.sessionId
  | .interruptWorkSession sessionId _, .done
  | .confirmWorkSessionRestored sessionId, .done
  | .failWorkSession sessionId, .done => notifyLifecycleForSession db sessionId
  | .completeIssuance _ completed _, .done => [.reread (.challengeLifecycle completed.challengeId)]
  | _, _ => []

/-- Every commit is followed by its announcement: a lifecycle a transaction changed and its call
does not announce is still to be read, by the expiry timer or by a later call. -/
def unannounced (db after : AuthorityDatabase) (made : List StreamNotice) :
    List StreamNotice :=
  ((db.lifecycleChanges after).filter fun challengeId =>
    !(made.map Feed.Notice.subject).contains (.challengeLifecycle challengeId)).map
      fun challengeId => .reread (.challengeLifecycle challengeId)

/-! ## The steps -/

/-- The Authority's store with the streams of its challenges. -/
structure StreamSystem where
  authority : AuthorityDatabase
  feed : Feed StreamTopic StreamUpdate

/-- A step of a call, of a subscription or of a client. -/
inductive StreamRequest
  /-- The transaction of a call. -/
  | transaction (request : AuthorityRequest)
  /-- The repository's `challenge_lifecycle` alone, as trusted consent and the expiry timer of an
  open challenge call it. -/
  | repositoryLifecycle (challengeId : ChallengeId) (now : ℕ)
  /-- The reading a call, or the expiry timer, makes for its announcement. -/
  | readLifecycle (challengeId : ChallengeId) (now : ℕ)
  /-- `notify_progress` or `notify_lifecycle`, for one of the updates to be sent. -/
  | notify (position : ℕ)
  /-- `subscribe_progress` up to its snapshot. -/
  | progressSnapshot (challengeId : ChallengeId)
  /-- `subscribe_lifecycle` up to its snapshot. -/
  | lifecycleSnapshot (challengeId : ChallengeId) (now : ℕ)
  /-- The rest of either: the subscription to the channel. -/
  | subscribe (position : ℕ)
  /-- A client's next event. -/
  | receive (position : ℕ)

/-- What a step answers. -/
inductive StreamReply
  | answered (reply : AuthorityReply)
  | snapshot (update : StreamUpdate)
  | refused (error : AuthorityPersistenceError)
  | event (update : StreamUpdate)
  | resyncRequired (skipped : ℕ)
  | done
  deriving DecidableEq

namespace StreamSystem

/-- A transaction with the announcements it is followed by. -/
def commit (system : StreamSystem) (after : AuthorityDatabase) (made : List StreamNotice) :
    StreamSystem where
  authority := after
  feed := (unannounced system.authority after made ++ made).foldl Feed.leave system.feed

/-- A transaction of the repository that no call announces. -/
def repositoryLifecycle (system : StreamSystem) (challengeId : ChallengeId) (now : ℕ) :
    StreamSystem × AuthorityReply :=
  let result := authorityStep system.authority (.challengeLifecycle challengeId now)
  (system.commit result.1 [], result.2)

/-- The call's second transaction; the lifecycle it reads is what it announces. -/
def readLifecycle (system : StreamSystem) (challengeId : ChallengeId) (now : ℕ) :
    StreamSystem × AuthorityReply :=
  let result := authorityStep system.authority (.challengeLifecycle challengeId now)
  let topic := StreamTopic.challengeLifecycle challengeId
  match result.2 with
  | .lifecycle lifecycle =>
      (({ system with feed := system.feed.settle topic }).commit result.1
        [.update topic (.challengeLifecycle lifecycle)], result.2)
  | refused => (system.commit result.1 [], refused)

/-- `subscribe_lifecycle` announces the lifecycle it reads before it subscribes. -/
def lifecycleSnapshot (system : StreamSystem) (challengeId : ChallengeId) (now : ℕ) :
    StreamSystem × AuthorityReply :=
  let request := AuthorityRequest.challengeLifecycle challengeId now
  let result := authorityStep system.authority request
  let committed := system.commit result.1 (notifications system.authority request result.2)
  match result.2 with
  | .lifecycle lifecycle =>
      ({ committed with
        feed := committed.feed.look (.challengeLifecycle challengeId)
          (.challengeLifecycle lifecycle) }, result.2)
  | refused => (committed, refused)

/-- What a client is told next. -/
def nextEvent (system : StreamSystem) (position : ℕ) : StreamReply :=
  match system.feed.receivers[position]? with
  | none => .done
  | some receiver =>
      if 0 < receiver.skipped then .resyncRequired receiver.skipped
      else match receiver.queue with
        | [] => .done
        | update :: _ => .event update

end StreamSystem

/-- One step. -/
def streamStep (system : StreamSystem) : StreamRequest → StreamSystem × StreamReply
  | .transaction request =>
      let result := authorityStep system.authority request
      (system.commit result.1 (notifications system.authority request result.2),
        .answered result.2)
  | .repositoryLifecycle challengeId now =>
      let result := system.repositoryLifecycle challengeId now
      (result.1, .answered result.2)
  | .readLifecycle challengeId now =>
      let result := system.readLifecycle challengeId now
      (result.1, .answered result.2)
  | .notify position =>
      ({ system with feed := system.feed.notify progressChannelCapacity position }, .done)
  | .progressSnapshot challengeId =>
      match system.authority.progress challengeId with
      | .error error => (system, .refused error)
      | .ok update =>
          ({ system with
            feed := system.feed.look (.verifiedProgress challengeId) (.verifiedProgress update) },
            .snapshot (.verifiedProgress update))
  | .lifecycleSnapshot challengeId now =>
      let result := system.lifecycleSnapshot challengeId now
      (result.1, .answered result.2)
  | .subscribe position => ({ system with feed := system.feed.subscribe position }, .done)
  | .receive position =>
      ({ system with feed := system.feed.receive position }, system.nextEvent position)

/-- A call reads a lifecycle for its announcement only where one is to be made. -/
def StreamSystem.Accepts (system : StreamSystem) : StreamRequest → Prop
  | .readLifecycle challengeId _ => .challengeLifecycle challengeId ∈ system.feed.unread
  | _ => True

/-- The streams of the Authority: any step may come at any time.  The steps of one call are not
tied to each other, so this allows orders no single call has. -/
def authorityStreams : Machine StreamSystem StreamRequest StreamReply where
  init := ⟨AuthorityDatabase.empty, Feed.empty⟩
  admits := fun _ system request => system.Accepts request
  step := streamStep

instance decidableAdmitsStreams (history : List (StreamRequest × StreamReply))
    (system : StreamSystem) : (request : StreamRequest) →
      Decidable (authorityStreams.admits history system request)
  | .readLifecycle challengeId _ =>
      inferInstanceAs (Decidable (.challengeLifecycle challengeId ∈ system.feed.unread))
  | .transaction _ | .repositoryLifecycle _ _ | .notify _ | .progressSnapshot _
  | .lifecycleSnapshot _ _ | .subscribe _ | .receive _ => inferInstanceAs (Decidable True)

end WorkGate
