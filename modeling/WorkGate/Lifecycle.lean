/-
# Lifecycles of challenges and sessions (src/lifecycle.rs, src/lifecycle/session.rs)

The pure decisions every adapter runs before it writes: which command a challenge
or a session accepts in which state, and what one reading of a Worker's monotonic
clock says about the lease it was taken under.
-/

import WorkGate.Progress.Event

namespace WorkGate

/-- The failures of lifecycle decisions. -/
inductive LifecycleError
  | invalidContinuityId
  | invalidPersistedState
  | forbiddenTransition
  | wrongWorkLease
  | deadlineOverflow
  deriving DecidableEq, Repr

/-! ## Time windows -/

/-- Seconds a request proof stays fresh after it was issued. -/
def dpopFreshnessSeconds : ℕ := 60

/-- The clock skew the protocol tolerates. -/
def protocolClockSkewSeconds : ℕ := 0

/-- `saturating_add` of two `u64`. -/
def saturatingAddU64 (left right : ℕ) : ℕ := min (left + right) (2 ^ 64 - 1)

/-- How long an accepted proof identity is remembered. -/
def dpopAcceptanceWindowSeconds : ℕ :=
  saturatingAddU64 dpopFreshnessSeconds protocolClockSkewSeconds

/-- Whether a request proof falls within its freshness window. -/
def requestProofIsFresh (now issuedAt freshnessSeconds : ℕ) : Bool :=
  decide (issuedAt ≤ saturatingAddU64 now protocolClockSkewSeconds) &&
    decide (now ≤ saturatingAddU64 (saturatingAddU64 issuedAt freshnessSeconds)
      protocolClockSkewSeconds)

/-- Whether one signed artifact is valid in its inclusive-issued, exclusive-expiry interval. -/
def signedArtifactIsTimeValid (now issuedAt expiresAt : ℕ) : Bool :=
  decide (issuedAt ≤ now) && decide (now < saturatingAddU64 expiresAt protocolClockSkewSeconds)

/-! ## Challenges -/

/-- Durable Work Challenge lifecycle state. -/
inductive ChallengeLifecycleState
  | issued
  | active
  | satisfied
  | passIssued
  | cancelled
  | expired
  deriving DecidableEq, Repr

/-- Whether retained progress can still lead to authorization. -/
def ChallengeLifecycleState.authorizationEligible : ChallengeLifecycleState → Bool
  | .cancelled | .expired => false
  | _ => true

/-- Returns whether the requested Work Challenge transition is allowed. -/
def challengeTransitionAllowed (start target : ChallengeLifecycleState) : Bool :=
  start == target || match start, target with
    | .issued, .active | .issued, .cancelled | .issued, .expired => true
    | .active, .satisfied | .active, .cancelled | .active, .expired => true
    | .satisfied, .passIssued | .satisfied, .expired => true
    | .passIssued, .expired => true
    | _, _ => false

/-- Whether lifecycle control may still register or pause challenge work. -/
def challengeAcceptsWorkControl (state : ChallengeLifecycleState) : Bool :=
  state == .issued || state == .active

/-- Whether accepted work may advance the challenge projection. -/
def challengeAcceptsWork (state : ChallengeLifecycleState) : Bool :=
  state == .active

/-- Intent applied to one Work Challenge by an application or persistence adapter. -/
inductive ChallengeLifecycleCommand
  | registerSession
  | selectPoolOffer
  | confirmPoolSelection
  | startWork
  | acceptWork
  | pause
  | satisfy
  | issuePass
  | cancel
  | expire
  deriving DecidableEq, Repr

/-- Pure Work Challenge command decision used by every production adapter. -/
def applyChallengeCommand (state : ChallengeLifecycleState) (command : ChallengeLifecycleCommand) :
    Except LifecycleError ChallengeLifecycleState :=
  match state, command with
  | .issued, .registerSession | .active, .registerSession => .ok state
  | .issued, .pause | .active, .pause => .ok state
  | .issued, .selectPoolOffer | .issued, .confirmPoolSelection => .ok state
  | .issued, .startWork => .ok .active
  | .active, .startWork => .ok state
  | .active, .acceptWork => .ok state
  | .active, .satisfy => .ok .satisfied
  | .satisfied, .issuePass => .ok .passIssued
  | .passIssued, .issuePass => .ok state
  | .issued, .cancel | .active, .cancel => .ok .cancelled
  | .cancelled, .cancel => .ok state
  | _, .expire =>
      if challengeTransitionAllowed state .expired then .ok .expired
      else .error .forbiddenTransition
  | _, _ => .error .forbiddenTransition

/-- Accepted work is taken in one state only. -/
theorem applyChallengeCommand_acceptWork {state target : ChallengeLifecycleState}
    (h : applyChallengeCommand state .acceptWork = .ok target) : state = .active := by
  cases state <;> simp_all [applyChallengeCommand]

/-- Only a challenge that was not yet satisfied is cancelled. -/
theorem applyChallengeCommand_cancel {state target : ChallengeLifecycleState}
    (h : applyChallengeCommand state .cancel = .ok target) :
    target = .cancelled ∧ (state = .issued ∨ state = .active ∨ state = .cancelled) := by
  cases state <;> simp_all [applyChallengeCommand]

theorem applyChallengeCommand_startWork {state target : ChallengeLifecycleState}
    (h : applyChallengeCommand state .startWork = .ok target) :
    target = .active ∧ (state = .issued ∨ state = .active) := by
  cases state <;> simp_all [applyChallengeCommand]

/-- Only cancellation is out of reach of expiry. -/
theorem applyChallengeCommand_expire {state target : ChallengeLifecycleState}
    (h : applyChallengeCommand state .expire = .ok target) :
    target = .expired ∧ state ≠ .cancelled := by
  cases state <;> simp [applyChallengeCommand, challengeTransitionAllowed] at h ⊢ <;>
    exact h.symm

/-! ## Sessions -/

/-- Durable Work Session lifecycle state. -/
inductive SessionLifecycleState
  | ready
  | leased
  | stopping
  | restored
  | failed
  deriving DecidableEq, Repr

/-- Returns whether the requested Work Session transition is allowed. -/
def sessionTransitionAllowed (start target : SessionLifecycleState) : Bool :=
  start == target || match start, target with
    | .ready, .leased | .ready, .stopping | .ready, .failed => true
    | .leased, .stopping | .leased, .failed => true
    | .stopping, .restored | .stopping, .failed => true
    | .restored, .leased | .restored, .failed => true
    | _, _ => false

/-- Intent applied to one Work Session by the Pool Adapter or challenge lifecycle. -/
inductive SessionLifecycleCommand
  | startLease
  | observeLease
  | stop
  | confirmRestored
  | fail
  deriving DecidableEq, Repr

/-- Pure Work Session command decision used by every production adapter. -/
def applySessionCommand (state : SessionLifecycleState) (command : SessionLifecycleCommand) :
    Except LifecycleError SessionLifecycleState :=
  match state, command with
  | .ready, .startLease | .restored, .startLease => .ok .leased
  | .leased, .observeLease => .ok state
  | .ready, .stop | .leased, .stop => .ok .stopping
  | .stopping, .stop => .ok state
  | .stopping, .confirmRestored => .ok .restored
  | .restored, .confirmRestored => .ok state
  | _, .fail => .ok .failed
  | _, _ => .error .forbiddenTransition

/-- Closed reason set for a session that is stopping, restored, or failed. -/
inductive SessionStopReason
  | userRequested
  | tabClosed
  | connectivityLost
  | challengeCancelled
  | challengeExpired
  | challengeSatisfied
  | workerReboot
  | monotonicReset
  | uncertainTime
  | leaseExpired
  | transportDisconnected
  | sessionFailed
  | migrationContinuityUnknown
  | migrationPoolSelectionUnknown
  deriving DecidableEq, Repr

/-- Stable persistence and Pool Adapter value. -/
def SessionStopReason.asStr : SessionStopReason → String
  | .userRequested => "user_requested"
  | .tabClosed => "tab_closed"
  | .connectivityLost => "connectivity_lost"
  | .challengeCancelled => "challenge_cancelled"
  | .challengeExpired => "challenge_expired"
  | .challengeSatisfied => "challenge_satisfied"
  | .workerReboot => "worker_reboot"
  | .monotonicReset => "monotonic_reset"
  | .uncertainTime => "uncertain_time"
  | .leaseExpired => "lease_expired"
  | .transportDisconnected => "transport_disconnected"
  | .sessionFailed => "session_failed"
  | .migrationContinuityUnknown => "migration_continuity_unknown"
  | .migrationPoolSelectionUnknown => "migration_pool_selection_unknown"

def SessionStopReason.parse : String → Except LifecycleError SessionStopReason
  | "user_requested" => .ok .userRequested
  | "tab_closed" => .ok .tabClosed
  | "connectivity_lost" => .ok .connectivityLost
  | "challenge_cancelled" => .ok .challengeCancelled
  | "challenge_expired" => .ok .challengeExpired
  | "challenge_satisfied" => .ok .challengeSatisfied
  | "worker_reboot" => .ok .workerReboot
  | "monotonic_reset" => .ok .monotonicReset
  | "uncertain_time" => .ok .uncertainTime
  | "lease_expired" => .ok .leaseExpired
  | "transport_disconnected" => .ok .transportDisconnected
  | "session_failed" => .ok .sessionFailed
  | "migration_continuity_unknown" => .ok .migrationContinuityUnknown
  | "migration_pool_selection_unknown" => .ok .migrationPoolSelectionUnknown
  | _ => .error .invalidPersistedState

/-- The nullable column of a stop reason, parsed. -/
def SessionStopReason.parseColumn :
    Option String → Except LifecycleError (Option SessionStopReason)
  | none => .ok none
  | some text => (SessionStopReason.parse text).map some

/-- What is written for a stop reason reads back as that reason. -/
@[simp]
theorem SessionStopReason.parseColumn_asStr (maybeReason : Option SessionStopReason) :
    SessionStopReason.parseColumn (maybeReason.map SessionStopReason.asStr) = .ok maybeReason := by
  cases maybeReason with
  | none => rfl
  | some reason => cases reason <;> rfl

def SessionStopReason.allowsReplacement : SessionStopReason → Bool
  | .workerReboot | .monotonicReset | .uncertainTime | .leaseExpired | .transportDisconnected
  | .sessionFailed => true
  | _ => false

/-- Why all leases for a challenge are being ended without cancelling it. -/
inductive PauseReason
  | userRequested
  | tabClosed
  | connectivityLost
  deriving DecidableEq, Repr

def PauseReason.stopReason : PauseReason → SessionStopReason
  | .userRequested => .userRequested
  | .tabClosed => .tabClosed
  | .connectivityLost => .connectivityLost

/-- A Worker-side continuity failure that must end the current lease. -/
inductive WorkerInterruption
  | reboot
  | monotonicReset
  | uncertainTime
  | transportDisconnected
  deriving DecidableEq, Repr

def WorkerInterruption.stopReason : WorkerInterruption → SessionStopReason
  | .reboot => .workerReboot
  | .monotonicReset => .monotonicReset
  | .uncertainTime => .uncertainTime
  | .transportDisconnected => .transportDisconnected

/-! ## Leases -/

/-- The check of `WorkerClock::new`. -/
def isContinuityId (continuityId : String) : Bool :=
  !continuityId.toList.isEmpty && continuityId.utf8ByteSize ≤ 128 &&
    continuityId.toList.all isOpaqueIdCharacter

theorem isContinuityId_boot : isContinuityId "boot" = true := by decide

/-- A reading from one continuous Worker boot and monotonic clock domain. -/
structure WorkerClock where
  continuityId : String
  monotonicMilliseconds : ℕ
  valid : isContinuityId continuityId = true
  deriving DecidableEq

/-- `WorkerClock::new`. -/
def WorkerClock.new (continuityId : String) (monotonicMilliseconds : ℕ) :
    Except LifecycleError WorkerClock :=
  if hvalid : isContinuityId continuityId = true then
    .ok ⟨continuityId, monotonicMilliseconds, hvalid⟩
  else .error .invalidContinuityId

/-- One bounded lease expressed only in the Worker's monotonic clock domain. -/
structure WorkLease where
  leaseId : String
  renewAtMonotonicMilliseconds : ℕ
  expiresAtMonotonicMilliseconds : ℕ
  deriving DecidableEq

structure LeaseObservationInput where
  state : SessionLifecycleState
  expectedLeaseId : String
  expectedContinuityId : String
  lastMonotonicMilliseconds : ℕ
  expiresAtMonotonicMilliseconds : ℕ
  presentedLeaseId : String
  clock : WorkerClock

inductive LeaseObservation
  | accepted
  | stop (reason : SessionStopReason)
  deriving DecidableEq, Repr

/-- `observe_work_lease`: a changed boot, a clock that ran backwards and a deadline
that passed each stop the session. -/
def observeWorkLease (input : LeaseObservationInput) : Except LifecycleError LeaseObservation := do
  let _ ← applySessionCommand input.state .observeLease
  if input.expectedLeaseId ≠ input.presentedLeaseId then .error .wrongWorkLease
  else if input.expectedContinuityId ≠ input.clock.continuityId then .ok (.stop .workerReboot)
  else if input.clock.monotonicMilliseconds < input.lastMonotonicMilliseconds then
    .ok (.stop .monotonicReset)
  else if input.clock.monotonicMilliseconds ≥ input.expiresAtMonotonicMilliseconds then
    .ok (.stop .leaseExpired)
  else .ok .accepted

/-- Pool-Adapter view whose shape makes invalid state/lease/reason combinations
unrepresentable. -/
inductive SessionLifecycle
  | ready (sessionId : WorkSessionId) (challengeId : ChallengeId)
  | leased (sessionId : WorkSessionId) (challengeId : ChallengeId) (lease : WorkLease)
  | stopping (sessionId : WorkSessionId) (challengeId : ChallengeId) (reason : SessionStopReason)
  | restored (sessionId : WorkSessionId) (challengeId : ChallengeId) (reason : SessionStopReason)
  | failed (sessionId : WorkSessionId) (challengeId : ChallengeId) (reason : SessionStopReason)
  deriving DecidableEq

/-- `SessionLifecycle::persisted`. -/
def SessionLifecycle.persisted (sessionId : WorkSessionId) (challengeId : ChallengeId)
    (state : SessionLifecycleState) (maybeStopReason : Option String)
    (maybeLease : Option WorkLease) : Except LifecycleError SessionLifecycle := do
  let maybeReason ← SessionStopReason.parseColumn maybeStopReason
  match state, maybeReason, maybeLease with
  | .ready, none, none => .ok (.ready sessionId challengeId)
  | .leased, none, some lease => .ok (.leased sessionId challengeId lease)
  | .stopping, some reason, none => .ok (.stopping sessionId challengeId reason)
  | .restored, some reason, none => .ok (.restored sessionId challengeId reason)
  | .failed, some reason, none => .ok (.failed sessionId challengeId reason)
  | _, _, _ => .error .invalidPersistedState

/-- Durable operational transition from one stopped Work Session to a fresh replacement. -/
structure SessionReplacement where
  sessionId : WorkSessionId
  replacedSessionId : WorkSessionId
  generation : ℕ
  reason : SessionStopReason
  deriving DecidableEq

/-- `SessionReplacement::persisted`. -/
def SessionReplacement.persisted (replacement : SessionReplacement) :
    Except LifecycleError SessionReplacement :=
  if replacement.generation = 0 || replacement.sessionId == replacement.replacedSessionId ||
      !replacement.reason.allowsReplacement then .error .invalidPersistedState
  else .ok replacement

end WorkGate
