/-
# Leases across both components (src/authority_application/worker_lease.rs,
src/stratum_v1/worker_grant.rs, src/stratum_v1/tcp.rs)

The Authority commits a lease, the Pool Adapter registers its window, the connection that
mines under it reads the registration, every share the pool accepts is recorded with the
reading it was submitted at, and a delivery brings that reading back to the Authority.  Each
of these is a step of its own, and any number of calls, connections and deliveries come
between two of them.  Every clock reading is an argument of the step that takes it; nothing
is asked of their order.
-/

import WorkGate.Authority.Consent
import WorkGate.Leases.Columns
import WorkGate.Outbox.Delivery
import WorkGate.Stratum.Effects
import WorkGate.Stratum.PoolSelections
import WorkGate.Stratum.Registrations

namespace WorkGate

open WorkGate.Library

/-! ## From the Authority to the registry -/

/-- `WORK_LEASE_RENEWAL_SECONDS`. -/
def workLeaseRenewalSeconds : ℕ := 20

/-- `WORK_LEASE_MAX_DURATION_SECONDS`. -/
def workLeaseMaxDurationSeconds : ℕ := 60

/-- `monotonic_deadline`. -/
def monotonicDeadline (nowMilliseconds durationSeconds : ℕ) : Except LifecycleError ℕ :=
  let deadline := nowMilliseconds + durationSeconds * 1000
  if deadline < 2 ^ 64 then .ok deadline else .error .deadlineOverflow

/-- When a lease read at `clock` is to be renewed, and when it ends. -/
def leaseDeadlines (clock : WorkerClock) : Except LifecycleError (ℕ × ℕ) := do
  let renewAt ← monotonicDeadline clock.monotonicMilliseconds workLeaseRenewalSeconds
  let expiresAt ← monotonicDeadline clock.monotonicMilliseconds workLeaseMaxDurationSeconds
  return (renewAt, expiresAt)

/-- Lease facts the Pool Adapter binds into one Worker's Stratum V1 credentials. -/
structure WorkerStratumRequest where
  sessionId : WorkSessionId
  lease : WorkLease
  clock : WorkerClock
  /-- Authority wall-clock reading at which `clock` was taken. -/
  nowUnixMilliseconds : ℕ
  leaseExpiresAtUnixSeconds : ℕ
  challengeExpiresAtUnixSeconds : ℕ

namespace WorkerStratumRequest

/-- `lease_context`. -/
def leaseContext (deps : Dependencies) (request : WorkerStratumRequest) :
    Except StratumV1Error StratumLeaseContext :=
  StratumLeaseContext.new deps request.lease.leaseId request.clock.continuityId
    request.clock.monotonicMilliseconds request.lease.renewAtMonotonicMilliseconds
    request.lease.expiresAtMonotonicMilliseconds

/-- What `issue_registered` registers. -/
def credentials (deps : Dependencies) (issuer : StratumCredentialIssuer)
    (request : WorkerStratumRequest) : Except StratumV1Error StratumSessionCredentials := do
  let context ← request.leaseContext deps
  issuer.issueAtMilliseconds request.sessionId context request.nowUnixMilliseconds
    request.leaseExpiresAtUnixSeconds request.challengeExpiresAtUnixSeconds

/-- What `extend_registered` extends by. -/
def extension (deps : Dependencies) (request : WorkerStratumRequest) :
    Except StratumV1Error StratumSessionExtension := do
  let context ← request.leaseContext deps
  StratumSessionExtension.new request.sessionId context request.nowUnixMilliseconds
    request.leaseExpiresAtUnixSeconds request.challengeExpiresAtUnixSeconds

end WorkerStratumRequest

/-- The step a call takes next, once its lease has been committed.  A grant that failed is
released and then answered with its error. -/
inductive LeaseStep
  | issue
  | extend
  | interrupt (error : AuthorityApplicationError)
  | confirmRestored (error : AuthorityApplicationError)

/-- A call whose lease has been committed. -/
structure LeaseCall where
  challengeId : ChallengeId
  sessionId : WorkSessionId
  lease : WorkLease
  clock : WorkerClock
  next : LeaseStep

/-- `worker_stratum_request`. -/
def LeaseCall.stratumRequest (call : LeaseCall) (db : AuthorityDatabase) :
    Except AuthorityApplicationError WorkerStratumRequest :=
  match db.challenges.lookup call.challengeId with
  | none => .error (.ofPersistence .unknownChallenge)
  | some challenge =>
    let now := call.clock.monotonicMilliseconds
    let leaseExpiresAt := now / 1000 + workLeaseMaxDurationSeconds
    if leaseExpiresAt ≥ 2 ^ 64 then .error .timeOverflow
    else .ok {
      sessionId := call.sessionId
      lease := call.lease
      clock := call.clock
      nowUnixMilliseconds := now
      leaseExpiresAtUnixSeconds := leaseExpiresAt
      challengeExpiresAtUnixSeconds := challenge.expiresAtUnixSeconds }

/-! ## From the registry to a connection -/

/-- `into_session_config`. -/
def AuthenticatedStratumSession.intoSessionConfig (authenticated : AuthenticatedStratumSession)
    (username secret : String) (nowUnixSeconds : ℕ) :
    Except StratumV1Error StratumSessionConfig :=
  if nowUnixSeconds ≥ authenticated.expiresAtUnixSeconds then .error .expiredCredentials
  else .ok {
    sessionId := authenticated.sessionId
    leaseContext := authenticated.leaseContext
    username := username
    secret := secret
    upstreamUsername := username
    upstreamSecret := secret
    issuedAtUnixMilliseconds := authenticated.issuedAtUnixMilliseconds
    expiresAtUnixSeconds := authenticated.expiresAtUnixSeconds }

/-- `with_upstream_authorization`, where there is one. -/
def StratumSessionConfig.withUpstreamAuthorization (config : StratumSessionConfig) :
    Option StratumUpstreamAuthorization → Except StratumV1Error StratumSessionConfig
  | none => .ok config
  | some authorization => do
      validateUpstreamAuthorization authorization.username authorization.secret
      return { config with
        upstreamUsername := authorization.username
        upstreamSecret := authorization.secret }

/-- `authorization_request`: the identity of the message, the username and the secret. -/
def authorizationRequest (deps : Dependencies) (frame : String) :
    Option (String × String × String) := do
  let message ← (deps.fromStr frame).bind Json.asObject
  if messageMethod message = some "mining.authorize" then
    let id ← message.get "id"
    let params ← (message.get "params").bind Json.asArray
    let username ← params[0]?.bind Json.asStr
    let secret ← params[1]?.bind Json.asStr
    return (deps.toStr id, username, secret)
  else none

/-- `subscription_extranonce`. -/
def subscriptionExtranonce (deps : Dependencies) (frame : String) : Option String := do
  let message ← (deps.fromStr frame).bind Json.asObject
  (resultAt message 1).bind Json.asStr

/-- The frames a connection is admitted with, and when it was. -/
structure Admission where
  subscribe : String
  subscribed : String
  authorize : String
  username : String
  secret : String
  nowUnixSeconds : ℕ

namespace StratumSession

/-- A call that has to succeed. -/
def call (deps : Dependencies) (session : StratumSession) (call : StratumCall) :
    Option (StratumSession × List StratumProxyAction) :=
  match session.step deps call with
  | (after, .ok actions) => some (after, actions)
  | (_, .error _) => none

/-- The part of `admit_and_run` from the configuration to the established session: it has no
pause, and gives up on the first thing out of place. -/
def establish (deps : Dependencies) (admission : Admission)
    (authenticated : AuthenticatedStratumSession)
    (maybeUpstream : Option StratumUpstreamAuthorization) : Option StratumSession := do
  let admitted ← (authenticated.intoSessionConfig admission.username admission.secret
    admission.nowUnixSeconds).toOption
  let config ← (admitted.withUpstreamAuthorization maybeUpstream).toOption
  -- `StratumSession::new`.
  if config.username.isEmpty || config.secret.isEmpty || config.expiresAtUnixSeconds == 0 then none
  else do
    let reserved ← subscriptionExtranonce deps admission.subscribed
    let now := admission.nowUnixSeconds
    let (subscribing, _) ← (start config).call deps (.workerFrame admission.subscribe (now * 1000))
    let (answered, actions) ← subscribing.call deps (.upstreamFrame admission.subscribed now)
    match actions with
    | [.reserveExtranonce token _ extranonce1] =>
        if extranonce1.map Char.toLower ≠ reserved.map Char.toLower then none
        else do
          let (subscribed, _) ← answered.call deps (.extranonceReserved token)
          let (authorizing, forwarded) ←
            subscribed.call deps (.workerFrame admission.authorize (now * 1000))
          match forwarded with
          | [.forwardUpstream _] => some authorizing
          | _ => none
    | _ => none

end StratumSession

/-- A registration a connection has read and not used yet. -/
inductive ConnectionRead
  | admission (admission : Admission) (authenticated : AuthenticatedStratumSession)
  | refresh (authenticated : AuthenticatedStratumSession)

def ConnectionRead.authenticated : ConnectionRead → AuthenticatedStratumSession
  | .admission _ authenticated => authenticated
  | .refresh authenticated => authenticated

/-- An established connection with the actions it still has to execute. -/
structure ProxyConnection where
  session : StratumSession
  actions : List StratumProxyAction

/-! ## The system -/

/-- The outbox, the Authority and the delivery processes; the registry; and the calls and the
connections under way. -/
structure LeaseSystem where
  delivery : DeliverySystem
  registry : StratumRegistry
  calls : Rows ℕ LeaseCall
  reads : Rows String ConnectionRead
  connections : Rows String ProxyConnection

inductive LeaseEvent
  /-- A lease is started or renewed for a call that then goes on; `leaseId` is the identity
  drawn for the new lease. -/
  | startWork (callId : ℕ) (challengeId : ChallengeId) (sessionId : WorkSessionId)
      (clock : WorkerClock) (maybeTrustedConsent : Option TrustedConsentLeaseAdmission)
      (leaseId : String) (nowUnixSeconds : ℕ)
  | renewWork (callId : ℕ) (challengeId : ChallengeId) (sessionId : WorkSessionId)
      (leaseId : String) (clock : WorkerClock) (nowUnixSeconds : ℕ)
  /-- A call takes its next step; `maybeFailure` when its grant is registered and then not
  signed. -/
  | proceed (callId : ℕ) (maybeFailure : Option AuthorityApplicationError)
  | abandon (callId : ℕ)
  /-- Any other call of the registry. -/
  | registry (request : RegistryRequest)
  /-- A connection presents its credentials, and then has its session. -/
  | present (connectionId subscribe subscribed authorize : String) (nowUnixSeconds : ℕ)
  | establish (connectionId : String) (maybeUpstream : Option StratumUpstreamAuthorization)
  /-- A live connection reads its registration again, and then takes it over. -/
  | refresh (connectionId : String) (nowUnixMilliseconds : ℕ)
  | renew (connectionId : String)
  | workerFrame (connectionId frame : String) (nowUnixMilliseconds : ℕ)
  | upstreamFrame (connectionId frame : String) (nowUnixMilliseconds : ℕ)
  /-- A connection executes the next of its actions. -/
  | execute (connectionId : String) (nowUnixSeconds : ℕ)
  | disconnect (connectionId : String)
  /-- A delivery process or any other transaction of the Authority. -/
  | delivery (request : DeliveryRequest)

inductive LeaseReply
  | silent
  | answered (answer : Except AuthorityApplicationError WorkLease)
  | session (reply : StratumReply)
  | delivery (reply : DeliveryReply)

namespace LeaseSystem

/-! ## Calls -/

/-- A call that has its answer is over. -/
def answers (system : LeaseSystem) (callId : ℕ)
    (answer : Except AuthorityApplicationError WorkLease) : LeaseSystem × LeaseReply :=
  ({ system with calls := system.calls.erase callId }, .answered answer)

/-- The call goes on to its next step. -/
def advance (system : LeaseSystem) (callId : ℕ) (call : LeaseCall) : LeaseSystem × LeaseReply :=
  ({ system with calls := system.calls.insert callId call }, .silent)

def withAuthority (system : LeaseSystem) (db : AuthorityDatabase) : LeaseSystem :=
  { system with delivery := { system.delivery with authority := db } }

/-- What a call whose lease transaction is answered by `result` does then. -/
def afterLease (system : LeaseSystem) (callId : ℕ) (challengeId : ChallengeId)
    (sessionId : WorkSessionId) (clock : WorkerClock) (next : LeaseStep)
    (result : TransactionResult WorkLease) : LeaseSystem × LeaseReply :=
  match result.2 with
  | .error error => (system.withAuthority result.1, .answered (.error (.ofPersistence error)))
  | .ok lease =>
      (system.withAuthority result.1).advance callId ⟨challengeId, sessionId, lease, clock, next⟩

/-- `start_lease_internal`. -/
def startWork (system : LeaseSystem) (callId : ℕ) (challengeId : ChallengeId)
    (sessionId : WorkSessionId) (clock : WorkerClock)
    (maybeTrustedConsent : Option TrustedConsentLeaseAdmission) (leaseId : String)
    (nowUnixSeconds : ℕ) : LeaseSystem × LeaseReply :=
  match leaseDeadlines clock with
  | .error error => (system, .answered (.error (.ofPersistence (.invalidLifecycle error))))
  | .ok (renewAt, expiresAt) =>
      system.afterLease callId challengeId sessionId clock .issue
        (system.delivery.authority.startWorkLease ⟨sessionId, maybeTrustedConsent, clock, leaseId,
          renewAt, expiresAt, nowUnixSeconds⟩)

/-- `renew_lease`. -/
def renewWork (system : LeaseSystem) (callId : ℕ) (challengeId : ChallengeId)
    (sessionId : WorkSessionId) (leaseId : String) (clock : WorkerClock) (nowUnixSeconds : ℕ) :
    LeaseSystem × LeaseReply :=
  match leaseDeadlines clock with
  | .error error => (system, .answered (.error (.ofPersistence (.invalidLifecycle error))))
  | .ok (renewAt, expiresAt) =>
      system.afterLease callId challengeId sessionId clock .extend
        (system.delivery.authority.renewWorkLease ⟨sessionId, leaseId, clock, renewAt, expiresAt,
          nowUnixSeconds⟩)

/-- The grant was not signed: `grant_or_release` releases its lease. -/
def release (system : LeaseSystem) (callId : ℕ) (call : LeaseCall)
    (error : AuthorityApplicationError) : LeaseSystem × LeaseReply :=
  system.advance callId { call with next := .interrupt error }

section

variable (deps : Dependencies) (issuer : StratumCredentialIssuer)
  (secretVerifier : String → String)

/-- `signed_grant`. -/
def issue (system : LeaseSystem) (callId : ℕ) (call : LeaseCall)
    (maybeFailure : Option AuthorityApplicationError) : LeaseSystem × LeaseReply :=
  match call.stratumRequest system.delivery.authority with
  | .error error => system.release callId call error
  | .ok request =>
    match request.credentials deps issuer with
    | .error _ => system.release callId call .workerStratumUnavailable
    | .ok credentials =>
      let registered := registryStep deps secretVerifier system.registry (.register credentials)
      let written := { system with registry := registered.1 }
      match registered.2, maybeFailure with
      | .done, none => written.answers callId (.ok call.lease)
      | .done, some error => written.release callId call error
      | _, _ => written.release callId call .workerStratumUnavailable

/-- The rest of `claimant_renew_work`. -/
def extend (system : LeaseSystem) (callId : ℕ) (call : LeaseCall)
    (maybeFailure : Option AuthorityApplicationError) : LeaseSystem × LeaseReply :=
  match call.stratumRequest system.delivery.authority with
  | .error error => system.answers callId (.error error)
  | .ok request =>
    match request.extension deps with
    | .error _ => system.answers callId (.error .workerStratumUnavailable)
    | .ok extension =>
      let extended := registryStep deps secretVerifier system.registry
        (.extend extension (request.nowUnixMilliseconds / 1000))
      let written := { system with registry := extended.1 }
      match extended.2, maybeFailure with
      | .done, none => written.answers callId (.ok call.lease)
      | .done, some error => written.answers callId (.error error)
      | _, _ => written.answers callId (.error .workerStratumUnavailable)

/-- The next step of a call. -/
def proceed (system : LeaseSystem) (callId : ℕ) (call : LeaseCall)
    (maybeFailure : Option AuthorityApplicationError) : LeaseSystem × LeaseReply :=
  match call.next with
  | .issue => system.issue deps issuer secretVerifier callId call maybeFailure
  | .extend => system.extend deps secretVerifier callId call maybeFailure
  | .interrupt error =>
      let interrupted := system.delivery.authority.interruptWorkSession call.sessionId
        .transportDisconnected
      let written := system.withAuthority interrupted.1
      match interrupted.2 with
      | .ok () => written.advance callId { call with next := .confirmRestored error }
      | .error _ => written.answers callId (.error error)
  | .confirmRestored error =>
      let restored := system.delivery.authority.confirmWorkSessionRestored call.sessionId
      (system.withAuthority restored.1).answers callId (.error error)

/-! ## Connections -/

/-- A connection with another session and the actions it asks for, or ended by its error. -/
def afterCall (system : LeaseSystem) (connectionId : String) (after : StratumSession)
    (actions : List StratumProxyAction) (reply : StratumReply) : LeaseSystem × LeaseReply :=
  match reply with
  | .error _ => ({ system with connections := system.connections.erase connectionId },
      .session reply)
  | .ok asked => ({ system with
      connections := system.connections.insert connectionId ⟨after, actions ++ asked⟩ },
      .session reply)

/-- `authenticate`, as a connection sees it: what it read is used later. -/
def read (system : LeaseSystem) (connectionId username secret : String) (nowUnixSeconds : ℕ)
    (use : AuthenticatedStratumSession → ConnectionRead) : LeaseSystem :=
  match system.registry.authenticate deps secretVerifier username secret nowUnixSeconds with
  | .ok (some authenticated) =>
      { system with reads := system.reads.insert connectionId (use authenticated) }
  | .ok none => system
  -- A failed query ends the connection.
  | .error _ => { system with connections := system.connections.erase connectionId }

/-- The part of `admit_and_run` up to the registration it reads. -/
def present (system : LeaseSystem) (connectionId subscribe subscribed authorize : String)
    (nowUnixSeconds : ℕ) : LeaseSystem :=
  match authorizationRequest deps authorize with
  | none => system
  | some (_, username, secret) =>
      system.read deps secretVerifier connectionId username secret nowUnixSeconds
        (.admission ⟨subscribe, subscribed, authorize, username, secret, nowUnixSeconds⟩)

/-- The rest of `admit_and_run`, under the authorization of the same session. -/
def establish (system : LeaseSystem) (connectionId : String)
    (maybeUpstream : Option StratumUpstreamAuthorization) : LeaseSystem :=
  match system.reads.lookup connectionId with
  | some (.admission admission authenticated) =>
    let used := { system with reads := system.reads.erase connectionId }
    if maybeUpstream.any fun authorization =>
        authorization.sessionId != authenticated.sessionId then used
    else match StratumSession.establish deps admission authenticated maybeUpstream with
      | none => used
      | some session =>
          { used with connections := used.connections.insert connectionId ⟨session, []⟩ }
  | _ => system

/-- The read of `refresh_when_due`.  It may come at any time. -/
def refresh (system : LeaseSystem) (connectionId : String) (nowUnixMilliseconds : ℕ) :
    LeaseSystem :=
  match system.connections.lookup connectionId with
  | none => system
  | some connection =>
      system.read deps secretVerifier connectionId connection.session.config.username
        connection.session.config.secret (nowUnixMilliseconds / 1000) .refresh

/-- One call of a connection that has executed its actions. -/
def callSession (system : LeaseSystem) (connectionId : String) (call : StratumCall) :
    LeaseSystem × LeaseReply :=
  match system.connections.lookup connectionId with
  | some ⟨session, []⟩ =>
      let (after, reply) := session.step deps call
      system.afterCall connectionId after [] reply
  | _ => (system, .silent)

/-- The rest of `refresh_when_due`. -/
def renew (system : LeaseSystem) (connectionId : String) : LeaseSystem × LeaseReply :=
  match system.reads.lookup connectionId with
  | some (.refresh authenticated) =>
      ({ system with reads := system.reads.erase connectionId }).callSession deps connectionId
        (.renew authenticated)
  | _ => (system, .silent)

/-- The next action of `execute_actions`.  What the release of a token sends goes out with it,
so it is no action of its own. -/
def execute (system : LeaseSystem) (connectionId : String) (nowUnixSeconds : ℕ) :
    LeaseSystem × LeaseReply :=
  match system.connections.lookup connectionId with
  | none | some ⟨_, []⟩ => (system, .silent)
  | some ⟨session, action :: actions⟩ =>
    let ended := { system with connections := system.connections.erase connectionId }
    match action with
    | .forwardUpstream _ | .forwardWorker _ =>
        ({ system with
          connections := system.connections.insert connectionId ⟨session, actions⟩ }, .silent)
    | .reserveExtranonce token sessionId extranonce1 =>
      let reserved := registryStep deps secretVerifier system.registry
        (.reserve connectionId extranonce1 (some sessionId) nowUnixSeconds)
      match reserved.2 with
      | .done =>
          let (after, reply) := session.step deps (.extranonceReserved token)
          ({ system with registry := reserved.1 }).afterCall connectionId after actions
            (reply.map fun _ => [])
      | _ => (ended, .silent)
    | .persistAccepted token event leaseContext workerResponse =>
      let persisted := system.delivery.step deps (.persist event leaseContext workerResponse)
      let written := { system with delivery := persisted.1 }
      match persisted.2 with
      | .outbox (.persisted _) =>
          let (after, reply) := session.step deps (.acceptedPersisted token)
          written.afterCall connectionId after actions (reply.map fun _ => [])
      | _ => ({ written with connections := written.connections.erase connectionId }, .silent)

/-! ## Events -/

/-- One event. -/
def step (system : LeaseSystem) : LeaseEvent → LeaseSystem × LeaseReply
  | .startWork callId challengeId sessionId clock maybeTrustedConsent leaseId now =>
      system.startWork callId challengeId sessionId clock maybeTrustedConsent leaseId now
  | .renewWork callId challengeId sessionId leaseId clock now =>
      system.renewWork callId challengeId sessionId leaseId clock now
  | .proceed callId maybeFailure =>
      match system.calls.lookup callId with
      | none => (system, .silent)
      | some call => system.proceed deps issuer secretVerifier callId call maybeFailure
  | .abandon callId => ({ system with calls := system.calls.erase callId }, .silent)
  | .registry request =>
      ({ system with registry := (registryStep deps secretVerifier system.registry request).1 },
        .silent)
  | .present connectionId subscribe subscribed authorize now =>
      (system.present deps secretVerifier connectionId subscribe subscribed authorize now, .silent)
  | .establish connectionId maybeUpstream =>
      (system.establish deps connectionId maybeUpstream, .silent)
  | .refresh connectionId now => (system.refresh deps secretVerifier connectionId now, .silent)
  | .renew connectionId => system.renew deps connectionId
  | .workerFrame connectionId frame now =>
      system.callSession deps connectionId (.workerFrame frame now)
  | .upstreamFrame connectionId frame now =>
      system.callSession deps connectionId (.upstreamFrame frame (now / 1000))
  | .execute connectionId now => system.execute deps secretVerifier connectionId now
  | .disconnect connectionId =>
      ({ system with connections := system.connections.erase connectionId }, .silent)
  | .delivery request =>
      let after := system.delivery.step deps request
      ({ system with delivery := after.1 }, .delivery after.2)

end

end LeaseSystem

/-- The identities drawn for leases, newest first. -/
def drawnLeases : List (LeaseEvent × LeaseReply) → List String
  | [] => []
  | (.startWork _ _ _ _ _ leaseId _, _) :: earlier => leaseId :: drawnLeases earlier
  | _ :: earlier => drawnLeases earlier

/-- Whether a request of the delivery system is none of the system's own: connections record
accepted shares, and calls start and renew leases. -/
def DeliveryRequest.isForeign : DeliveryRequest → Bool
  | .persist _ _ _ => false
  | .authority request => !request.grantsLease
  | _ => true

/-- The system of leases.  `Uuid::new_v4().to_string()` draws canonical identities and none
twice; leases are started, renewed, registered and extended by the calls alone. -/
def leaseSystem (deps : Dependencies) (issuer : StratumCredentialIssuer)
    (secretVerifier : String → String) : Machine LeaseSystem LeaseEvent LeaseReply where
  init := ⟨⟨∅, AuthorityDatabase.empty, ∅⟩, ⟨∅, ∅⟩, ∅, ∅, ∅⟩
  admits := fun history _ event =>
    match event with
    | .startWork _ _ _ _ _ leaseId _ =>
        castUuid leaseId = some leaseId ∧ leaseId ∉ drawnLeases history
    | .registry request => StratumRegistry.target request = none
    | .delivery request => request.isForeign = true
    | _ => True
  step := LeaseSystem.step deps issuer secretVerifier

theorem leaseSystem_step (deps : Dependencies) (issuer : StratumCredentialIssuer)
    (secretVerifier : String → String) :
    (leaseSystem deps issuer secretVerifier).step =
      LeaseSystem.step deps issuer secretVerifier := rfl

end WorkGate
