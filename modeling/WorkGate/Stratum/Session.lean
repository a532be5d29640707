/-
# The Stratum session (src/stratum_v1.rs)

One Worker's transcript with a pool.  The session sees every frame of both sides and
says what to do with it: pass it on, or first have an extranonce reserved or an accepted
share recorded.  A refused Worker frame leaves the session as it was; an upstream frame
may have changed it before it fails, as the source does.
-/

import WorkGate.Library.Machine
import WorkGate.Library.Rows
import WorkGate.Stratum.Target

namespace WorkGate

open WorkGate.Library

/-- `MAXIMUM_STRATUM_FRAME_BYTES`. -/
def maximumStratumFrameBytes : ℕ := 16 * 1024

/-- `MAXIMUM_OUTSTANDING_REQUESTS`. -/
def maximumOutstandingRequests : ℕ := 64

/-- `MAXIMUM_RETAINED_JOBS`. -/
def maximumRetainedJobs : ℕ := 64

/-- Opaque handle released only after one accepted submission is durably recorded. -/
structure AcceptedSubmissionToken where
  text : String
  deriving DecidableEq

/-- Opaque handle released only after one upstream extranonce is globally reserved. -/
structure ExtranonceReservationToken where
  text : String
  deriving DecidableEq

/-- One effect requested by the session. -/
inductive StratumProxyAction
  | forwardUpstream (frame : String)
  | forwardWorker (frame : String)
  | reserveExtranonce (token : ExtranonceReservationToken) (sessionId : WorkSessionId)
      (extranonce1 : String)
  | persistAccepted (token : AcceptedSubmissionToken) (event : AcceptedWorkEvent)
      (leaseContext : StratumLeaseContext) (workerResponse : String)
  deriving DecidableEq

/-- A submission waiting for the pool's answer. -/
structure PendingSubmission where
  request : String
  job : StratumJob
  extranonce1 : String
  extranonce2 : String
  ntime : String
  nonce : String
  target : Bytes 32
  leaseContext : StratumLeaseContext

/-- A subscription answer waiting for its extranonce to be reserved. -/
structure PendingExtranonce where
  response : String
  extranonce1 : String
  extranonce2Size : ℕ

inductive OutstandingRequest
  | subscribe
  | authorize
  | submit (submission : PendingSubmission)
  | passthrough

/-- Stateful standard Stratum V1 transcript. -/
structure StratumSession where
  config : StratumSessionConfig
  authorized : Bool
  maybeCurrentTarget : Option (Bytes 32)
  jobs : Rows String StratumJob
  outstandingRequests : Rows String OutstandingRequest
  awaitingPersistence : Rows AcceptedSubmissionToken String
  awaitingExtranonce : Rows ExtranonceReservationToken PendingExtranonce
  maybeExtranonce1 : Option String
  maybeExtranonce2Size : Option ℕ

/-- A value that must be there. -/
def orFault {α : Type} (failure : StratumV1Error) : Option α → Except StratumFault α
  | some value => .ok value
  | none => .error (.error failure)

/-- A test that must hold. -/
def requireThat (failure : StratumV1Error) (test : Bool) : Except StratumFault Unit :=
  if test then .ok () else .error (.error failure)

/-- `parse_object`. -/
def parseObject (deps : Dependencies) (frame : String) : Except StratumFault JsonMap :=
  orFault .invalidFrame ((deps.fromStr frame).bind Json.asObject)

/-- `message_id`: the identity of a message is its JSON text. -/
def messageId (deps : Dependencies) (message : JsonMap) : Except StratumFault String :=
  match message.get "id" with
  | none | some .null => .error (.error .invalidFrame)
  | some id => .ok (deps.toStr id)

/-- The string method of a message. -/
def messageMethod (message : JsonMap) : Option String := (message.get "method").bind Json.asStr

/-- A message with other parameters. -/
def setParams (message : JsonMap) (params : List Json) : JsonMap :=
  message.map fun field => if field.1 = "params" then (field.1, .array params) else field

/-- `rewrite_upstream_identity`. -/
def rewriteUpstreamIdentity (deps : Dependencies) (message : JsonMap) (username : String)
    (maybeSecret : Option String) : Except StratumFault String := do
  match ← orFault .invalidFrame ((message.get "params").bind Json.asArray) with
  | [] => .error (.error .invalidFrame)
  | _ :: rest =>
    match maybeSecret with
    | none => .ok (deps.toStr (.object (setParams message (.string username :: rest))))
    | some secret =>
      match rest with
      | [] => .error (.error .invalidFrame)
      | _ :: rest =>
        .ok (deps.toStr (.object (setParams message (.string username :: .string secret :: rest))))

/-- The answer to an authorization under other credentials. -/
def rejectionFrame (id : String) : String :=
  "\x7b\"id\":" ++ id ++ ",\"result\":false,\"error\":null\x7d"

/-- `digest_hex`. -/
def digestHex (deps : Dependencies) (domain : List UInt8) (sessionId : WorkSessionId)
    (request : String) : String :=
  Hex.encode (deps.sha256 (domain ++ asBytes sessionId.text ++ [0] ++ asBytes request))

/-- `global_share_digest`. -/
def globalShareDigest (deps : Dependencies) (header : Bytes 80) : String :=
  Hex.encode (deps.sha256 (asBytes "BWG/0.1 Stratum share fingerprint\x00" ++ header.data))

/-- The domain of the identities of accepted events. -/
def acceptedEventDomain : List UInt8 := asBytes "BWG/0.1 accepted Stratum submission event\x00"

/-- A failed conversion of the progress module. -/
def liftProgress {α : Type} (result : Except ProgressError α) : Except StratumFault α :=
  result.mapError fun error => .error (.progress error)

/-- What becomes of a Worker frame. -/
inductive WorkerVerdict
  | rejected (frame : String)
  | admitted (upstreamFrame : String) (maybeRequest : Option OutstandingRequest)

namespace StratumSession

/-- `StratumSession::new`, for a configuration that passed its checks. -/
def start (config : StratumSessionConfig) : StratumSession where
  config := config
  authorized := false
  maybeCurrentTarget := none
  jobs := ∅
  outstandingRequests := ∅
  awaitingPersistence := ∅
  awaitingExtranonce := ∅
  maybeExtranonce1 := none
  maybeExtranonce2Size := none

/-- `require_unexpired`. -/
def requireUnexpired (session : StratumSession) (nowUnixSeconds : ℕ) : Except StratumFault Unit :=
  requireThat .expiredCredentials (nowUnixSeconds < session.config.expiresAtUnixSeconds)

/-- The branch of `mining.authorize`. -/
def authorizeVerdict (deps : Dependencies) (session : StratumSession) (message : JsonMap)
    (frame : String) : Except StratumFault WorkerVerdict := do
  let params ← orFault .invalidFrame ((message.get "params").bind Json.asArray)
  if params[0]?.bind Json.asStr ≠ some session.config.username ∨
      params[1]?.bind Json.asStr ≠ some session.config.secret then
    let id ← messageId deps message
    return .rejected (rejectionFrame id)
  else if session.config.upstreamUsername ≠ session.config.username ∨
      session.config.upstreamSecret ≠ session.config.secret then
    let rewritten ← rewriteUpstreamIdentity deps message session.config.upstreamUsername
      (some session.config.upstreamSecret)
    return .admitted rewritten (some .authorize)
  else return .admitted frame (some .authorize)

/-- A submission as the pool is to see it. -/
def submitUpstreamFrame (deps : Dependencies) (session : StratumSession) (message : JsonMap)
    (frame : String) : Except StratumFault String :=
  if session.config.upstreamUsername ≠ session.config.username then
    rewriteUpstreamIdentity deps message session.config.upstreamUsername none
  else .ok frame

/-- The branch of `mining.submit`. -/
def submitVerdict (deps : Dependencies) (session : StratumSession) (message : JsonMap)
    (frame : String) (nowUnixMilliseconds : ℕ) : Except StratumFault WorkerVerdict := do
  requireThat .authorizationRequired session.authorized
  let _ ← orFault .targetRequired session.maybeCurrentTarget
  let extranonce1 ← orFault .invalidExtranonce session.maybeExtranonce1
  let extranonce2Size ← orFault .invalidExtranonce session.maybeExtranonce2Size
  let params ← orFault .invalidFrame ((message.get "params").bind Json.asArray)
  requireThat .invalidCredentials (params[0]?.bind Json.asStr == some session.config.username)
  requireThat .unknownJob (params.length == 5)
  let jobId ← orFault .unknownJob (params[1]?.bind Json.asStr)
  let job ← orFault .unknownJob (session.jobs.lookup jobId)
  let extranonce2 ← orFault .invalidFrame (params[2]?.bind Json.asStr)
  requireThat .invalidExtranonce ((asBytes extranonce2).length == extranonce2Size * 2)
  let ntime ← orFault .invalidFrame (params[3]?.bind Json.asStr)
  let nonce ← orFault .invalidFrame (params[4]?.bind Json.asStr)
  let upstreamFrame ← session.submitUpstreamFrame deps message frame
  let leaseContext ← (session.config.leaseContext.advancedByWallClock
    session.config.issuedAtUnixMilliseconds nowUnixMilliseconds).mapError .error
  return .admitted upstreamFrame (some (.submit {
    request := frame
    job
    extranonce1
    extranonce2
    ntime
    nonce
    target := job.assignedTarget
    leaseContext }))

/-- What a Worker frame asks for, by its method. -/
def workerVerdict (deps : Dependencies) (session : StratumSession) (message : JsonMap)
    (frame : String) (nowUnixMilliseconds : ℕ) : Except StratumFault WorkerVerdict :=
  match messageMethod message with
  | none => .ok (.admitted frame none)
  | some method =>
      if method = "mining.subscribe" then .ok (.admitted frame (some .subscribe))
      else if method = "mining.authorize" then session.authorizeVerdict deps message frame
      else if method = "mining.submit" then
        session.submitVerdict deps message frame nowUnixMilliseconds
      else .ok (.admitted frame (some .passthrough))

/-- A request retained until its response, under the identity of its message. -/
def retainRequest (deps : Dependencies) (session : StratumSession) (message : JsonMap)
    (request : OutstandingRequest) : Except StratumFault StratumSession := do
  let id ← messageId deps message
  requireThat .duplicateRequestId (decide (id ∉ session.outstandingRequests))
  requireThat .capacityExceeded
    (decide (session.outstandingRequests.keys.length < maximumOutstandingRequests))
  return { session with outstandingRequests := session.outstandingRequests.insert id request }

/-- `worker_frame_at`, as the session it leaves when it succeeds. -/
def admitWorkerFrame (deps : Dependencies) (session : StratumSession) (frame : String)
    (nowUnixMilliseconds : ℕ) : Except StratumFault (StratumSession × List StratumProxyAction) := do
  session.requireUnexpired (nowUnixMilliseconds / 1000)
  requireThat .frameTooLarge (decide ((asBytes frame).length ≤ maximumStratumFrameBytes))
  let message ← parseObject deps frame
  match ← session.workerVerdict deps message frame nowUnixMilliseconds with
  | .rejected answer => return (session, [.forwardWorker answer])
  | .admitted upstreamFrame none => return (session, [.forwardUpstream upstreamFrame])
  | .admitted upstreamFrame (some request) =>
      let retained ← session.retainRequest deps message request
      return (retained, [.forwardUpstream upstreamFrame])

/-- `worker_frame_at`: a refused frame changes nothing. -/
def workerFrameAt (deps : Dependencies) (session : StratumSession) (frame : String)
    (nowUnixMilliseconds : ℕ) : StratumSession × Except StratumFault (List StratumProxyAction) :=
  match session.admitWorkerFrame deps frame nowUnixMilliseconds with
  | .error fault => (session, .error fault)
  | .ok (after, actions) => (after, .ok actions)

/-! ## Upstream frames -/

/-- The job a `mining.notify` announces, under the target in force. -/
def notifiedJob (session : StratumSession) (params : List Json) :
    Except StratumFault StratumJob := do
  let branches ← orFault .invalidFrame (params[4]?.bind Json.asArray)
  let merkleBranches ← orFault .invalidFrame (branches.mapM Json.asStr)
  let previousBlockHash ← orFault .invalidFrame (params[1]?.bind Json.asStr)
  let coinbasePrefix ← orFault .invalidFrame (params[2]?.bind Json.asStr)
  let coinbaseSuffix ← orFault .invalidFrame (params[3]?.bind Json.asStr)
  let version ← orFault .invalidFrame (params[5]?.bind Json.asStr)
  let networkBits ← orFault .invalidFrame (params[6]?.bind Json.asStr)
  let assignedTarget ← orFault .targetRequired session.maybeCurrentTarget
  return {
    previousBlockHash
    coinbasePrefix
    coinbaseSuffix
    merkleBranches
    version
    networkBits
    assignedTarget }

/-- What a `mining.notify` names: its parameters, its job and whether it clears the others. -/
def notifyParams (message : JsonMap) : Except StratumFault (List Json × String × Bool) := do
  let params ← orFault .invalidFrame ((message.get "params").bind Json.asArray)
  let jobId ← orFault .invalidFrame (params[0]?.bind Json.asStr)
  let cleanJobs ← orFault .invalidFrame (params[8]?.bind Json.asBool)
  return (params, jobId, cleanJobs)

/-- The branch of `mining.notify`.  Clearing the jobs stands even where the new one is
refused. -/
def notify (session : StratumSession) (message : JsonMap) :
    StratumSession × Except StratumFault Unit :=
  match notifyParams message with
  | .error fault => (session, .error fault)
  | .ok (params, jobId, cleanJobs) =>
    let cleared := if cleanJobs then { session with jobs := ∅ } else session
    if jobId ∉ cleared.jobs ∧ cleared.jobs.keys.length ≥ maximumRetainedJobs then
      (cleared, .error (.error .capacityExceeded))
    else match cleared.notifiedJob params with
      | .error fault => (cleared, .error fault)
      | .ok job => ({ cleared with jobs := cleared.jobs.insert jobId job }, .ok ())

/-- The branch of `mining.set_difficulty`. -/
def setDifficulty (session : StratumSession) (message : JsonMap) :
    StratumSession × Except StratumFault Unit :=
  match orFault .unsupportedDifficulty
      (((message.get "params").bind Json.asArray).bind fun params => params[0]?) with
  | .error fault => (session, .error fault)
  | .ok difficulty =>
    match targetForDifficulty difficulty with
    | .error fault => (session, .error fault)
    | .ok target => ({ session with maybeCurrentTarget := some target }, .ok ())

/-- An upstream frame with a method, which is always passed on. -/
def upstreamNotification (session : StratumSession) (message : JsonMap) (method frame : String)
    (nowUnixSeconds : ℕ) : StratumSession × Except StratumFault (List StratumProxyAction) :=
  match session.requireUnexpired nowUnixSeconds with
  | .error fault => (session, .error fault)
  | .ok () =>
    let after :=
      if method = "mining.set_difficulty" then session.setDifficulty message
      else if method = "mining.notify" then session.notify message
      else (session, .ok ())
    (after.1, after.2.map fun _ => [.forwardWorker frame])

/-- The answer to a subscription: its extranonce is reserved before the Worker sees it. -/
def subscribeResponse (session : StratumSession) (message : JsonMap) (frame id : String) :
    StratumSession × Except StratumFault (List StratumProxyAction) :=
  let maybeResult := (message.get "result").bind Json.asArray
  match (maybeResult.bind fun result => result[1]?).bind Json.asStr with
  | none => (session, .ok [.forwardWorker frame])
  | some extranonce1 =>
    match ((maybeResult.bind fun result => result[2]?).bind Json.asU64).filter
        fun size => 1 ≤ size ∧ size ≤ 32 with
    | none => (session, .error (.error .invalidExtranonce))
    | some extranonce2Size =>
      let token : ExtranonceReservationToken := ⟨id⟩
      let pending : PendingExtranonce := ⟨frame, extranonce1, extranonce2Size⟩
      ({ session with awaitingExtranonce := session.awaitingExtranonce.insert token pending },
        .ok [.reserveExtranonce token session.config.sessionId extranonce1])

/-- The event an accepted submission becomes, once its header has been rebuilt and checked. -/
def acceptedEvent (deps : Dependencies) (session : StratumSession)
    (submission : PendingSubmission) (nowUnixSeconds : ℕ) :
    Except StratumFault AcceptedWorkEvent := do
  let header ← submittedHeader deps submission.job submission.extranonce1 submission.extranonce2
    submission.ntime submission.nonce
  let networkTargetOutcome ← classifyNetworkTarget deps header submission.job.networkBits
  requireThat .shareBelowAssignedTarget (meetsAssignedTarget deps header submission.target)
  let eventId ← liftProgress (OpaqueId.tryFrom "event_"
    ("event_" ++ digestHex deps acceptedEventDomain session.config.sessionId submission.request))
  let receivedAt ← liftProgress (ReceiptTime.tryFrom nowUnixSeconds)
  let shareFingerprint ← liftProgress
    (OpaqueId.tryFrom "share_" ("share_" ++ globalShareDigest deps header))
  let assignedTarget ← liftProgress ((AssignedTarget.fromBeBytes submission.target.data
    submission.target.length_data).mapError .invalidWork)
  return {
    eventId
    workSessionId := session.config.sessionId
    assignedTarget
    receivedAt
    shareFingerprint
    networkTargetOutcome
    maybeWorkerReport := none }

/-- The answer to a submission: an acceptance is recorded before the Worker sees it. -/
def submitResponse (deps : Dependencies) (session : StratumSession) (message : JsonMap)
    (frame id : String) (submission : PendingSubmission) (nowUnixSeconds : ℕ) :
    StratumSession × Except StratumFault (List StratumProxyAction) :=
  if !message.reportsTrue then (session, .ok [.forwardWorker frame])
  else match session.acceptedEvent deps submission nowUnixSeconds with
    | .error fault => (session, .error fault)
    | .ok event =>
      let token : AcceptedSubmissionToken := ⟨id⟩
      ({ session with awaitingPersistence := session.awaitingPersistence.insert token frame },
        .ok [.persistAccepted token event submission.leaseContext frame])

/-- An upstream frame without a method.  Its request is no longer outstanding, whatever
becomes of the answer. -/
def upstreamResponse (deps : Dependencies) (session : StratumSession) (message : JsonMap)
    (frame : String) (nowUnixSeconds : ℕ) :
    StratumSession × Except StratumFault (List StratumProxyAction) :=
  match messageId deps message with
  | .error fault => (session, .error fault)
  | .ok id =>
    match session.outstandingRequests.lookup id with
    | none => (session, .ok [.forwardWorker frame])
    | some request =>
      let answered := { session with outstandingRequests := session.outstandingRequests.erase id }
      match request with
      | .subscribe => answered.subscribeResponse message frame id
      | .authorize => ({ answered with authorized := answered.authorized || message.reportsTrue },
          .ok [.forwardWorker frame])
      | .submit submission =>
          answered.submitResponse deps message frame id submission nowUnixSeconds
      | .passthrough => (answered, .ok [.forwardWorker frame])

/-- `upstream_frame`. -/
def upstreamFrame (deps : Dependencies) (session : StratumSession) (frame : String)
    (nowUnixSeconds : ℕ) : StratumSession × Except StratumFault (List StratumProxyAction) :=
  if (asBytes frame).length > maximumStratumFrameBytes then
    (session, .error (.error .frameTooLarge))
  else match parseObject deps frame with
    | .error fault => (session, .error fault)
    | .ok message =>
      match messageMethod message with
      | some method => session.upstreamNotification message method frame nowUnixSeconds
      | none => session.upstreamResponse deps message frame nowUnixSeconds

/-! ## Releases -/

/-- `accepted_persisted`. -/
def acceptedPersisted (session : StratumSession) (token : AcceptedSubmissionToken) :
    StratumSession × Except StratumFault (List StratumProxyAction) :=
  match session.awaitingPersistence.lookup token with
  | none => (session, .error (.error .unknownPersistenceToken))
  | some response =>
      ({ session with awaitingPersistence := session.awaitingPersistence.erase token },
        .ok [.forwardWorker response])

/-- `extranonce_reserved`. -/
def extranonceReserved (session : StratumSession) (token : ExtranonceReservationToken) :
    StratumSession × Except StratumFault (List StratumProxyAction) :=
  match session.awaitingExtranonce.lookup token with
  | none => (session, .error (.error .unknownExtranonceToken))
  | some pending =>
      ({ session with
        awaitingExtranonce := session.awaitingExtranonce.erase token
        maybeExtranonce1 := some pending.extranonce1
        maybeExtranonce2Size := some pending.extranonce2Size },
        .ok [.forwardWorker pending.response])

/-- `renew`. -/
def renew (session : StratumSession) (renewed : AuthenticatedStratumSession) :
    StratumSession × Except StratumFault (List StratumProxyAction) :=
  match renewed.renewConfig session.config with
  | .error error => (session, .error (.error error))
  | .ok config => ({ session with config }, .ok [])

end StratumSession

/-- The calls a session takes. -/
inductive StratumCall
  | workerFrame (frame : String) (nowUnixMilliseconds : ℕ)
  | upstreamFrame (frame : String) (nowUnixSeconds : ℕ)
  | acceptedPersisted (token : AcceptedSubmissionToken)
  | extranonceReserved (token : ExtranonceReservationToken)
  | renew (renewed : AuthenticatedStratumSession)

/-- What a call returns. -/
abbrev StratumReply := Except StratumFault (List StratumProxyAction)

/-- One call. -/
def StratumSession.step (deps : Dependencies) (session : StratumSession) :
    StratumCall → StratumSession × StratumReply
  | .workerFrame frame now => session.workerFrameAt deps frame now
  | .upstreamFrame frame now => session.upstreamFrame deps frame now
  | .acceptedPersisted token => session.acceptedPersisted token
  | .extranonceReserved token => session.extranonceReserved token
  | .renew renewed => session.renew renewed

/-- A session under any calls, up to a panic. -/
def stratumSession (deps : Dependencies) (config : StratumSessionConfig) :
    Machine StratumSession StratumCall StratumReply where
  init := .start config
  admits := fun history _ _ => ∀ entry ∈ history, entry.2 ≠ .error .panic
  step := StratumSession.step deps

instance (deps : Dependencies) (config : StratumSessionConfig)
    (history : List (StratumCall × StratumReply)) (session : StratumSession) (call : StratumCall) :
    Decidable ((stratumSession deps config).admits history session call) :=
  inferInstanceAs (Decidable (∀ entry ∈ history, entry.2 ≠ .error .panic))

end WorkGate
