/-
# What a recorded share proves

A session hands a share over to be recorded only when the pool has accepted it and the
session has checked it.  This module says what that means in terms of the transcript
alone: when the submission arrived, which job and target it was for, and that its
rebuilt header meets that target.
-/

import WorkGate.Stratum.Transcript

namespace WorkGate

open WorkGate.Library
open StratumSession (Effect effect_of_step)

/-! ## Accepted events -/

/-- The header a submission stands for. -/
def rebuiltHeader (deps : Dependencies) (submission : PendingSubmission) :
    Except StratumFault (Bytes 80) :=
  submittedHeader deps submission.job submission.extranonce1 submission.extranonce2
    submission.ntime submission.nonce

/-- What the event of an accepted submission is made of. -/
structure MadeFrom (deps : Dependencies) (sessionId : WorkSessionId)
    (submission : PendingSubmission) (header : Bytes 80) (event : AcceptedWorkEvent) : Prop where
  rebuilt : rebuiltHeader deps submission = .ok header
  meets : meetsAssignedTarget deps header submission.target = true
  eventId : event.eventId.text =
    "event_" ++ digestHex deps acceptedEventDomain sessionId submission.request
  shareFingerprint : event.shareFingerprint.text = "share_" ++ globalShareDigest deps header
  workSessionId : event.workSessionId = sessionId
  assignedTarget : event.assignedTarget.bytes = submission.target.data
  networkTargetOutcome : classifyNetworkTarget deps header submission.job.networkBits =
    .ok event.networkTargetOutcome

theorem OpaqueId.text_of_tryFrom {start value : String} {id : OpaqueId start}
    (h : OpaqueId.tryFrom start value = .ok id) : id.text = value := by
  simp only [OpaqueId.tryFrom] at h
  split at h
  · cases h
    rfl
  · cases h

theorem AssignedTarget.bytes_of_fromBeBytes {bytes : List UInt8} {hsize : bytes.length = 32}
    {target : AssignedTarget} (h : AssignedTarget.fromBeBytes bytes hsize = .ok target) :
    target.bytes = bytes := by
  rw [AssignedTarget.fromBeBytes] at h
  split at h
  · cases h
  · cases h
    rfl

theorem AssignedTarget.eq_of_bytes {target other : AssignedTarget}
    (h : target.bytes = other.bytes) : target = other := by
  cases target
  cases other
  cases h
  rfl

theorem acceptedEvent_eq_ok {deps : Dependencies} {session : StratumSession}
    {submission : PendingSubmission} {now : ℕ} {event : AcceptedWorkEvent}
    (h : session.acceptedEvent deps submission now = .ok event) :
    ∃ header, MadeFrom deps session.config.sessionId submission header event := by
  simp only [StratumSession.acceptedEvent, bind_eq_ok, pure_eq_ok, requireThat_eq_ok,
    liftProgress_eq_ok, mapError_eq_ok] at h
  obtain ⟨header, hheader, outcome, houtcome, _, hmeets, eventId, heventId, receivedAt, -,
    fingerprint, hfingerprint, target, htarget, rfl⟩ := h
  refine ⟨header, ?_⟩
  exact {
    rebuilt := hheader
    meets := hmeets
    eventId := OpaqueId.text_of_tryFrom heventId
    shareFingerprint := OpaqueId.text_of_tryFrom hfingerprint
    workSessionId := rfl
    assignedTarget := AssignedTarget.bytes_of_fromBeBytes htarget
    networkTargetOutcome := houtcome }

/-- A renewal never moves a connection to another Work Session. -/
theorem sessionId_configInForce (config : StratumSessionConfig) (history : Transcript) :
    (configInForce config history).sessionId = config.sessionId := by
  fun_induction configInForce config history with
  | case1 => rfl
  | case2 renewed _ earlier config' hrenewed ih =>
      rw [AuthenticatedStratumSession.renewConfig] at hrenewed
      split at hrenewed
      · cases hrenewed
      · cases hrenewed
        exact ih
  | case3 renewed _ earlier error hrefused ih => exact ih
  | case4 entry earlier _ ih => exact ih

/-- A share is handed over to be recorded only for a submission that was outstanding, as the
event made from it. -/
theorem persists_of_action {deps : Dependencies} {config : StratumSessionConfig}
    {history : Transcript} {session : StratumSession}
    (hrun : (stratumSession deps config).Run history session) {call : StratumCall}
    {actions : List StratumProxyAction} {token : AcceptedSubmissionToken}
    {event : AcceptedWorkEvent} {lease : StratumLeaseContext} {response : String}
    (hreply : (session.step deps call).2 = .ok actions)
    (hmem : .persistAccepted token event lease response ∈ actions) :
    ∃ id submission header, token = ⟨id⟩ ∧ lease = submission.leaseContext ∧
      ShareOutstanding deps config id submission history ∧
      MadeFrom deps config.sessionId submission header event := by
  have hexplained := explained_of_run hrun
  have heffect := effect_of_step deps session call
  rw [hreply] at heffect
  generalize (session.step deps call).1 = after at heffect
  cases heffect with
  | persists hread hmethod hid hrequest htrue hevent =>
      obtain ⟨header, hmade⟩ := acceptedEvent_eq_ok hevent
      rw [hexplained.inForce, sessionId_configInForce] at hmade
      simp only [List.mem_singleton, StratumProxyAction.persistAccepted.injEq] at hmem
      obtain ⟨rfl, rfl, rfl, rfl⟩ := hmem
      exact ⟨_, _, header, rfl, rfl, hexplained.outstanding _ _ hrequest, hmade⟩
  | _ => simp at hmem

/-! ## Soundness -/

/-- The moment a submission was taken up, under an extranonce of which `size` bytes were left
to the Worker. -/
structure SoundSubmission (deps : Dependencies) (config : StratumSessionConfig)
    (before : Transcript) (id : String) (now size : ℕ) (submission : PendingSubmission) :
    Prop where
  authorized : Once (Authorizes deps) before
  unexpired : now / 1000 < (configInForce config before).expiresAtUnixSeconds
  job : ∃ message params jobId, received deps submission.request = some message ∧
    messageMethod message = some "mining.submit" ∧ messageId deps message = .ok id ∧
    (message.get "params").bind Json.asArray = some params ∧
    params[1]?.bind Json.asStr = some jobId ∧ JobInForce deps jobId submission.job before ∧
    params[2]?.bind Json.asStr = some submission.extranonce2 ∧
    params[3]?.bind Json.asStr = some submission.ntime ∧
    params[4]?.bind Json.asStr = some submission.nonce
  extranonce : ExtranonceInForce deps submission.extranonce1 size before
  leaseFrom : (configInForce config before).leaseContext.lastMonotonicMilliseconds ≤
    submission.leaseContext.lastMonotonicMilliseconds
  leaseUntil : submission.leaseContext.lastMonotonicMilliseconds <
    (configInForce config before).leaseContext.expiresAtMonotonicMilliseconds

/-- An event whose header is rebuilt from the submission and meets the target the job was
announced under. -/
structure SoundEvent (deps : Dependencies) (size : ℕ) (submission : PendingSubmission)
    (event : AcceptedWorkEvent) : Prop where
  target : event.assignedTarget.bytes = submission.job.assignedTarget.data
  extranonce2 : ∃ decoded, decodeHex submission.extranonce2 = .ok decoded ∧
    decoded.length = size
  hash : ∃ header, rebuiltHeader deps submission = .ok header ∧
    (doubleSha256 deps header.data).reverse.toNat ≤ submission.job.assignedTarget.toNat

/-- What has to have happened before a share is handed over to be recorded. -/
def SoundPersistence (deps : Dependencies) (config : StratumSessionConfig) (earlier : Transcript)
    (token : AcceptedSubmissionToken) (event : AcceptedWorkEvent) (lease : StratumLeaseContext) :
    Prop :=
  ∃ between before now upstream id size submission,
    earlier = between ++ (.workerFrame submission.request now, .ok [.forwardUpstream upstream]) ::
      before ∧
    (∀ entry ∈ between, ¬ Answers deps id entry) ∧ token = ⟨id⟩ ∧
    lease = submission.leaseContext ∧
    SoundSubmission deps config before id now size submission ∧
    SoundEvent deps size submission event

/-- A header is rebuilt from an extranonce that decodes. -/
theorem decodeHex_of_submittedHeader {deps : Dependencies} {job : StratumJob}
    {extranonce1 extranonce2 ntime nonce : String} {header : Bytes 80}
    (h : submittedHeader deps job extranonce1 extranonce2 ntime nonce = .ok header) :
    ∃ decoded, decodeHex extranonce2 = .ok decoded := by
  simp only [submittedHeader, bind_eq_ok] at h
  obtain ⟨_, -, _, -, decoded, hdecoded, -⟩ := h
  exact ⟨decoded, hdecoded⟩

theorem soundEvent_of_madeFrom {deps : Dependencies} {sessionId : WorkSessionId}
    {submission : PendingSubmission} {header : Bytes 80} {event : AcceptedWorkEvent} {size : ℕ}
    (hmade : MadeFrom deps sessionId submission header event)
    (htarget : submission.target = submission.job.assignedTarget)
    (hsize : (asBytes submission.extranonce2).length = size * 2) :
    SoundEvent deps size submission event where
  target := by rw [hmade.assignedTarget, htarget]
  extranonce2 := by
    obtain ⟨decoded, hdecoded⟩ := decodeHex_of_submittedHeader hmade.rebuilt
    have hlength := length_decodeHex hdecoded
    exact ⟨decoded, hdecoded, by omega⟩
  hash := ⟨header, hmade.rebuilt, by
    rw [← htarget]
    exact meetsAssignedTarget_iff.mp hmade.meets⟩

/-- Every share handed over to be recorded was submitted under an authorization and before
expiry, for a job still standing, and meets the target that job was announced under. -/
theorem persistAccepted_sound {deps : Dependencies} {config : StratumSessionConfig}
    {history : Transcript} {session : StratumSession}
    (hrun : (stratumSession deps config).Run history session) :
    Always (fun earlier entry => ∀ actions token event lease response,
      entry.2 = .ok actions → .persistAccepted token event lease response ∈ actions →
        SoundPersistence deps config earlier token event lease) history := by
  refine hrun.always ?_
  intro earlier before call hprior _ actions token event lease response hreply hmem
  obtain ⟨id, submission, header, rfl, rfl, hshare, hmade⟩ :=
    persists_of_action hprior hreply hmem
  obtain ⟨between, entry, start, rfl, hsubmits, hbetween⟩ := since_iff.mp hshare
  cases hsubmits with
  | @intro jobId upstream now size message params hread hmethod hid hparams hjobId hextranonce2
      hntime hnonce hauthorized hexpiry hjob htarget hextranonce hsize hlease =>
      obtain ⟨hfrom, huntil, -⟩ := StratumLeaseContext.advancedByWallClock_eq_ok hlease
      refine ⟨between, start, now, upstream, id, size, submission, rfl, hbetween, rfl, rfl, ?_,
        soundEvent_of_madeFrom hmade htarget hsize⟩
      exact {
        authorized := hauthorized
        unexpired := hexpiry
        job := ⟨message, params, jobId, hread, hmethod, hid, hparams, hjobId, hjob, hextranonce2,
          hntime, hnonce⟩
        extranonce := hextranonce
        leaseFrom := hfrom
        leaseUntil := huntil }

/-! ## A transcript -/

/-- Bytes written as hexadecimal text. -/
def bytesOfHex (text : String) : List UInt8 := (decodeHex text).toOption.getD []

def subscribeFrame : String := "\x7b\"id\":1,\"method\":\"mining.subscribe\",\"params\":[]\x7d"

def subscribedFrame : String := "\x7b\"id\":1,\"result\":[[],\"aabb\",2]\x7d"

def authorizeFrame : String :=
  "\x7b\"id\":2,\"method\":\"mining.authorize\",\"params\":[\"w\",\"s\"]\x7d"

def authorizedFrame : String := "\x7b\"id\":2,\"result\":true\x7d"

def difficultyFrame : String := "\x7b\"method\":\"mining.set_difficulty\",\"params\":[1e-10]\x7d"

/-- A `mining.notify` of the job "j", on top of a block whose hash repeats one digit. -/
def notifyFrame (digit : Char) : String :=
  "\x7b\"method\":\"mining.notify\",\"params\":[\"j\",\"" ++
    String.ofList (List.replicate 64 digit) ++
    "\",\"01000000\",\"00\",[],\"20000000\",\"1d00ffff\",\"5f5e1000\",true]\x7d"

/-- A `mining.submit` for the job "j" under the id 4. -/
def submitFrame (nonce : String) : String :=
  "\x7b\"id\":4,\"method\":\"mining.submit\",\"params\":[\"w\",\"j\",\"0001\",\"5f5e1000\",\"" ++
    nonce ++ "\"]\x7d"

def acceptedFrame : String := "\x7b\"id\":4,\"result\":true\x7d"

/-- The frames above as they parse. -/
def sampleTexts : List (String × Json) :=
  let notify : Char → Json := fun digit => .object [("method", .string "mining.notify"),
    ("params", .array [.string "j", .string (String.ofList (List.replicate 64 digit)),
      .string "01000000", .string "00", .array [], .string "20000000", .string "1d00ffff",
      .string "5f5e1000", .bool true])]
  let submit : String → Json := fun nonce => .object [("id", .number (.posInt 4)),
    ("method", .string "mining.submit"), ("params", .array [.string "w", .string "j",
      .string "0001", .string "5f5e1000", .string nonce])]
  [(subscribeFrame, .object [("id", .number (.posInt 1)),
      ("method", .string "mining.subscribe"), ("params", .array [])]),
    (subscribedFrame, .object [("id", .number (.posInt 1)),
      ("result", .array [.array [], .string "aabb", .number (.posInt 2)])]),
    (authorizeFrame, .object [("id", .number (.posInt 2)),
      ("method", .string "mining.authorize"), ("params", .array [.string "w", .string "s"])]),
    (authorizedFrame, .object [("id", .number (.posInt 2)), ("result", .bool true)]),
    (difficultyFrame, .object [("method", .string "mining.set_difficulty"),
      ("params", .array [.number (.float "1e-10")])]),
    (notifyFrame '0', notify '0'), (notifyFrame '1', notify '1'),
    (submitFrame "00000000", submit "00000000"), (submitFrame "00000001", submit "00000001"),
    (acceptedFrame, .object [("id", .number (.posInt 4)), ("result", .bool true)])]

/-- The merkle root of the sample coinbase. -/
def sampleRoot : String := "263984ef942f25d63d0e5423c125c3e90809384f7b83b85ca0d616d6153d8974"

/-- A header of the sample, under a previous block whose hash repeats one byte. -/
def sampleHeader (previous : UInt8) (nonce : List UInt8) : List UInt8 :=
  [0, 0, 0, 32] ++ List.replicate 32 previous ++ bytesOfHex sampleRoot ++ [0, 16, 94, 95] ++
    [255, 255, 0, 29] ++ nonce

/-- The digests the frames above need, as SHA-256 has them. -/
def sampleDigests : List (List UInt8 × List UInt8) :=
  let coinbase := "871e068fb4b973a9b426992e9fb76f0d7922aa682620890451778c6bf0fc1096"
  let eventInput : String → List UInt8 := fun nonce =>
    acceptedEventDomain ++ asBytes "session_1" ++ [0] ++ asBytes (submitFrame nonce)
  let shareInput : List UInt8 → List UInt8 := fun header =>
    asBytes "BWG/0.1 Stratum share fingerprint\x00" ++ header
  let digest : List UInt8 → String → List UInt8 × List UInt8 := fun input output =>
    (input, bytesOfHex output)
  [digest (bytesOfHex "01000000aabb000100") coinbase,
    digest (bytesOfHex coinbase) sampleRoot,
    digest (sampleHeader 0 [0, 0, 0, 0])
      "415fe83b1673b6060b76baa2ff7229c7c3c11ce597bcfaffcd6c837981d37c30",
    digest (bytesOfHex "415fe83b1673b6060b76baa2ff7229c7c3c11ce597bcfaffcd6c837981d37c30")
      "571820a175bff65d1bb9146dc668bbca9ed68c0e11073e27422abc66023fe222",
    digest (shareInput (sampleHeader 0 [0, 0, 0, 0]))
      "852d1a35069c05d54966fcf5b9a40c6480ed96adaee5d137f9a7703f4a36ffad",
    digest (sampleHeader 0 [1, 0, 0, 0])
      "beeb1a8706d874b18972b12db76cf58ad83b8bd450ac5a94a8637312431cd894",
    digest (bytesOfHex "beeb1a8706d874b18972b12db76cf58ad83b8bd450ac5a94a8637312431cd894")
      "bc43a40bc5d02a0053b683fcd2dcf34ffdbaf6a52ab64a0947685729c071f0d2",
    digest (shareInput (sampleHeader 0 [1, 0, 0, 0]))
      "8ba70fe074d1e07c9f408ea84a727b094fc2444f11f6cda5b84d1d076fc8bc7f",
    digest (sampleHeader 17 [0, 0, 0, 0])
      "4e741a386e3c925ba9d45ecc55cb0eab1cf20e11b80b98aea3b9b1e5796cd9d6",
    digest (bytesOfHex "4e741a386e3c925ba9d45ecc55cb0eab1cf20e11b80b98aea3b9b1e5796cd9d6")
      "5153d663aca13196f32ec895a54bc522ef906f309d7b4c318ce61084f6a6012d",
    digest (shareInput (sampleHeader 17 [0, 0, 0, 0]))
      "f3d78a9dc7e2d6d27554baecbbeb4c655570bcf101b472e5cade26018e5c6e8c",
    digest (eventInput "00000000")
      "ebe7f39301f27e6827b784a92632dd0dd723736e9694b81f6aea4ab4eb5c073f",
    digest (eventInput "00000001")
      "3b8bfc46109a1ea221e7fbc3ab8c1081ad9285376bf5060d253ddfcc8cd7a1bd"]

/-- The libraries, as far as the frames above need them. -/
def sampleDependencies : Dependencies :=
  .ofTables sampleTexts ["00000000-0000-4000-8000-000000000000"] sampleDigests

/-- The configuration of the sample connection. -/
def sampleConfig : StratumSessionConfig where
  sessionId := ⟨"session_1", validSession_1⟩
  leaseContext := ⟨"00000000-0000-4000-8000-000000000000", "boot", 15, 20, 60000, by decide⟩
  username := "w"
  secret := "s"
  upstreamUsername := "w"
  upstreamSecret := "s"
  issuedAtUnixMilliseconds := 10000
  expiresAtUnixSeconds := 100

/-- A connection up to its first submission under a job: subscribed, authorized and given a
difficulty. -/
def openingCalls : List StratumCall :=
  [.workerFrame subscribeFrame 11000, .upstreamFrame subscribedFrame 11,
    .extranonceReserved ⟨"1"⟩, .workerFrame authorizeFrame 12000,
    .upstreamFrame authorizedFrame 12, .upstreamFrame difficultyFrame 13]

/-- A job, a submission for it and its acceptance. -/
def shareCalls (digit : Char) (nonce : String) : List StratumCall :=
  [.upstreamFrame (notifyFrame digit) 14, .workerFrame (submitFrame nonce) 15000,
    .upstreamFrame acceptedFrame 16]

/-- The sample connection. -/
abbrev sampleSession : Machine StratumSession StratumCall StratumReply :=
  stratumSession sampleDependencies sampleConfig

/-- Whether a reply hands a share over to be recorded. -/
def handsOver : StratumReply → Bool
  | .ok [.persistAccepted _ _ _ _] => true
  | _ => false

/-- A subscription, an authorization, a job, a submission and its acceptance. -/
def acceptedShareCalls : List StratumCall := openingCalls ++ shareCalls '0' "00000000"

theorem acceptedShare_sound :
    (sampleSession.replay acceptedShareCalls).1.head?.any (fun entry => handsOver entry.2) = true ∧
      Always (fun earlier entry => ∀ actions token event lease response,
        entry.2 = .ok actions → .persistAccepted token event lease response ∈ actions →
          SoundPersistence sampleDependencies sampleConfig earlier token event lease)
        (sampleSession.replay acceptedShareCalls).1 := by
  have hfacts : sampleSession.AdmitsAll ([], .start sampleConfig) acceptedShareCalls ∧
      (sampleSession.replay acceptedShareCalls).1.head?.any
        (fun entry => handsOver entry.2) = true := by
    decide +kernel
  exact ⟨hfacts.2, persistAccepted_sound (Machine.run_replay acceptedShareCalls hfacts.1)⟩

end WorkGate
