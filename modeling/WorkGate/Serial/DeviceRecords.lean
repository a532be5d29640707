/-
# Device evidence (web/worker-v2-serial.ts, web/worker-v2-serial.types.ts,
web/worker-noise-diagnostic-values.ts)

What the device reports of one attempt: events, timings, shares, failures and resources, each with
the device's own times where its clock could be read.  A record is read field by field and is then
checked as a whole.
-/

import WorkGate.Library.Results
import WorkGate.Serial.Records
import WorkGate.Worker.Possession

namespace WorkGate

open WorkGate.Library

/-! ## Words -/

/-- `Stage`. -/
inductive V2Stage
  | admitted | preparing | connected | authenticated | setup | channel | job | target | workReady
  | socketClosed | workerQuiescent | asicDispatch | nonce | submission | accepted | revoked
  | shutdown | cooled
  deriving DecidableEq

/-- `V2_STAGES`. -/
def v2Stages : List (String × V2Stage) :=
  [("admitted", .admitted), ("preparing", .preparing), ("connected", .connected),
    ("authenticated", .authenticated), ("setup", .setup), ("channel", .channel), ("job", .job),
    ("target", .target), ("work_ready", .workReady), ("socket_closed", .socketClosed),
    ("worker_quiescent", .workerQuiescent), ("asic_dispatch", .asicDispatch), ("nonce", .nonce),
    ("submission", .submission), ("accepted", .accepted), ("revoked", .revoked),
    ("shutdown", .shutdown), ("cooled", .cooled)]

/-- The stages of a share on its way to the pool. -/
def V2Stage.isWork (stage : V2Stage) : Bool :=
  [V2Stage.asicDispatch, .nonce, .submission, .accepted].contains stage

/-- `Operation`. -/
inductive V2Operation
  | initiatorConstruction | actOneConstruction | connect | actOneWrite | actTwoRead
  | actTwoAuthentication | frameEncrypt | frameWrite | frameRead | headerDecrypt | payloadDecrypt
  | socketClose | workerJoin
  deriving DecidableEq

/-- `V2_OPERATIONS`. -/
def v2Operations : List (String × V2Operation) :=
  [("initiator_construction", .initiatorConstruction),
    ("act_one_construction", .actOneConstruction), ("connect", .connect),
    ("act_one_write", .actOneWrite), ("act_two_read", .actTwoRead),
    ("act_two_authentication", .actTwoAuthentication), ("frame_encrypt", .frameEncrypt),
    ("frame_write", .frameWrite), ("frame_read", .frameRead), ("header_decrypt", .headerDecrypt),
    ("payload_decrypt", .payloadDecrypt), ("socket_close", .socketClose),
    ("worker_join", .workerJoin)]

/-- `FailureCategory`. -/
inductive V2FailureCategory
  | admission | clock | allocation | authority | timeout | eof | extra | authentication | protocol
  | channelMismatch | jobMismatch | invalidNonce | rejectedShare | safety | cleanup | evidence
  deriving DecidableEq

/-- `V2_FAILURES`. -/
def v2Failures : List (String × V2FailureCategory) :=
  [("admission", .admission), ("clock", .clock), ("allocation", .allocation),
    ("authority", .authority), ("timeout", .timeout), ("eof", .eof), ("extra", .extra),
    ("authentication", .authentication), ("protocol", .protocol),
    ("channel_mismatch", .channelMismatch), ("job_mismatch", .jobMismatch),
    ("invalid_nonce", .invalidNonce), ("rejected_share", .rejectedShare), ("safety", .safety),
    ("cleanup", .cleanup), ("evidence", .evidence)]

/-- `V2Scope`. -/
inductive V2Scope
  | channel | share
  deriving DecidableEq

def v2Scopes : List (String × V2Scope) := [("channel", .channel), ("share", .share)]

/-- The states of a record. -/
inductive V2RecordState
  | admitted | running | terminal
  deriving DecidableEq

def v2RecordStates : List (String × V2RecordState) :=
  [("admitted", .admitted), ("running", .running), ("terminal", .terminal)]

/-- How an attempt ended. -/
inductive V2Outcome
  | accepted | rejected | expired | cancelled | incomplete
  deriving DecidableEq

def v2Outcomes : List (String × V2Outcome) :=
  [("accepted", .accepted), ("rejected", .rejected), ("expired", .expired),
    ("cancelled", .cancelled), ("incomplete", .incomplete)]

/-! ## Values -/

/-- `noiseUInt`. -/
def noiseUInt : JsValue → Except SerialFailure ℕ
  | .number number =>
      match maybeSafeNatural number with
      | some value => .ok value
      | none => .error (serialFailure "noise_integer")
  | _ => .error (serialFailure "noise_integer")

/-- What is read unless it is null. -/
def unlessNull {α : Type} (read : JsValue → Except SerialFailure α) :
    JsValue → Except SerialFailure (Option α)
  | .null => .ok none
  | value => (read value).map some

/-- `maybeNoiseUInt`. -/
def maybeNoiseUInt : JsValue → Except SerialFailure (Option ℕ) := unlessNull noiseUInt

/-- `noiseBoolean`. -/
def noiseBoolean : JsValue → Except SerialFailure Bool
  | .bool flag => .ok flag
  | _ => .error (serialFailure "noise_boolean")

/-- `noiseEnum`. -/
def noiseEnum {α : Type} (allowed : List (String × α)) (value : JsValue) :
    Except SerialFailure α :=
  match allowed.find? fun candidate => isText value candidate.1 with
  | some candidate => .ok candidate.2
  | none => .error (serialFailure "noise_enum")

/-- A text that passes a check, with the failure of one that does not. -/
def noiseText (valid : String → Bool) (category : String) (value : JsValue) :
    Except SerialFailure String :=
  match checkedText value valid with
  | some text => .ok text
  | none => .error (serialFailure category)

/-- `noiseAttemptId`. -/
def noiseAttemptId : JsValue → Except SerialFailure String := noiseText serialToken "noise_attempt"

/-- `noiseDigest`. -/
def noiseDigest : JsValue → Except SerialFailure String := noiseText (isHexText 64) "noise_digest"

/-- `fail`. -/
def evidenceInvalid : SerialFailure := serialFailure "v2_evidence_invalid"

/-- A check of a record. -/
def failIf (condition : Prop) [Decidable condition] : Except SerialFailure Unit :=
  if condition then .error evidenceInvalid else .ok ()

theorem failIf_bind_eq_ok {α : Type} {condition : Prop} [Decidable condition]
    {rest : Unit → Except SerialFailure α} {value : α} :
    (failIf condition >>= rest) = .ok value ↔ ¬ condition ∧ rest () = .ok value := by
  rw [failIf]
  split
  · next h => simp [bind, Except.bind, h]
  · next h => simp [bind, Except.bind, h]

theorem failIf_eq_ok {condition : Prop} [Decidable condition] :
    failIf condition = .ok () ↔ ¬ condition := by
  rw [failIf]
  split
  · next h => simp [h]
  · next h => simp [h]

/-- `array`. -/
def evidenceArray {α : Type} (maximum : ℕ) (parse : JsValue → Except SerialFailure α) :
    JsValue → Except SerialFailure (List α)
  | .array elements =>
      if elements.length > maximum then .error evidenceInvalid else elements.mapM parse
  | _ => .error evidenceInvalid

/-- A known time that lies before another one. -/
def isBefore (maybeTime : Option ℕ) (bound : ℕ) : Bool := maybeTime.any (· < bound)

/-- A known number above a bound. -/
def isAbove (maybeNumber : Option ℕ) (bound : ℕ) : Bool := maybeNumber.any (bound < ·)

/-! ## Parts of a record -/

/-- `Failure`. -/
structure V2Failure where
  stage : V2Stage
  category : V2FailureCategory
  atDeviceUs : Option ℕ
  deriving DecidableEq

/-- `failure`. -/
def parseV2Failure (input : JsValue) : Except SerialFailure V2Failure := do
  let v ← readExactRecord input ["stage", "category", "atDeviceUs"]
  let stage ← noiseEnum v2Stages (fieldOf v "stage")
  let category ← noiseEnum v2Failures (fieldOf v "category")
  let atDeviceUs ← maybeNoiseUInt (fieldOf v "atDeviceUs")
  return { stage, category, atDeviceUs }

/-- `Event`. -/
structure V2Event where
  sequence : ℕ
  atDeviceUs : Option ℕ
  kind : V2Stage
  channelId : Option ℕ
  jobId : Option ℕ
  submissionSequence : Option ℕ
  payloadSha256 : Option String
  deriving DecidableEq

/-- `event`. -/
def parseV2Event (input : JsValue) : Except SerialFailure V2Event := do
  let v ← readExactRecord input
    ["sequence", "atDeviceUs", "kind", "channelId", "jobId", "submissionSequence", "payloadSha256"]
  let sequence ← noiseUInt (fieldOf v "sequence")
  let atDeviceUs ← maybeNoiseUInt (fieldOf v "atDeviceUs")
  let channelId ← maybeNoiseUInt (fieldOf v "channelId")
  let jobId ← maybeNoiseUInt (fieldOf v "jobId")
  let submissionSequence ← maybeNoiseUInt (fieldOf v "submissionSequence")
  let kind ← noiseEnum v2Stages (fieldOf v "kind")
  let payloadSha256 ← unlessNull noiseDigest (fieldOf v "payloadSha256")
  failIf (sequence = 0 ∨
    [channelId, jobId, submissionSequence].any (isAbove · 0xffffffff) ∨
    ([V2Stage.setup, .channel].contains kind ∧ payloadSha256.isSome))
  return { sequence, atDeviceUs, kind, channelId, jobId, submissionSequence, payloadSha256 }

/-- `Timing`. -/
structure V2Timing where
  operation : V2Operation
  count : ℕ
  failedCount : ℕ
  maxDurationUs : Option ℕ
  totalDurationUs : Option ℕ
  firstStartedAtDeviceUs : Option ℕ
  lastFinishedAtDeviceUs : Option ℕ
  inFlightStartedAtDeviceUs : Option ℕ
  deriving DecidableEq

/-- The times of a timing that was counted. -/
def V2Timing.times (t : V2Timing) : List (Option ℕ) :=
  [t.maxDurationUs, t.totalDurationUs, t.firstStartedAtDeviceUs, t.lastFinishedAtDeviceUs]

/-- `timing`. -/
def parseV2Timing (input : JsValue) : Except SerialFailure V2Timing := do
  let v ← readExactRecord input
    ["operation", "count", "failedCount", "maxDurationUs", "totalDurationUs",
      "firstStartedAtDeviceUs", "lastFinishedAtDeviceUs", "inFlightStartedAtDeviceUs"]
  let operation ← noiseEnum v2Operations (fieldOf v "operation")
  let count ← noiseUInt (fieldOf v "count")
  let failedCount ← noiseUInt (fieldOf v "failedCount")
  let maxDurationUs ← maybeNoiseUInt (fieldOf v "maxDurationUs")
  let totalDurationUs ← maybeNoiseUInt (fieldOf v "totalDurationUs")
  let firstStartedAtDeviceUs ← maybeNoiseUInt (fieldOf v "firstStartedAtDeviceUs")
  let lastFinishedAtDeviceUs ← maybeNoiseUInt (fieldOf v "lastFinishedAtDeviceUs")
  let inFlightStartedAtDeviceUs ← maybeNoiseUInt (fieldOf v "inFlightStartedAtDeviceUs")
  let result : V2Timing :=
    { operation, count, failedCount, maxDurationUs, totalDurationUs, firstStartedAtDeviceUs,
      lastFinishedAtDeviceUs, inFlightStartedAtDeviceUs }
  failIf (failedCount > count ∨ (count = 0 ∧ result.times.any Option.isSome))
  failIf (totalDurationUs.any fun total => isAbove maxDurationUs total)
  failIf (firstStartedAtDeviceUs.any fun first => isBefore lastFinishedAtDeviceUs first)
  return result

/-- `ShareFact`. -/
structure V2ShareFact where
  dispatchSequence : ℕ
  asicJobId : ℕ
  dispatchedAtDeviceUs : ℕ
  nonceAtDeviceUs : ℕ
  nonce : ℕ
  versionBits : ℕ
  asicIndex : ℕ
  coreId : ℕ
  smallCoreId : ℕ
  channelId : ℕ
  jobId : ℕ
  submissionSequence : ℕ
  ntime : ℕ
  version : ℕ
  writeStartedAtDeviceUs : Option ℕ
  writeCompletedAtDeviceUs : Option ℕ
  ackAtDeviceUs : Option ℕ
  ackLastSequence : Option ℕ
  ackAcceptedCount : Option ℕ
  ackSharesSum : Option ℕ
  matchedSubmitCount : Option ℕ
  workFieldsSha256 : String
  deriving DecidableEq

/-- `MAX_CORE_ID`. -/
def maximumCoreId : ℕ := 127

/-- `MAX_SMALL_CORE_ID`. -/
def maximumSmallCoreId : ℕ := 15

/-- The required numbers of a fact that fit 32 bits. -/
def V2ShareFact.words (fact : V2ShareFact) : List ℕ :=
  [fact.asicJobId, fact.nonce, fact.versionBits, fact.asicIndex, fact.coreId, fact.smallCoreId,
    fact.channelId, fact.jobId, fact.submissionSequence, fact.ntime, fact.version]

/-- What an acknowledgement reports beside its time. -/
def V2ShareFact.reports (fact : V2ShareFact) : List (Option ℕ) :=
  [fact.ackLastSequence, fact.ackAcceptedCount, fact.ackSharesSum, fact.matchedSubmitCount]

/-- The checks of `shareFact`. -/
def requireShareFact (fact : V2ShareFact) : Except SerialFailure Unit := do
  failIf (fact.words.any (0xffffffff < ·))
  failIf (fact.dispatchSequence = 0 ∨ fact.asicJobId > 120 ∨ fact.asicJobId % 8 ≠ 0 ∨
    fact.asicIndex ≠ 0 ∨ fact.coreId > maximumCoreId ∨ fact.smallCoreId > maximumSmallCoreId)
  failIf (fact.nonceAtDeviceUs < fact.dispatchedAtDeviceUs ∨
    isBefore fact.writeStartedAtDeviceUs fact.nonceAtDeviceUs)
  failIf (fact.writeCompletedAtDeviceUs.any fun completed =>
    fact.writeStartedAtDeviceUs.all (completed < ·))
  failIf ([fact.ackLastSequence, fact.ackAcceptedCount, fact.matchedSubmitCount].any
    (isAbove · 0xffffffff))
  failIf (fact.ackAtDeviceUs.isSome ∧ fact.reports.any Option.isNone)
  failIf (fact.reports.any Option.isSome ∧ fact.reports.any Option.isNone)
  failIf (fact.ackAtDeviceUs.any fun acknowledged =>
    fact.writeCompletedAtDeviceUs.all (acknowledged < ·))

/-- `shareFact`. -/
def parseV2ShareFact (input : JsValue) : Except SerialFailure V2ShareFact := do
  let v ← readExactRecord input
    ["dispatchSequence", "asicJobId", "dispatchedAtDeviceUs", "nonceAtDeviceUs", "nonce",
      "versionBits", "asicIndex", "coreId", "smallCoreId", "channelId", "jobId",
      "submissionSequence", "ntime", "version", "writeStartedAtDeviceUs",
      "writeCompletedAtDeviceUs", "ackAtDeviceUs", "ackLastSequence", "ackAcceptedCount",
      "ackSharesSum", "matchedSubmitCount", "workFieldsSha256"]
  let dispatchSequence ← noiseUInt (fieldOf v "dispatchSequence")
  let asicJobId ← noiseUInt (fieldOf v "asicJobId")
  let dispatchedAtDeviceUs ← noiseUInt (fieldOf v "dispatchedAtDeviceUs")
  let nonceAtDeviceUs ← noiseUInt (fieldOf v "nonceAtDeviceUs")
  let nonce ← noiseUInt (fieldOf v "nonce")
  let versionBits ← noiseUInt (fieldOf v "versionBits")
  let asicIndex ← noiseUInt (fieldOf v "asicIndex")
  let coreId ← noiseUInt (fieldOf v "coreId")
  let smallCoreId ← noiseUInt (fieldOf v "smallCoreId")
  let channelId ← noiseUInt (fieldOf v "channelId")
  let jobId ← noiseUInt (fieldOf v "jobId")
  let submissionSequence ← noiseUInt (fieldOf v "submissionSequence")
  let ntime ← noiseUInt (fieldOf v "ntime")
  let version ← noiseUInt (fieldOf v "version")
  let writeStartedAtDeviceUs ← maybeNoiseUInt (fieldOf v "writeStartedAtDeviceUs")
  let writeCompletedAtDeviceUs ← maybeNoiseUInt (fieldOf v "writeCompletedAtDeviceUs")
  let ackAtDeviceUs ← maybeNoiseUInt (fieldOf v "ackAtDeviceUs")
  let ackLastSequence ← maybeNoiseUInt (fieldOf v "ackLastSequence")
  let ackAcceptedCount ← maybeNoiseUInt (fieldOf v "ackAcceptedCount")
  let ackSharesSum ← maybeNoiseUInt (fieldOf v "ackSharesSum")
  let matchedSubmitCount ← maybeNoiseUInt (fieldOf v "matchedSubmitCount")
  let workFieldsSha256 ← noiseDigest (fieldOf v "workFieldsSha256")
  let result : V2ShareFact :=
    { dispatchSequence, asicJobId, dispatchedAtDeviceUs, nonceAtDeviceUs, nonce, versionBits,
      asicIndex, coreId, smallCoreId, channelId, jobId, submissionSequence, ntime, version,
      writeStartedAtDeviceUs, writeCompletedAtDeviceUs, ackAtDeviceUs, ackLastSequence,
      ackAcceptedCount, ackSharesSum, matchedSubmitCount, workFieldsSha256 }
  requireShareFact result
  return result

/-- `Resources`. -/
structure V2Resources where
  socketClosed : Bool
  workerQuiescent : Bool
  fenceRetained : Bool
  socketClosedAtUs : Option ℕ
  workerQuiescentAtUs : Option ℕ
  deriving DecidableEq

/-- `resources`. -/
def parseV2Resources (input : JsValue) : Except SerialFailure V2Resources := do
  let v ← readExactRecord input
    ["socketClosed", "workerQuiescent", "fenceRetained", "socketClosedAtUs", "workerQuiescentAtUs"]
  let socketClosed ← noiseBoolean (fieldOf v "socketClosed")
  let workerQuiescent ← noiseBoolean (fieldOf v "workerQuiescent")
  let fenceRetained ← noiseBoolean (fieldOf v "fenceRetained")
  let socketClosedAtUs ← maybeNoiseUInt (fieldOf v "socketClosedAtUs")
  let workerQuiescentAtUs ← maybeNoiseUInt (fieldOf v "workerQuiescentAtUs")
  failIf ((!socketClosed && socketClosedAtUs.isSome) ∨
    (!workerQuiescent && workerQuiescentAtUs.isSome))
  failIf (socketClosedAtUs.any fun closed => isBefore workerQuiescentAtUs closed)
  return { socketClosed, workerQuiescent, fenceRetained, socketClosedAtUs, workerQuiescentAtUs }

/-! ## Records -/

/-- `DeviceRecord`, without the schema, which is one text. -/
structure V2DeviceRecord where
  scope : V2Scope
  attemptId : String
  bootOrdinal : ℕ
  workerGeneration : ℕ
  serialTransportEpoch : ℕ
  admittedAtDeviceUs : ℕ
  authorityDeadlineDeviceUs : Option ℕ
  poolSessionGeneration : Option ℕ
  poolTransportEpoch : Option ℕ
  observedAtUs : Option ℕ
  observationDeadlineDeviceUs : Option ℕ
  terminalAtDeviceUs : Option ℕ
  jobCommitment : Option String
  state : V2RecordState
  outcome : Option V2Outcome
  events : List V2Event
  timings : List V2Timing
  shareFacts : List V2ShareFact
  firstFailure : Option V2Failure
  secondaryFailures : List V2Failure
  resources : V2Resources
  deriving DecidableEq

namespace V2DeviceRecord

/-- All failures of a record. -/
def failures (r : V2DeviceRecord) : List V2Failure := r.firstFailure.toList ++ r.secondaryFailures

/-- `clockFailed`. -/
def clockFailed (r : V2DeviceRecord) : Bool :=
  r.failures.any fun failure => failure.category == .clock

/-- `workEvents`. -/
def workEvents (r : V2DeviceRecord) : List V2Event := r.events.filter (·.kind.isWork)

/-- `times`: what only a failed clock leaves unknown. -/
def times (r : V2DeviceRecord) : List (Option ℕ) :=
  [r.observedAtUs] ++ r.events.map (·.atDeviceUs) ++ r.failures.map (·.atDeviceUs) ++
    (if r.state = .terminal then [r.terminalAtDeviceUs] else []) ++
    (if r.resources.socketClosed then [r.resources.socketClosedAtUs] else []) ++
    (if r.resources.workerQuiescent then [r.resources.workerQuiescentAtUs] else []) ++
    (r.timings.filter (·.count ≠ 0)).flatMap V2Timing.times

/-- `eventTimes`. -/
def eventTimes (r : V2DeviceRecord) : List (Option ℕ) :=
  r.events.map (·.atDeviceUs) ++
    [r.terminalAtDeviceUs, r.resources.socketClosedAtUs, r.resources.workerQuiescentAtUs]

end V2DeviceRecord

/-- An event that must not stand right behind another one. -/
def missequenced (previous event : V2Event) : Bool :=
  event.sequence ≤ previous.sequence ||
    previous.atDeviceUs.any fun earlier => isBefore event.atDeviceUs earlier

/-- `requireShareDeadline`.  The deadline is 180 s behind the dispatch that arms it. -/
def requireShareDeadline (r : V2DeviceRecord) : Except SerialFailure Unit := do
  failIf r.observationDeadlineDeviceUs.isSome
  match r.authorityDeadlineDeviceUs with
  | none => failIf (r.workEvents ≠ [] ∨ r.shareFacts ≠ [] ∨ r.outcome = some .accepted)
  | some deadline => do
    let armedAtUs : ℤ := (deadline : ℤ) - 180000000
    failIf (deadline % 1000 ≠ 0 ∨ armedAtUs < ((r.admittedAtDeviceUs / 1000 * 1000 : ℕ) : ℤ))
    failIf (r.observedAtUs.any fun observed => decide ((observed : ℤ) < armedAtUs))
    failIf (r.shareFacts.any (fun fact => decide ((fact.dispatchedAtDeviceUs : ℤ) < armedAtUs)) ∨
      r.workEvents.any fun event => event.atDeviceUs.any fun time => decide ((time : ℤ) < armedAtUs))

/-- What a record of a channel must not show. -/
def channelMisfit (r : V2DeviceRecord) : Bool :=
  r.authorityDeadlineDeviceUs ≠ some (r.admittedAtDeviceUs + 120000000) ||
    r.observationDeadlineDeviceUs ≠ some (r.admittedAtDeviceUs + 125000000) ||
    r.shareFacts ≠ [] || r.events.any (·.kind.isWork)

/-- What an accepted record must not show. -/
def acceptedMisfit (r : V2DeviceRecord) : Bool :=
  r.firstFailure.isSome || r.secondaryFailures ≠ [] || !r.resources.socketClosed ||
    !r.resources.workerQuiescent || r.resources.fenceRetained || r.jobCommitment.isNone

/-- `requireRecordConsistency`. -/
def requireRecordConsistency (r : V2DeviceRecord) : Except SerialFailure Unit := do
  failIf (r.bootOrdinal = 0)
  failIf (r.secondaryFailures ≠ [] ∧ r.firstFailure = none)
  failIf (r.secondaryFailures.any fun failure =>
    !([V2FailureCategory.clock, .cleanup].contains failure.category))
  failIf (isBefore r.authorityDeadlineDeviceUs r.admittedAtDeviceUs ∨
    r.poolSessionGeneration.isNone ≠ r.poolTransportEpoch.isNone)
  failIf (r.scope = .channel ∧ channelMisfit r)
  (match r.scope with
    | .channel => .ok ()
    | .share => requireShareDeadline r)
  failIf (decide (r.state = .terminal) ≠ r.outcome.isSome ∨
    (r.state ≠ .terminal ∧ r.terminalAtDeviceUs.isSome))
  failIf (r.clockFailed = false ∧ (r.times.any Option.isNone ∨
    r.shareFacts.any fun fact => fact.ackLastSequence.isSome && fact.ackAtDeviceUs.isNone))
  failIf ((r.events.zip r.events.tail).any fun (previous, event) => missequenced previous event)
  failIf (¬ (r.timings.map (·.operation)).Nodup ∨
    ¬ (r.shareFacts.map (·.submissionSequence)).Nodup)
  failIf (r.eventTimes.any fun time => isBefore time r.admittedAtDeviceUs ||
    r.observedAtUs.any fun observed => isAbove time observed)
  failIf (r.outcome = some .accepted ∧ acceptedMisfit r)
  failIf (r.scope = .channel ∧ r.outcome = some .accepted ∧
    (r.terminalAtDeviceUs = none ∨ r.authorityDeadlineDeviceUs = none ∨
      (r.authorityDeadlineDeviceUs.any fun deadline => isAbove r.terminalAtDeviceUs deadline) ∨
      ¬ r.events.any (·.kind = .workReady)))

/-- The record of an input, before it is checked as a whole. -/
def readV2DeviceRecord (input : JsValue) : Except SerialFailure V2DeviceRecord := do
  let v ← readExactRecord input
    ["schema", "scope", "attemptId", "bootOrdinal", "workerGeneration", "serialTransportEpoch",
      "admittedAtDeviceUs", "authorityDeadlineDeviceUs", "poolSessionGeneration",
      "poolTransportEpoch", "observedAtUs", "observationDeadlineDeviceUs", "terminalAtDeviceUs",
      "jobCommitment", "state", "outcome", "events", "timings", "shareFacts", "firstFailure",
      "secondaryFailures", "resources"]
  failIf (isText (fieldOf v "schema") "worker-v2-serial-evidence-v1" = false)
  let scope ← noiseEnum v2Scopes (fieldOf v "scope")
  let attemptId ← noiseAttemptId (fieldOf v "attemptId")
  let bootOrdinal ← noiseUInt (fieldOf v "bootOrdinal")
  let workerGeneration ← noiseUInt (fieldOf v "workerGeneration")
  let serialTransportEpoch ← noiseUInt (fieldOf v "serialTransportEpoch")
  let admittedAtDeviceUs ← noiseUInt (fieldOf v "admittedAtDeviceUs")
  let authorityDeadlineDeviceUs ← maybeNoiseUInt (fieldOf v "authorityDeadlineDeviceUs")
  let poolSessionGeneration ← maybeNoiseUInt (fieldOf v "poolSessionGeneration")
  let poolTransportEpoch ← maybeNoiseUInt (fieldOf v "poolTransportEpoch")
  let observedAtUs ← maybeNoiseUInt (fieldOf v "observedAtUs")
  let observationDeadlineDeviceUs ← maybeNoiseUInt (fieldOf v "observationDeadlineDeviceUs")
  let terminalAtDeviceUs ← maybeNoiseUInt (fieldOf v "terminalAtDeviceUs")
  let jobCommitment ← unlessNull noiseDigest (fieldOf v "jobCommitment")
  let state ← noiseEnum v2RecordStates (fieldOf v "state")
  let outcome ← unlessNull (noiseEnum v2Outcomes) (fieldOf v "outcome")
  let events ← evidenceArray 64 parseV2Event (fieldOf v "events")
  let timings ← evidenceArray 13 parseV2Timing (fieldOf v "timings")
  let shareFacts ← evidenceArray 16 parseV2ShareFact (fieldOf v "shareFacts")
  let firstFailure ← unlessNull parseV2Failure (fieldOf v "firstFailure")
  let secondaryFailures ← evidenceArray 16 parseV2Failure (fieldOf v "secondaryFailures")
  let resources ← parseV2Resources (fieldOf v "resources")
  let result : V2DeviceRecord :=
    { scope, attemptId, bootOrdinal, workerGeneration, serialTransportEpoch, admittedAtDeviceUs,
      authorityDeadlineDeviceUs, poolSessionGeneration, poolTransportEpoch, observedAtUs,
      observationDeadlineDeviceUs, terminalAtDeviceUs, jobCommitment, state, outcome, events,
      timings, shareFacts, firstFailure, secondaryFailures, resources }
  return result

/-- `parseWorkerV2DeviceRecord`. -/
def parseWorkerV2DeviceRecord (input : JsValue) : Except SerialFailure V2DeviceRecord := do
  let record ← readV2DeviceRecord input
  requireRecordConsistency record
  return record

end WorkGate
