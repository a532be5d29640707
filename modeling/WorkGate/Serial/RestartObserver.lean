/-
# The observer of a qualification restart (web/worker-serial-restart-observer.ts,
web/worker-qualification-restart.ts)

A Worker is asked to restart, says that it will, and boots again while the page reads its
diagnostic lines.  The observer keeps what it has seen in flags, and evidence is only given when
the flags are all set.  Every method may throw after it has changed some of them.
-/

import Mathlib.Data.Rat.Floor
import WorkGate.Library.Attempts
import WorkGate.Serial.Diagnostics
import WorkGate.Serial.Records

namespace WorkGate

open WorkGate.Library

/-! ## Request and acknowledgement -/

/-- `WorkerQualificationRestartRequest`, as `parseQualificationRestartRequest` lets it pass. -/
structure RestartRequest where
  requestNonce : String
  expectedBootOrdinal : ℕ
  hnonce : serialToken requestNonce = true
  hordinal : 1 ≤ expectedBootOrdinal ∧ expectedBootOrdinal < maximumSafeInteger

/-- `WorkerQualificationRestartAck`. -/
structure RestartAck where
  schema : String
  requestNonce : String
  bootOrdinal : ℕ
  nextBootOrdinal : ℕ
  deriving DecidableEq

/-- `parseQualificationRestartAck`. -/
def parseQualificationRestartAck (input : JsValue) (expected : RestartRequest) (schema : String) :
    Except SerialFailure RestartAck := do
  let value ← readExactRecord input ["schema", "requestNonce", "bootOrdinal", "nextBootOrdinal"]
  if !isText (fieldOf value "schema") schema ||
      !isText (fieldOf value "requestNonce") expected.requestNonce ||
      requiredNatural (fieldOf value "bootOrdinal") ≠ some expected.expectedBootOrdinal ||
      requiredNatural (fieldOf value "nextBootOrdinal") ≠
        some (expected.expectedBootOrdinal + 1) then
    .error (serialFailure "restart_ack")
  else
    .ok {
      schema := schema
      requestNonce := expected.requestNonce
      bootOrdinal := expected.expectedBootOrdinal
      nextBootOrdinal := expected.expectedBootOrdinal + 1 }

/-! ## The observer -/

/-- `kind`. -/
inductive RestartKind
  | restart
  | coreDumpSelfTest
  deriving DecidableEq

/-- The schema an acknowledgement of this kind names. -/
def RestartKind.ackSchema : RestartKind → String
  | .restart => "worker-qualification-restart-v1"
  | .coreDumpSelfTest => "worker-qualification-core-dump-self-test-v1"

/-- The schema a summary of this kind names. -/
def RestartKind.summarySchema : RestartKind → String
  | .restart => "worker-qualification-restart-observation-v1"
  | .coreDumpSelfTest => "worker-qualification-core-dump-self-test-observation-v1"

/-- The reset a restart of this kind leaves in the next boot record. -/
def RestartKind.resetReason : RestartKind → String
  | .restart => "software_cpu"
  | .coreDumpSelfTest => "panic"

inductive RestartStage
  | armed
  | acknowledged
  | reacquiring
  | complete
  | failed
  deriving DecidableEq

inductive RestartLifecycle
  | prearmed
  | acknowledged
  | streamInterrupted
  | samePortReopened
  | helloStarted
  | complete
  | failed
  deriving DecidableEq

inductive RestartContinuity
  | uninterrupted
  | interrupted
  | samePortReopened
  deriving DecidableEq

/-- What an observer is made with.  The clock is a reading each time it is asked, in milliseconds;
a reading that is not finite is none. -/
structure RestartSetup where
  request : RestartRequest
  firmwareSourceCommit : String
  appElfSha256 : String
  kind : RestartKind
  now : ℕ → Option ℚ

/-- `startedAt`, the first reading. -/
def RestartSetup.startedAt (setup : RestartSetup) : ℚ := (setup.now 0).getD 0

/-- The boot ordinal that follows the expected one. -/
def RestartSetup.nextBootOrdinal (setup : RestartSetup) : ℕ := setup.request.expectedBootOrdinal + 1

/-- One entry of `observations`. -/
structure RestartObservation where
  record : ℕ
  atMs : ℤ
  diagnostic : WorkerSerialDiagnostic
  deriving DecidableEq

/-- One entry of `lifecycle`. -/
structure RestartMoment where
  record : ℕ
  atMs : ℤ
  event : RestartLifecycle
  deriving DecidableEq

/-- `WorkerSerialRestartObserver`.  A promise is whether it is resolved. -/
structure RestartObserver where
  readings : ℕ
  lastElapsed : ℤ
  maybeFinishedElapsed : Option ℤ
  ready : Bool
  maybeAck : Option RestartAck
  maybeNonceDigest : Option String
  maybeError : Option SerialFailure
  stage : RestartStage
  hasAdmitted : Bool
  statisticsRequired : Bool
  statisticsActive : Bool
  boot : Bool
  identity : Bool
  readySamples : ℕ
  maybeReadyUptime : Option ℤ
  records : ℕ
  bytes : ℕ
  reopens : ℕ
  interrupted : Bool
  bootMode : Bool
  observations : List RestartObservation
  lifecycle : List RestartMoment
  streamEnd : Bool
  deriving DecidableEq

/-- `WorkerRestartSummary`. -/
structure RestartSummary where
  schema : String
  stage : RestartStage
  ackMatched : Bool
  expectedBootOrdinal : ℕ
  nextBootOrdinal : ℕ
  bootObserved : Bool
  softwareResetObserved : Bool
  panicResetObserved : Option Bool
  identityMatched : Bool
  identityObserved : Bool
  runtimeReadyObserved : Bool
  records : ℕ
  bytes : ℕ
  durationMs : ℤ
  portReopens : ℕ
  streamInterrupted : Bool
  continuity : RestartContinuity
  deriving DecidableEq

/-- The acknowledgement as evidence names it. -/
structure RestartAckEvidence where
  schema : String
  requestNonceSha256 : String
  bootOrdinal : ℕ
  nextBootOrdinal : ℕ
  deriving DecidableEq

/-- `WorkerRestartEvidence`. -/
structure RestartEvidence where
  summary : RestartSummary
  ack : Option RestartAckEvidence
  observations : List RestartObservation
  lifecycle : List RestartMoment
  deriving DecidableEq

namespace RestartObserver

/-- The fields before the constructor runs. -/
def blank : RestartObserver where
  readings := 0
  lastElapsed := 0
  maybeFinishedElapsed := none
  ready := false
  maybeAck := none
  maybeNonceDigest := none
  maybeError := none
  stage := .armed
  hasAdmitted := false
  statisticsRequired := false
  statisticsActive := false
  boot := false
  identity := false
  readySamples := 0
  maybeReadyUptime := none
  records := 0
  bytes := 0
  reopens := 0
  interrupted := false
  bootMode := false
  observations := []
  lifecycle := []
  streamEnd := false

/-- `ackMatched`. -/
def ackMatched (observer : RestartObserver) : Bool := observer.maybeAck.isSome

/-- `active`. -/
def active (observer : RestartObserver) : Bool :=
  observer.stage != .complete && observer.stage != .failed

/-- `statisticsReady`. -/
def statisticsReady (observer : RestartObserver) : Bool :=
  !observer.statisticsRequired || observer.statisticsActive

end RestartObserver

/-! ## Its methods -/

/-- A method of the observer. -/
abbrev ObserverCall (α : Type) : Type := Attempt RestartObserver SerialFailure α

namespace RestartSetup

variable (setup : RestartSetup)

/-- `this.now()`. -/
def readClock : ObserverCall (Option ℚ) := do
  let observer ← get
  modify fun observer => { observer with readings := observer.readings + 1 }
  return setup.now observer.readings

/-- `elapsed`: whole milliseconds since the start, never fewer than before. -/
def elapsed : ObserverCall ℤ := do
  let maybeNow ← setup.readClock
  match maybeNow with
  | none => throw (serialFailure "restart_clock")
  | some now =>
      let observer ← get
      Attempt.ensure (decide ((observer.lastElapsed : ℚ) ≤ now - setup.startedAt))
        (serialFailure "restart_clock")
      modify fun observer => { observer with lastElapsed := (now - setup.startedAt).floor }
      return (now - setup.startedAt).floor

/-- `check`. -/
def check : ObserverCall Unit := do
  let observer ← get
  match observer.maybeError with
  | some error => throw error
  | none => return ()

/-- `remaining`: what is left of thirty seconds. -/
def remaining : ObserverCall ℤ := do
  check
  let elapsed ← setup.elapsed
  Attempt.ensure (decide (elapsed < 30000)) (serialFailure "timeout")
  return 30000 - elapsed

/-- The time an event is given. -/
def eventTime : ObserverCall ℤ := do
  let observer ← get
  match observer.maybeFinishedElapsed, observer.maybeError with
  | some finished, _ => return finished
  | none, some _ => return observer.lastElapsed
  | none, none => setup.elapsed

/-- `event`. -/
def event (event : RestartLifecycle) : ObserverCall Unit := do
  let atMs ← setup.eventTime
  modify fun observer => { observer with
    lifecycle := observer.lifecycle ++ [{ record := observer.records, atMs := atMs, event := event }] }

/-- `setNonceDigest`. -/
def setNonceDigest (value : String) : ObserverCall Unit := do
  let observer ← get
  Attempt.ensure (observer.maybeNonceDigest.isNone && value.toList.length == 64 &&
    value.toList.all isLowerHex) (serialFailure "restart_request")
  modify fun observer => { observer with maybeNonceDigest := some value }

/-- The constructor. -/
def construct (maybeNonceDigest : Option String) : ObserverCall Unit := do
  let maybeNow ← setup.readClock
  match maybeNonceDigest with
  | some digest => setNonceDigest digest
  | none => pure ()
  Attempt.ensure (maybeNow.any fun now => decide (0 ≤ now)) (serialFailure "restart_clock")
  setup.event .prearmed

/-- `fail`. -/
def fail (error : SerialFailure) : ObserverCall Unit := do
  let observer ← get
  if observer.maybeError.isSome then return ()
  else do
    let maybeNow ← setup.readClock
    let elapsed := match maybeNow with
      | none => observer.lastElapsed
      | some now =>
          if (observer.lastElapsed : ℚ) ≤ now - setup.startedAt then (now - setup.startedAt).floor
          else observer.lastElapsed
    modify fun observer => { observer with
      lastElapsed := elapsed
      maybeFinishedElapsed := some elapsed
      maybeError := some error
      stage := .failed }
    setup.event .failed

/-- `bytesReceived`. -/
def bytesReceived (count : JsNumber) : ObserverCall Unit := do
  let observer ← get
  if !observer.active then return ()
  else do
    let _ ← setup.remaining
    match maybeSafeNatural count with
    | none => throw (serialFailure "wire_bound")
    | some count => do
        let observer ← get
        Attempt.ensure (decide (observer.bytes + count ≤ maximumSafeInteger))
          (serialFailure "wire_bound")
        modify fun observer => { observer with bytes := observer.bytes + count }
        let observer ← get
        Attempt.ensure (decide (observer.bytes ≤ 262144)) (serialFailure "wire_bound")

/-- `byte`: a record ends with a line feed. -/
def byte (byte : UInt8) : ObserverCall Unit := do
  let observer ← get
  if !observer.active then return ()
  else do
    let _ ← setup.remaining
    modify fun observer => { observer with
      records := if byte = 10 then observer.records + 1 else observer.records }
    let observer ← get
    Attempt.ensure (decide (observer.records ≤ 512)) (serialFailure "wire_bound")

/-- `acknowledge`. -/
def acknowledge (input : JsValue) : ObserverCall Unit := do
  let observer ← get
  Attempt.ensure (observer.maybeAck.isNone && observer.maybeNonceDigest.isSome &&
    observer.stage == .armed) (serialFailure "restart_ack")
  let ack ← Attempt.ofExcept
    (parseQualificationRestartAck input setup.request setup.kind.ackSchema)
  modify fun observer => { observer with
    maybeAck := some ack, stage := .acknowledged, bootMode := true }
  setup.event .acknowledged

/-- What a boot record changes, and whether it is the one the restart is to end. -/
def observeBoot (value : WorkerSerialDiagnostic) : ObserverCall Bool := do
  let observer ← get
  if !diagnosticIs value "category" "boot" then return false
  else if maybeNumber value "boot_ordinal" = some (setup.request.expectedBootOrdinal : ℤ) ∧
      observer.boot = false then return true
  else do
    Attempt.ensure (decide (maybeNumber value "boot_ordinal" = some (setup.nextBootOrdinal : ℤ)) &&
      diagnosticIs value "reset_reason" setup.kind.resetReason) (serialFailure "restart_boot")
    if !observer.boot then
      modify fun observer => { observer with
        readySamples := 0, maybeReadyUptime := none, statisticsActive := false, boot := true }
    else pure ()
    return false

/-- What a runtime identity changes. -/
def observeIdentity (value : WorkerSerialDiagnostic) : ObserverCall Unit :=
  if !diagnosticIs value "category" "runtime_identity" then pure ()
  else do
    Attempt.ensure (diagnosticIs value "firmware_commit" setup.firmwareSourceCommit &&
      diagnosticIs value "app_elf_sha256" setup.appElfSha256) (serialFailure "restart_identity")
    modify fun observer => { observer with identity := true }

/-- What a report of the statistics owner changes. -/
def observeStatistics (value : WorkerSerialDiagnostic) : ObserverCall Unit :=
  if !diagnosticIs value "category" "statistics_startup" then pure ()
  else if ["spawn_failed", "config_failed", "cancelled"].contains (diagnosticText value "state")
  then do
    setup.fail (serialFailure "restart_statistics_startup")
    throw (serialFailure "restart_statistics_startup")
  else
    modify fun observer => { observer with
      statisticsRequired := observer.statisticsRequired || diagnosticIs value "state" "prepared"
      statisticsActive :=
        (observer.statisticsActive && !diagnosticIs value "state" "prepared") ||
          (observer.boot && diagnosticIs value "state" "active") }

/-- What a report of a startup stage changes. -/
def observeStartup (value : WorkerSerialDiagnostic) : ObserverCall Unit :=
  if !diagnosticIs value "category" "startup" then pure ()
  else do
    Attempt.ensure (diagnosticIs value "first_failure" "none" &&
      !diagnosticIs value "state" "failed") (serialFailure "restart_startup")
    let observer ← get
    match maybeNumber value "uptime_ms" with
    | none => pure ()
    | some uptime =>
        if observer.boot && diagnosticIs value "stage" "runtime_ready" &&
            diagnosticIs value "state" "complete" then do
          Attempt.ensure (observer.maybeReadyUptime.all fun last => decide (last ≤ uptime))
            (serialFailure "restart_startup_clock")
          modify fun observer => { observer with
            readySamples :=
              if observer.maybeReadyUptime.all fun last => decide (last < uptime) then
                observer.readySamples + 1
              else observer.readySamples
            maybeReadyUptime := some uptime }
        else pure ()

/-- What a kept record changes once the restart is acknowledged. -/
def observe (value : WorkerSerialDiagnostic) : ObserverCall Unit := do
  let expected ← setup.observeBoot value
  if expected then return ()
  else do
    setup.observeIdentity value
    setup.observeStatistics value
    observeStartup value
    modify fun observer => { observer with
      ready := observer.ready || (observer.boot && observer.identity &&
        decide (2 ≤ observer.readySamples) && observer.statisticsReady) }

/-- `diagnostic`. -/
def diagnostic (input : WorkerSerialDiagnostic) : ObserverCall Unit := do
  let observer ← get
  if !observer.active then return ()
  else match maybeValidatedDiagnostic input with
    | none => throw (serialFailure "restart_diagnostic")
    | some value => do
        let _ ← setup.remaining
        let observer ← get
        Attempt.ensure (decide (observer.observations.length < 512)) (serialFailure "wire_bound")
        let atMs ← setup.elapsed
        modify fun observer => { observer with
          observations := observer.observations ++
            [{ record := observer.records, atMs := atMs, diagnostic := value }] }
        let observer ← get
        if !observer.ackMatched then return ()
        else setup.observe value

/-- `rawRecord`. -/
def rawRecord (bytes : List UInt8) : ObserverCall Unit :=
  match decodeUtf8 bytes >>= fun text => maybeWorkerSerialDiagnostic text.toList with
  | none => pure ()
  | some value => setup.diagnostic value

/-- `interrupted`. -/
def interrupted : ObserverCall Unit := do
  let observer ← get
  Attempt.ensure (observer.ackMatched && observer.active && observer.reopens == 0)
    (serialFailure "restart_stream_interrupted")
  modify fun observer => { observer with interrupted := true }
  setup.event .streamInterrupted
  modify fun observer => { observer with streamEnd := true }

/-- `requireReopen`. -/
def requireReopen : ObserverCall Unit := do
  let _ ← setup.remaining
  let observer ← get
  Attempt.ensure (observer.active && observer.interrupted && observer.reopens == 0)
    (serialFailure "restart_reopen")

/-- `reopened`. -/
def reopened : ObserverCall Unit := do
  setup.requireReopen
  modify fun observer => { observer with
    reopens := 1
    bootMode := true
    stage := .acknowledged
    boot := false
    identity := false
    hasAdmitted := false
    statisticsActive := false
    readySamples := 0
    maybeReadyUptime := none
    ready := false }
  setup.event .samePortReopened
  modify fun observer => { observer with streamEnd := false }

/-- `helloStarted`. -/
def helloStarted : ObserverCall Unit := do
  let _ ← setup.remaining
  let observer ← get
  Attempt.ensure observer.statisticsReady (serialFailure "restart_incomplete")
  modify fun observer => { observer with bootMode := false, stage := .reacquiring }
  setup.event .helloStarted

/-- `admitted`. -/
def admitted : ObserverCall Unit := do
  check
  modify fun observer => { observer with hasAdmitted := true }

/-- `summary`. -/
def summary : ObserverCall RestartSummary := do
  let observer ← get
  let durationMs ← match observer.maybeFinishedElapsed with
    | some finished => pure finished
    | none => setup.elapsed
  return {
    schema := setup.kind.summarySchema
    stage := observer.stage
    ackMatched := observer.ackMatched
    expectedBootOrdinal := setup.request.expectedBootOrdinal
    nextBootOrdinal := setup.nextBootOrdinal
    bootObserved := observer.boot
    softwareResetObserved := observer.boot && setup.kind == .restart
    panicResetObserved := if setup.kind = .coreDumpSelfTest then some observer.boot else none
    identityMatched := observer.hasAdmitted
    identityObserved := observer.identity
    runtimeReadyObserved := decide (2 ≤ observer.readySamples)
    records := observer.records
    bytes := observer.bytes
    durationMs := durationMs
    portReopens := observer.reopens
    streamInterrupted := observer.interrupted
    continuity :=
      if observer.reopens ≠ 0 then .samePortReopened
      else if observer.interrupted then .interrupted
      else .uninterrupted }

/-- `nonceDigest`. -/
def nonceDigest : ObserverCall String := do
  let observer ← get
  match observer.maybeNonceDigest with
  | none => throw (serialFailure "restart_incomplete")
  | some digest => return digest

/-- `evidence`. -/
def evidence : ObserverCall RestartEvidence := do
  let summary ← setup.summary
  let observer ← get
  let ack ← match observer.maybeAck with
    | none => pure none
    | some ack => do
        let digest ← nonceDigest
        pure (some {
          schema := ack.schema
          requestNonceSha256 := digest
          bootOrdinal := ack.bootOrdinal
          nextBootOrdinal := ack.nextBootOrdinal })
  return {
    summary := summary
    ack := ack
    observations := observer.observations
    lifecycle := observer.lifecycle }

/-- `complete`. -/
def complete : ObserverCall RestartEvidence := do
  check
  let observer ← get
  Attempt.ensure (observer.maybeAck.isSome && observer.boot && observer.identity &&
    observer.hasAdmitted && decide (2 ≤ observer.readySamples) && observer.statisticsReady)
    (serialFailure "restart_incomplete")
  let _ ← setup.remaining
  let elapsed ← setup.elapsed
  modify fun observer => { observer with
    maybeFinishedElapsed := some elapsed, stage := .complete }
  setup.event .complete
  setup.evidence

end RestartSetup

/-! ## Calls -/

/-- A call on an observer. -/
inductive RestartCall
  | setNonceDigest (value : String)
  | acknowledge (input : JsValue)
  | diagnostic (input : WorkerSerialDiagnostic)
  | rawRecord (bytes : List UInt8)
  | byte (byte : UInt8)
  | bytesReceived (count : JsNumber)
  | interrupted
  | reopened
  | helloStarted
  | admitted
  | fail (error : SerialFailure)

/-- What the call runs. -/
def RestartSetup.perform (setup : RestartSetup) : RestartCall → ObserverCall Unit
  | .setNonceDigest value => RestartSetup.setNonceDigest value
  | .acknowledge input => setup.acknowledge input
  | .diagnostic input => setup.diagnostic input
  | .rawRecord bytes => setup.rawRecord bytes
  | .byte byte => setup.byte byte
  | .bytesReceived count => setup.bytesReceived count
  | .interrupted => setup.interrupted
  | .reopened => setup.reopened
  | .helloStarted => setup.helloStarted
  | .admitted => RestartSetup.admitted
  | .fail error => setup.fail error

/-- Calls on an observer, newest first, none of which threw, and what they leave. -/
inductive RestartCalls (setup : RestartSetup) : List RestartCall → RestartObserver → Prop
  | constructed {maybeNonceDigest : Option String} {observer : RestartObserver}
      (h : (setup.construct maybeNonceDigest).Returns .blank () observer) :
      RestartCalls setup [] observer
  | called {calls : List RestartCall} {observer after : RestartObserver} {call : RestartCall}
      (prior : RestartCalls setup calls observer)
      (h : (setup.perform call).Returns observer () after) :
      RestartCalls setup (call :: calls) after

end WorkGate
