/-
# What evidence of a restart shows

The flags of the observer summarise the calls since the acknowledgement or, if the port was
reopened, since then.  Each method is first described by what it leaves; from that follows what the
flags say after every sequence of calls, and so what a complete observation has seen.
-/

import WorkGate.Library.Past
import WorkGate.Serial.RestartObserver

namespace WorkGate

open WorkGate.Library

/-! ## What the methods leave -/

namespace RestartObserver

/-- Nothing but the clock and the list of moments moved on. -/
def Timed (before after : RestartObserver) : Prop :=
  ∃ readings lastElapsed lifecycle, after = { before with
    readings := readings, lastElapsed := lastElapsed, lifecycle := lifecycle }

theorem Timed.refl (observer : RestartObserver) : Timed observer observer :=
  ⟨observer.readings, observer.lastElapsed, observer.lifecycle, rfl⟩

theorem Timed.trans {first second third : RestartObserver} (hfirst : Timed first second)
    (hsecond : Timed second third) : Timed first third := by
  obtain ⟨readings, lastElapsed, lifecycle, rfl⟩ := hfirst
  obtain ⟨readings, lastElapsed, lifecycle, rfl⟩ := hsecond
  exact ⟨readings, lastElapsed, lifecycle, rfl⟩

end RestartObserver

namespace RestartSetup

open RestartObserver

variable {setup : RestartSetup} {before after : RestartObserver}

/-- The whole milliseconds a reading shows. -/
def elapsedAt (setup : RestartSetup) (reading : ℕ) : Option ℤ :=
  (setup.now reading).map fun now => (now - setup.startedAt).floor

theorem readClock_returns {maybeNow : Option ℚ} (h : setup.readClock.Returns before maybeNow after) :
    maybeNow = setup.now before.readings ∧
      after = { before with readings := before.readings + 1 } := by
  simp only [readClock, Attempt.returns_bind, Attempt.returns_get, Attempt.returns_modify,
    Attempt.returns_pure] at h
  obtain ⟨_, _, ⟨rfl, rfl⟩, _, _, rfl, rfl, rfl⟩ := h
  exact ⟨rfl, rfl⟩

theorem elapsed_returns {value : ℤ} (h : setup.elapsed.Returns before value after) :
    setup.elapsedAt before.readings = some value ∧ Timed before after := by
  rw [elapsed, Attempt.returns_bind] at h
  obtain ⟨maybeNow, between, hclock, h⟩ := h
  obtain ⟨hnow, rfl⟩ := readClock_returns hclock
  cases maybeNow with
  | none => simp at h
  | some now =>
      simp only [Attempt.returns_bind, Attempt.returns_get, Attempt.returns_ensure,
        Attempt.returns_modify, Attempt.returns_pure] at h
      obtain ⟨_, _, ⟨rfl, rfl⟩, _, _, ⟨-, rfl⟩, _, _, rfl, rfl, rfl⟩ := h
      rw [elapsedAt, ← hnow]
      exact ⟨rfl, _, _, _, rfl⟩

theorem check_returns (h : check.Returns before () after) :
    before.maybeError = none ∧ after = before := by
  simp only [check, Attempt.returns_bind, Attempt.returns_get] at h
  obtain ⟨_, _, ⟨rfl, rfl⟩, h⟩ := h
  split at h
  · simp at h
  · next hnone =>
      rw [Attempt.returns_pure] at h
      exact ⟨hnone, h.2⟩

theorem remaining_returns {left : ℤ} (h : setup.remaining.Returns before left after) :
    before.maybeError = none ∧ Timed before after ∧
      ∃ elapsed, setup.elapsedAt before.readings = some elapsed ∧ elapsed < 30000 := by
  simp only [remaining, Attempt.returns_bind, Attempt.returns_ensure, Attempt.returns_pure,
    decide_eq_true_eq] at h
  obtain ⟨_, _, hcheck, elapsed, _, helapsed, _, _, ⟨htime, rfl⟩, -, rfl⟩ := h
  obtain ⟨hnone, rfl⟩ := check_returns hcheck
  obtain ⟨hreading, htimed⟩ := elapsed_returns helapsed
  exact ⟨hnone, htimed, elapsed, hreading, htime⟩

theorem eventTime_returns {atMs : ℤ} (h : setup.eventTime.Returns before atMs after) :
    Timed before after := by
  simp only [eventTime, Attempt.returns_bind, Attempt.returns_get] at h
  obtain ⟨_, _, ⟨rfl, rfl⟩, h⟩ := h
  split at h
  · rw [Attempt.returns_pure] at h
    rw [h.2]
    exact Timed.refl _
  · rw [Attempt.returns_pure] at h
    rw [h.2]
    exact Timed.refl _
  · exact (elapsed_returns h).2

theorem event_returns {event : RestartLifecycle} (h : (setup.event event).Returns before () after) :
    Timed before after := by
  simp only [RestartSetup.event, Attempt.returns_bind, Attempt.returns_modify] at h
  obtain ⟨atMs, between, htime, rfl⟩ := h
  apply (eventTime_returns htime).trans
  exact ⟨_, _, _, rfl⟩

theorem setNonceDigest_returns {value : String}
    (h : (RestartSetup.setNonceDigest value).Returns before () after) :
    after = { before with maybeNonceDigest := some value } := by
  simp only [RestartSetup.setNonceDigest, Attempt.returns_bind, Attempt.returns_get,
    Attempt.returns_ensure, Attempt.returns_modify] at h
  obtain ⟨_, _, ⟨rfl, rfl⟩, _, _, ⟨-, rfl⟩, rfl⟩ := h
  rfl

theorem construct_returns {maybeNonceDigest : Option String}
    (h : (setup.construct maybeNonceDigest).Returns .blank () after) :
    Timed { RestartObserver.blank with maybeNonceDigest := maybeNonceDigest } after := by
  rw [construct, Attempt.returns_bind] at h
  obtain ⟨maybeNow, _, hclock, h⟩ := h
  obtain ⟨-, rfl⟩ := readClock_returns hclock
  cases maybeNonceDigest with
  | none =>
      simp only [Attempt.returns_bind, Attempt.returns_ensure] at h
      obtain ⟨_, _, ⟨-, rfl⟩, hevent⟩ := h
      apply Timed.trans _ (event_returns hevent)
      exact ⟨_, _, _, rfl⟩
  | some digest =>
      simp only [Attempt.returns_bind, Attempt.returns_ensure] at h
      obtain ⟨_, _, hnonce, _, _, ⟨-, rfl⟩, hevent⟩ := h
      apply Timed.trans _ (event_returns hevent)
      rw [setNonceDigest_returns hnonce]
      exact ⟨_, _, _, rfl⟩

/-- A failure is kept. -/
theorem fail_returns {error : SerialFailure} (h : (setup.fail error).Returns before () after) :
    after.maybeError.isSome := by
  simp only [RestartSetup.fail, Attempt.returns_bind, Attempt.returns_get, Attempt.returns_ite] at h
  obtain ⟨_, _, ⟨rfl, rfl⟩, h⟩ := h
  rcases h with ⟨hsome, h⟩ | ⟨-, h⟩
  · rw [Attempt.returns_pure] at h
    rw [h.2]
    exact hsome
  · simp only [Attempt.returns_modify] at h
    obtain ⟨_, _, -, _, failed, rfl, hevent⟩ := h
    obtain ⟨_, _, _, rfl⟩ := event_returns hevent
    rfl

theorem bytesReceived_returns {count : JsNumber}
    (h : (setup.bytesReceived count).Returns before () after) :
    (before.active = false ∧ after = before) ∨
      ∃ wanted, maybeSafeNatural count = some wanted ∧ before.bytes + wanted ≤ 262144 ∧
        Timed { before with bytes := before.bytes + wanted } after := by
  simp only [RestartSetup.bytesReceived, Attempt.returns_bind, Attempt.returns_get,
    Attempt.returns_ite, Attempt.returns_pure] at h
  obtain ⟨_, _, ⟨rfl, rfl⟩, h⟩ := h
  rcases h with ⟨hinactive, -, rfl⟩ | ⟨-, _, between, hremaining, h⟩
  · exact Or.inl ⟨by simpa using hinactive, rfl⟩
  obtain ⟨-, ⟨_, _, _, rfl⟩, -⟩ := remaining_returns hremaining
  cases hcount : maybeSafeNatural count with
  | none => simp [hcount] at h
  | some wanted =>
      simp only [hcount, Attempt.returns_bind, Attempt.returns_get, Attempt.returns_ensure,
        Attempt.returns_modify, decide_eq_true_eq] at h
      obtain ⟨_, _, ⟨rfl, rfl⟩, _, _, ⟨-, rfl⟩, _, _, rfl, _, _, ⟨rfl, rfl⟩, hbound, rfl⟩ := h
      exact Or.inr ⟨wanted, rfl, hbound, _, _, _, rfl⟩

theorem byte_returns {byte : UInt8} (h : (setup.byte byte).Returns before () after) :
    (before.active = false ∧ after = before) ∨
      (if byte = 10 then before.records + 1 else before.records) ≤ 512 ∧
        Timed { before with records := if byte = 10 then before.records + 1 else before.records }
          after := by
  simp only [RestartSetup.byte, Attempt.returns_bind, Attempt.returns_get,
    Attempt.returns_ite, Attempt.returns_pure] at h
  obtain ⟨_, _, ⟨rfl, rfl⟩, h⟩ := h
  rcases h with ⟨hinactive, -, rfl⟩ | ⟨-, _, between, hremaining, h⟩
  · exact Or.inl ⟨by simpa using hinactive, rfl⟩
  obtain ⟨-, ⟨_, _, _, rfl⟩, -⟩ := remaining_returns hremaining
  simp only [Attempt.returns_modify, Attempt.returns_ensure, decide_eq_true_eq] at h
  obtain ⟨_, _, rfl, _, _, ⟨rfl, rfl⟩, hbound, rfl⟩ := h
  exact Or.inr ⟨hbound, _, _, _, rfl⟩

theorem acknowledge_returns {input : JsValue}
    (h : (setup.acknowledge input).Returns before () after) :
    before.maybeAck = none ∧
      ∃ ack, parseQualificationRestartAck input setup.request setup.kind.ackSchema = .ok ack ∧
        Timed { before with
          maybeAck := some ack, stage := .acknowledged, bootMode := true } after := by
  simp only [RestartSetup.acknowledge, Attempt.returns_bind, Attempt.returns_get,
    Attempt.returns_ensure, Attempt.returns_ofExcept, Attempt.returns_modify] at h
  obtain ⟨_, _, ⟨rfl, rfl⟩, _, _, ⟨harmed, rfl⟩, ack, _, ⟨hack, rfl⟩, _, _, rfl, hevent⟩ := h
  simp only [Bool.and_eq_true, Option.isNone_iff_eq_none] at harmed
  exact ⟨harmed.1.1, ack, hack, event_returns hevent⟩

theorem interrupted_returns (h : setup.interrupted.Returns before () after) :
    before.maybeAck.isSome ∧
      Timed { before with interrupted := true, streamEnd := true } after := by
  simp only [RestartSetup.interrupted, Attempt.returns_bind, Attempt.returns_get,
    Attempt.returns_ensure, Attempt.returns_modify] at h
  obtain ⟨_, _, ⟨rfl, rfl⟩, _, _, ⟨hready, rfl⟩, _, _, rfl, _, _, hevent, rfl⟩ := h
  obtain ⟨_, _, _, rfl⟩ := event_returns hevent
  simp only [Bool.and_eq_true] at hready
  exact ⟨hready.1.1, _, _, _, rfl⟩

theorem requireReopen_returns (h : setup.requireReopen.Returns before () after) :
    before.interrupted = true ∧ before.reopens = 0 ∧ Timed before after := by
  simp only [requireReopen, Attempt.returns_bind, Attempt.returns_get,
    Attempt.returns_ensure] at h
  obtain ⟨_, _, hremaining, _, _, ⟨rfl, rfl⟩, hready, rfl⟩ := h
  obtain ⟨-, ⟨_, _, _, rfl⟩, -⟩ := remaining_returns hremaining
  simp only [Bool.and_eq_true, beq_iff_eq] at hready
  exact ⟨hready.1.2, hready.2, _, _, _, rfl⟩

theorem reopened_returns (h : setup.reopened.Returns before () after) :
    before.interrupted = true ∧ before.reopens = 0 ∧
      Timed { before with
        reopens := 1
        bootMode := true
        stage := .acknowledged
        boot := false
        identity := false
        hasAdmitted := false
        statisticsActive := false
        readySamples := 0
        maybeReadyUptime := none
        ready := false
        streamEnd := false } after := by
  simp only [RestartSetup.reopened, Attempt.returns_bind, Attempt.returns_modify] at h
  obtain ⟨_, _, hrequire, _, _, rfl, _, _, hevent, rfl⟩ := h
  obtain ⟨hinterrupted, hreopens, _, _, _, rfl⟩ := requireReopen_returns hrequire
  obtain ⟨_, _, _, rfl⟩ := event_returns hevent
  exact ⟨hinterrupted, hreopens, _, _, _, rfl⟩

theorem helloStarted_returns (h : setup.helloStarted.Returns before () after) :
    Timed { before with bootMode := false, stage := .reacquiring } after := by
  simp only [RestartSetup.helloStarted, Attempt.returns_bind, Attempt.returns_get,
    Attempt.returns_ensure, Attempt.returns_modify] at h
  obtain ⟨_, _, hremaining, _, _, ⟨rfl, rfl⟩, _, _, ⟨-, rfl⟩, _, _, rfl, hevent⟩ := h
  obtain ⟨-, ⟨_, _, _, rfl⟩, -⟩ := remaining_returns hremaining
  obtain ⟨_, _, _, rfl⟩ := event_returns hevent
  exact ⟨_, _, _, rfl⟩

theorem admitted_returns (h : RestartSetup.admitted.Returns before () after) :
    after = { before with hasAdmitted := true } := by
  simp only [RestartSetup.admitted, Attempt.returns_bind, Attempt.returns_modify] at h
  obtain ⟨_, _, hcheck, rfl⟩ := h
  obtain ⟨-, rfl⟩ := check_returns hcheck
  rfl

end RestartSetup

/-! ## What a record says -/

/-- A record says one thing about a field. -/
theorem diagnosticIs_unique {value : WorkerSerialDiagnostic} {key first second : String}
    (hfirst : diagnosticIs value key first = true) (hne : first ≠ second) :
    diagnosticIs value key second = false := by
  rw [diagnosticIs, beq_iff_eq] at hfirst
  rw [diagnosticIs, hfirst, beq_eq_false_iff_ne]
  intro hsame
  cases hsame
  exact hne rfl

/-- The boot record the restart is to bring. -/
def RestartSetup.isRestartBoot (setup : RestartSetup) (value : WorkerSerialDiagnostic) : Bool :=
  diagnosticIs value "category" "boot" &&
    decide (maybeNumber value "boot_ordinal" = some (setup.nextBootOrdinal : ℤ)) &&
    diagnosticIs value "reset_reason" setup.kind.resetReason

/-- A boot record with another ordinal. -/
def RestartSetup.isOtherBoot (setup : RestartSetup) (value : WorkerSerialDiagnostic) : Bool :=
  diagnosticIs value "category" "boot" &&
    decide (maybeNumber value "boot_ordinal" ≠ some (setup.nextBootOrdinal : ℤ))

/-- The identity of the expected firmware. -/
def RestartSetup.isExpectedIdentity (setup : RestartSetup) (value : WorkerSerialDiagnostic) :
    Bool :=
  diagnosticIs value "category" "runtime_identity" &&
    diagnosticIs value "firmware_commit" setup.firmwareSourceCommit &&
    diagnosticIs value "app_elf_sha256" setup.appElfSha256

/-- The identity of another firmware. -/
def RestartSetup.isOtherIdentity (setup : RestartSetup) (value : WorkerSerialDiagnostic) : Bool :=
  diagnosticIs value "category" "runtime_identity" &&
    !(diagnosticIs value "firmware_commit" setup.firmwareSourceCommit &&
      diagnosticIs value "app_elf_sha256" setup.appElfSha256)

/-- The statistics owner reports that state. -/
def reportsStatistics (state : String) (value : WorkerSerialDiagnostic) : Bool :=
  diagnosticIs value "category" "statistics_startup" && diagnosticIs value "state" state

/-- The uptime of a sample that shows the runtime ready. -/
def runtimeReadyAt (value : WorkerSerialDiagnostic) : Option ℤ :=
  if diagnosticIs value "category" "startup" && diagnosticIs value "stage" "runtime_ready" &&
      diagnosticIs value "state" "complete" && diagnosticIs value "first_failure" "none" then
    maybeNumber value "uptime_ms"
  else none

namespace RestartSetup

open RestartObserver

variable {setup : RestartSetup} {before after : RestartObserver} {value : WorkerSerialDiagnostic}

/-- What a record may do to the flags once the restart is acknowledged. -/
inductive Observed (setup : RestartSetup) (value : WorkerSerialDiagnostic)
    (before : RestartObserver) : RestartObserver → Prop
  | ended (hcategory : diagnosticIs value "category" "boot" = true)
      (hbefore : before.boot = false) : Observed setup value before before
  | booted (ready : Bool) (hvalue : setup.isRestartBoot value = true)
      (hbefore : before.boot = false) :
      Observed setup value before { before with
        readySamples := 0, maybeReadyUptime := none, statisticsActive := false, boot := true,
        ready := ready }
  | bootedAgain (ready : Bool) (hvalue : setup.isRestartBoot value = true)
      (hbefore : before.boot = true) : Observed setup value before { before with ready := ready }
  | identified (ready : Bool) (hvalue : setup.isExpectedIdentity value = true) :
      Observed setup value before { before with identity := true, ready := ready }
  | statistics (ready : Bool)
      (hcategory : diagnosticIs value "category" "statistics_startup" = true) :
      Observed setup value before { before with
        statisticsRequired := before.statisticsRequired || diagnosticIs value "state" "prepared"
        statisticsActive :=
          (before.statisticsActive && !diagnosticIs value "state" "prepared") ||
            (before.boot && diagnosticIs value "state" "active")
        ready := ready }
  | sampled (ready : Bool) (uptime : ℤ) (hvalue : runtimeReadyAt value = some uptime)
      (hbefore : before.boot = true) :
      Observed setup value before { before with
        readySamples :=
          if before.maybeReadyUptime.all fun last => decide (last < uptime) then
            before.readySamples + 1
          else before.readySamples
        maybeReadyUptime := some uptime
        ready := ready }
  | kept (ready : Bool) (hboot : diagnosticIs value "category" "boot" = false)
      (hidentity : diagnosticIs value "category" "runtime_identity" = false)
      (hstatistics : diagnosticIs value "category" "statistics_startup" = false) :
      Observed setup value before { before with ready := ready }

theorem observeBoot_returns {expected : Bool}
    (h : (setup.observeBoot value).Returns before expected after) :
    (expected = true ∧ diagnosticIs value "category" "boot" = true ∧ before.boot = false ∧
        after = before) ∨
      (expected = false ∧ diagnosticIs value "category" "boot" = false ∧ after = before) ∨
      (expected = false ∧ setup.isRestartBoot value = true ∧ after = if before.boot then before
        else { before with
          readySamples := 0, maybeReadyUptime := none, statisticsActive := false, boot := true }) := by
  simp only [observeBoot, Attempt.returns_bind, Attempt.returns_get, Attempt.returns_ite] at h
  obtain ⟨_, _, ⟨rfl, rfl⟩, h⟩ := h
  rcases h with ⟨hcategory, h⟩ | ⟨hcategory, ⟨hexpected, h⟩ | ⟨-, h⟩⟩
  · rw [Attempt.returns_pure] at h
    exact Or.inr (Or.inl ⟨h.1, by simpa using hcategory, h.2⟩)
  · rw [Attempt.returns_pure] at h
    exact Or.inl ⟨h.1, by simpa using hcategory, hexpected.2, h.2⟩
  · simp only [Attempt.returns_ensure, Attempt.returns_modify, Attempt.returns_pure] at h
    obtain ⟨_, _, ⟨hordinal, rfl⟩, h⟩ := h
    have hvalue : setup.isRestartBoot value = true := by
      simp only [Bool.not_eq_true, Bool.not_eq_false', Bool.and_eq_true] at hcategory hordinal
      simp only [isRestartBoot, Bool.and_eq_true]
      exact ⟨⟨by simpa using hcategory, hordinal.1⟩, hordinal.2⟩
    rcases h with ⟨hboot, _, _, rfl, hfalse, rfl⟩ | ⟨hboot, hfalse, rfl⟩
    · refine Or.inr (Or.inr ⟨hfalse, hvalue, ?_⟩)
      rw [if_neg (by simpa using hboot)]
    · refine Or.inr (Or.inr ⟨hfalse, hvalue, ?_⟩)
      rw [if_pos (by simpa using hboot)]

theorem observeIdentity_returns (h : (setup.observeIdentity value).Returns before () after) :
    (diagnosticIs value "category" "runtime_identity" = false ∧ after = before) ∨
      (setup.isExpectedIdentity value = true ∧ after = { before with identity := true }) := by
  simp only [observeIdentity, Attempt.returns_ite, Attempt.returns_bind, Attempt.returns_ensure,
    Attempt.returns_modify, Attempt.returns_pure] at h
  rcases h with ⟨hcategory, -, rfl⟩ | ⟨hcategory, _, _, ⟨hidentity, rfl⟩, rfl⟩
  · exact Or.inl ⟨by simpa using hcategory, rfl⟩
  · refine Or.inr ⟨?_, rfl⟩
    rw [isExpectedIdentity, Bool.and_assoc, hidentity]
    simpa using hcategory

theorem observeStatistics_returns (h : (setup.observeStatistics value).Returns before () after) :
    (diagnosticIs value "category" "statistics_startup" = false ∧ after = before) ∨
      (diagnosticIs value "category" "statistics_startup" = true ∧ after = { before with
        statisticsRequired := before.statisticsRequired || diagnosticIs value "state" "prepared"
        statisticsActive :=
          (before.statisticsActive && !diagnosticIs value "state" "prepared") ||
            (before.boot && diagnosticIs value "state" "active") }) := by
  simp only [observeStatistics, Attempt.returns_ite, Attempt.returns_bind, Attempt.returns_modify,
    Attempt.returns_pure, Attempt.returns_throw] at h
  rcases h with ⟨hcategory, -, rfl⟩ | ⟨hcategory, ⟨-, _, _, -, hfalse⟩ | ⟨-, rfl⟩⟩
  · exact Or.inl ⟨by simpa using hcategory, rfl⟩
  · exact absurd hfalse id
  · exact Or.inr ⟨by simpa using hcategory, rfl⟩

theorem observeStartup_returns (h : (observeStartup value).Returns before () after) :
    after = before ∨ ∃ uptime, runtimeReadyAt value = some uptime ∧ before.boot = true ∧
      after = { before with
        readySamples :=
          if before.maybeReadyUptime.all fun last => decide (last < uptime) then
            before.readySamples + 1
          else before.readySamples
        maybeReadyUptime := some uptime } := by
  simp only [observeStartup, Attempt.returns_ite, Attempt.returns_bind, Attempt.returns_ensure,
    Attempt.returns_get, Attempt.returns_pure] at h
  rcases h with ⟨-, -, rfl⟩ | ⟨hcategory, _, _, ⟨hnone, rfl⟩, _, _, ⟨rfl, rfl⟩, h⟩
  · exact Or.inl rfl
  cases huptime : maybeNumber value "uptime_ms" with
  | none =>
      rw [huptime] at h
      simp only [Attempt.returns_pure] at h
      exact Or.inl h.2
  | some uptime =>
      rw [huptime] at h
      simp only [Attempt.returns_ite, Attempt.returns_bind, Attempt.returns_ensure,
        Attempt.returns_modify, Attempt.returns_pure] at h
      rcases h with ⟨hsample, _, _, ⟨-, rfl⟩, rfl⟩ | ⟨-, -, rfl⟩
      · refine Or.inr ⟨uptime, ?_, ?_, rfl⟩
        · simp only [Bool.and_eq_true] at hsample hnone
          rw [runtimeReadyAt, if_pos, huptime]
          simp only [Bool.and_eq_true]
          exact ⟨⟨⟨by simpa using hcategory, hsample.1.2⟩, hsample.2⟩, hnone.1⟩
        · simp only [Bool.and_eq_true] at hsample
          exact hsample.1.1
      · exact Or.inl rfl

theorem observe_returns (h : (setup.observe value).Returns before () after) :
    setup.Observed value before after := by
  simp only [observe, Attempt.returns_bind, Attempt.returns_ite, Attempt.returns_modify,
    Attempt.returns_pure] at h
  obtain ⟨expected, booted, hboot, h⟩ := h
  rcases observeBoot_returns hboot with ⟨rfl, hcategory, hbefore, rfl⟩ | ⟨rfl, hother, rfl⟩ |
    ⟨rfl, hvalue, rfl⟩
  · rcases h with ⟨-, -, rfl⟩ | ⟨hfalse, -⟩
    · exact .ended hcategory hbefore
    · exact absurd rfl hfalse
  · rcases h with ⟨hfalse, -⟩ | ⟨-, _, identified, hidentity, _, counted, hstatistics, _, _,
      hstartup, rfl⟩
    · cases hfalse
    rcases observeIdentity_returns hidentity with ⟨hnamed, rfl⟩ | ⟨hvalue, rfl⟩
    · rcases observeStatistics_returns hstatistics with ⟨hreported, rfl⟩ | ⟨hcategory, rfl⟩
      · rcases observeStartup_returns hstartup with rfl | ⟨uptime, hvalue, hbefore, rfl⟩
        · exact .kept _ hother hnamed hreported
        · exact .sampled _ uptime hvalue hbefore
      · rcases observeStartup_returns hstartup with rfl | ⟨uptime, hvalue, -, -⟩
        · exact .statistics _ hcategory
        · rw [runtimeReadyAt, diagnosticIs_unique hcategory (by decide)] at hvalue
          cases hvalue
    · have hcategory : diagnosticIs value "category" "runtime_identity" = true := by
        simp only [isExpectedIdentity, Bool.and_eq_true] at hvalue
        exact hvalue.1.1
      rcases observeStatistics_returns hstatistics with ⟨-, rfl⟩ | ⟨hwrong, -⟩
      · rcases observeStartup_returns hstartup with rfl | ⟨uptime, hsample, -, -⟩
        · exact .identified _ hvalue
        · rw [runtimeReadyAt, diagnosticIs_unique hcategory (by decide)] at hsample
          cases hsample
      · rw [diagnosticIs_unique hcategory (by decide)] at hwrong
        cases hwrong
  · rcases h with ⟨hfalse, -⟩ | ⟨-, _, identified, hidentity, _, counted, hstatistics, _, _,
      hstartup, rfl⟩
    · cases hfalse
    have hcategory : diagnosticIs value "category" "boot" = true := by
      simp only [isRestartBoot, Bool.and_eq_true] at hvalue
      exact hvalue.1.1
    rcases observeIdentity_returns hidentity with ⟨-, rfl⟩ | ⟨hwrong, -⟩
    · rcases observeStatistics_returns hstatistics with ⟨-, rfl⟩ | ⟨hwrong, -⟩
      · rcases observeStartup_returns hstartup with rfl | ⟨uptime, hsample, -, -⟩
        · cases hbefore : before.boot with
          | true => exact .bootedAgain _ hvalue hbefore
          | false => exact .booted _ hvalue hbefore
        · rw [runtimeReadyAt, diagnosticIs_unique hcategory (by decide)] at hsample
          cases hsample
      · rw [diagnosticIs_unique hcategory (by decide)] at hwrong
        cases hwrong
    · rw [isExpectedIdentity, diagnosticIs_unique hcategory (by decide)] at hwrong
      cases hwrong

/-- A record that is given is one the closed grammars have, and once the restart is acknowledged
it does what its kind does. -/
theorem diagnostic_returns (h : (setup.diagnostic value).Returns before () after) :
    (before.active = false ∧ after = before) ∨
      ∃ parsed between, maybeValidatedDiagnostic value = some parsed ∧
        (∃ observations, Timed { before with observations := observations } between) ∧
        ((before.maybeAck = none ∧ after = between) ∨
          (before.maybeAck.isSome = true ∧ setup.Observed parsed between after)) := by
  simp only [RestartSetup.diagnostic, Attempt.returns_bind, Attempt.returns_get,
    Attempt.returns_ite, Attempt.returns_pure] at h
  obtain ⟨before, before, ⟨rfl, rfl⟩, h⟩ := h
  rcases h with ⟨hinactive, -, rfl⟩ | ⟨-, h⟩
  · exact Or.inl ⟨by simpa using hinactive, rfl⟩
  cases hparsed : maybeValidatedDiagnostic value with
  | none => simp [hparsed] at h
  | some parsed =>
      simp only [hparsed, Attempt.returns_bind, Attempt.returns_get, Attempt.returns_ensure,
        Attempt.returns_modify, Attempt.returns_ite, Attempt.returns_pure] at h
      obtain ⟨_, _, hremaining, _, _, ⟨rfl, rfl⟩, _, _, ⟨-, rfl⟩, atMs, _, helapsed, _, kept, hkept,
        kept, kept, ⟨rfl, rfl⟩, h⟩ := h
      obtain ⟨-, ⟨_, _, _, rfl⟩, -⟩ := remaining_returns hremaining
      obtain ⟨-, _, _, _, rfl⟩ := elapsed_returns helapsed
      have hack : kept.maybeAck = before.maybeAck := by rw [hkept]
      refine Or.inr ⟨parsed, kept, rfl, ⟨_, _, _, _, hkept⟩, ?_⟩
      rw [ackMatched, hack] at h
      rcases h with ⟨hnone, -, rfl⟩ | ⟨hsome, h⟩
      · exact Or.inl ⟨by simpa using hnone, rfl⟩
      · exact Or.inr ⟨by simpa [Option.isSome_iff_ne_none] using hsome, observe_returns h⟩

end RestartSetup

/-! ## Calls -/

/-- The record the call gives, if it is one of the closed grammars. -/
def RestartCall.observation : RestartCall → Option WorkerSerialDiagnostic
  | .diagnostic input => maybeValidatedDiagnostic input
  | .rawRecord bytes =>
      (decodeUtf8 bytes >>= fun text => maybeWorkerSerialDiagnostic text.toList) >>=
        maybeValidatedDiagnostic
  | _ => none

/-- The call gives a record with that property. -/
def RestartCall.observes (call : RestartCall) (test : WorkerSerialDiagnostic → Bool) : Bool :=
  call.observation.any test

def RestartCall.isAcknowledge : RestartCall → Bool
  | .acknowledge _ => true
  | _ => false

def RestartCall.isReopened : RestartCall → Bool
  | .reopened => true
  | _ => false

/-- The line feeds the call counts. -/
def RestartCall.lineFeeds : RestartCall → ℕ
  | .byte 10 => 1
  | _ => 0

/-- The bytes the call counts. -/
def RestartCall.counted : RestartCall → ℕ
  | .bytesReceived count => (maybeSafeNatural count).getD 0
  | _ => 0

/-- The calls since the acknowledgement. -/
def sinceAcknowledged (calls : List RestartCall) : List RestartCall :=
  calls.takeWhile fun call => !call.isAcknowledge

/-- The calls since the port was reopened, or all of them. -/
def sinceReopened (calls : List RestartCall) : List RestartCall :=
  calls.takeWhile fun call => !call.isReopened

/-- The calls since the later of the two. -/
def sinceRestart (calls : List RestartCall) : List RestartCall :=
  calls.takeWhile fun call => !call.isAcknowledge && !call.isReopened

/-- Two samples show the runtime ready, the later one with more uptime. -/
def ReadyTwice (calls : List RestartCall) : Prop :=
  Once (fun earlier call => ∃ sample ∈ earlier, ∃ first second,
    sample.observation >>= runtimeReadyAt = some first ∧
      call.observation >>= runtimeReadyAt = some second ∧ first < second) calls

/-- The statistics owner reported itself active, and not prepared after that. -/
def ActiveSincePrepared (calls : List RestartCall) : Prop :=
  Since (fun _ call => call.observes (reportsStatistics "active") = true)
    (fun call => call.observes (reportsStatistics "prepared") = true) calls

/-! ## What the flags summarise -/

/-- What the flags say about the calls after the boot record. -/
structure BootTrail (setup : RestartSetup) (observer : RestartObserver) (later : List RestartCall) :
    Prop where
  sameBoot : ∀ call ∈ later, call.observes setup.isOtherBoot = false
  latest : ∀ uptime, observer.maybeReadyUptime = some uptime →
    ∃ call ∈ later, call.observation >>= runtimeReadyAt = some uptime
  sampled : 0 < observer.readySamples → observer.maybeReadyUptime.isSome = true
  ready : 2 ≤ observer.readySamples → ReadyTwice later
  statistics : observer.statisticsActive = true → ActiveSincePrepared later

/-- What the flags of an observer without a failure say about the calls. -/
structure RestartTrail (setup : RestartSetup) (calls : List RestartCall)
    (observer : RestartObserver) : Prop where
  active : observer.active = true
  unfailed : ∀ error, RestartCall.fail error ∉ calls
  acknowledged : ∀ ack, observer.maybeAck = some ack → ∃ input,
    RestartCall.acknowledge input ∈ calls ∧
      parseQualificationRestartAck input setup.request setup.kind.ackSchema = .ok ack
  unacknowledged : observer.maybeAck = none →
    observer.boot = false ∧ observer.identity = false ∧ observer.interrupted = false
  booted : observer.boot = true → ∃ later boot earlier,
    sinceRestart calls = later ++ boot :: earlier ∧ boot.observes setup.isRestartBoot = true ∧
      BootTrail setup observer later
  identified : observer.identity = true →
    ∃ call ∈ sinceRestart calls, call.observes setup.isExpectedIdentity = true
  sameIdentity : observer.maybeAck.isSome = true →
    ∀ call ∈ sinceRestart calls, call.observes setup.isOtherIdentity = false
  prepared : observer.maybeAck.isSome = true →
    ∀ call ∈ sinceAcknowledged calls, call.observes (reportsStatistics "prepared") = true →
      observer.statisticsRequired = true
  hasAdmitted : observer.hasAdmitted = true → RestartCall.admitted ∈ sinceReopened calls
  reopens : calls.countP RestartCall.isReopened = observer.reopens ∧ observer.reopens ≤ 1
  records : (calls.map RestartCall.lineFeeds).sum = observer.records ∧ observer.records ≤ 512
  bytes : (calls.map RestartCall.counted).sum = observer.bytes ∧ observer.bytes ≤ 262144

/-! ## What a call keeps -/

section Trail

variable {setup : RestartSetup} {calls later : List RestartCall} {call : RestartCall}
  {before after : RestartObserver} {value : WorkerSerialDiagnostic}

theorem sinceRestart_cons (hack : call.isAcknowledge = false) (hreopened : call.isReopened = false) :
    sinceRestart (call :: calls) = call :: sinceRestart calls := by
  simp [sinceRestart, hack, hreopened]

theorem sinceAcknowledged_cons (hack : call.isAcknowledge = false) :
    sinceAcknowledged (call :: calls) = call :: sinceAcknowledged calls := by
  simp [sinceAcknowledged, hack]

theorem sinceReopened_cons (hreopened : call.isReopened = false) :
    sinceReopened (call :: calls) = call :: sinceReopened calls := by
  simp [sinceReopened, hreopened]

theorem observes_of_observation {test : WorkerSerialDiagnostic → Bool}
    (hvalue : call.observation = some value) : call.observes test = test value := by
  rw [RestartCall.observes, hvalue, Option.any_some]

theorem observes_of_none {test : WorkerSerialDiagnostic → Bool} (hvalue : call.observation = none) :
    call.observes test = false := by
  rw [RestartCall.observes, hvalue, Option.any_none]

/-- A record says nothing of a kind it is not of. -/
theorem silent_of_category (setup : RestartSetup) {category : String}
    {value : WorkerSerialDiagnostic}
    (hcategory : diagnosticIs value "category" category = true) :
    (category ≠ "boot" → setup.isOtherBoot value = false) ∧
      (category ≠ "runtime_identity" → setup.isOtherIdentity value = false) ∧
      (category ≠ "statistics_startup" → ∀ state, reportsStatistics state value = false) := by
  refine ⟨fun hne => ?_, fun hne => ?_, fun hne state => ?_⟩
  · rw [RestartSetup.isOtherBoot, diagnosticIs_unique hcategory hne, Bool.false_and]
  · rw [RestartSetup.isOtherIdentity, diagnosticIs_unique hcategory hne, Bool.false_and]
  · rw [reportsStatistics, diagnosticIs_unique hcategory hne, Bool.false_and]

theorem category_of_restartBoot (hvalue : setup.isRestartBoot value = true) :
    diagnosticIs value "category" "boot" = true ∧ setup.isOtherBoot value = false := by
  simp only [RestartSetup.isRestartBoot, Bool.and_eq_true, decide_eq_true_eq] at hvalue
  refine ⟨hvalue.1.1, ?_⟩
  rw [RestartSetup.isOtherBoot, hvalue.1.2]
  simp

theorem category_of_expectedIdentity (hvalue : setup.isExpectedIdentity value = true) :
    diagnosticIs value "category" "runtime_identity" = true ∧
      setup.isOtherIdentity value = false := by
  simp only [RestartSetup.isExpectedIdentity, Bool.and_eq_true] at hvalue
  refine ⟨hvalue.1.1, ?_⟩
  rw [RestartSetup.isOtherIdentity, hvalue.1.2, hvalue.2]
  simp

theorem category_of_sample {uptime : ℤ} (hvalue : runtimeReadyAt value = some uptime) :
    diagnosticIs value "category" "startup" = true := by
  rw [runtimeReadyAt] at hvalue
  split at hvalue
  · next hsample =>
      simp only [Bool.and_eq_true] at hsample
      exact hsample.1.1.1
  · cases hvalue

/-- After an observed record no other boot and no other identity was seen. -/
theorem RestartSetup.Observed.excludes (hobserved : setup.Observed value before after) :
    (before.boot = true → setup.isOtherBoot value = false) ∧
      setup.isOtherIdentity value = false := by
  cases hobserved with
  | ended hcategory hbefore =>
      refine ⟨fun hboot => ?_, (silent_of_category setup hcategory).2.1 (by decide)⟩
      rw [hbefore] at hboot
      cases hboot
  | booted ready hvalue hbefore =>
      obtain ⟨hcategory, hsame⟩ := category_of_restartBoot hvalue
      exact ⟨fun _ => hsame, (silent_of_category setup hcategory).2.1 (by decide)⟩
  | bootedAgain ready hvalue hbefore =>
      obtain ⟨hcategory, hsame⟩ := category_of_restartBoot hvalue
      exact ⟨fun _ => hsame, (silent_of_category setup hcategory).2.1 (by decide)⟩
  | identified ready hvalue =>
      obtain ⟨hcategory, hsame⟩ := category_of_expectedIdentity hvalue
      exact ⟨fun _ => (silent_of_category setup hcategory).1 (by decide), hsame⟩
  | statistics ready hcategory =>
      obtain ⟨hboot, hidentity, -⟩ := silent_of_category setup hcategory
      exact ⟨fun _ => hboot (by decide), hidentity (by decide)⟩
  | sampled ready uptime hvalue hbefore =>
      obtain ⟨hboot, hidentity, -⟩ :=
        silent_of_category setup (category_of_sample hvalue)
      exact ⟨fun _ => hboot (by decide), hidentity (by decide)⟩
  | kept ready hboot hidentity hstatistics =>
      refine ⟨fun _ => ?_, ?_⟩
      · rw [RestartSetup.isOtherBoot, hboot, Bool.false_and]
      · rw [RestartSetup.isOtherIdentity, hidentity, Bool.false_and]

/-- A call after the boot record that shows neither another boot nor the statistics owner prepared
keeps what the flags say, if it leaves them. -/
theorem BootTrail.silent (htrail : BootTrail setup before later)
    (hboot : call.observes setup.isOtherBoot = false)
    (hprepared : call.observes (reportsStatistics "prepared") = false)
    (hsamples : after.readySamples = before.readySamples)
    (huptime : after.maybeReadyUptime = before.maybeReadyUptime)
    (hstatistics : after.statisticsActive = before.statisticsActive) :
    BootTrail setup after (call :: later) where
  sameBoot := by
    intro other hother
    rcases List.mem_cons.mp hother with rfl | hother
    · exact hboot
    · exact htrail.sameBoot other hother
  latest := by
    intro uptime hlast
    rw [huptime] at hlast
    obtain ⟨sample, hsample, hshows⟩ := htrail.latest uptime hlast
    exact ⟨sample, List.mem_cons_of_mem _ hsample, hshows⟩
  sampled := by
    rw [hsamples, huptime]
    exact htrail.sampled
  ready := by
    intro htwo
    rw [hsamples] at htwo
    exact (htrail.ready htwo).cons
  statistics := by
    intro hactive
    rw [hstatistics] at hactive
    apply (htrail.statistics hactive).later
    rw [hprepared]
    exact Bool.false_ne_true

/-- Right after the boot record the flags say nothing. -/
theorem BootTrail.fresh (hsamples : after.readySamples = 0) (huptime : after.maybeReadyUptime = none)
    (hstatistics : after.statisticsActive = false) : BootTrail setup after [] where
  sameBoot := by simp
  latest := by
    intro uptime hlast
    rw [huptime] at hlast
    cases hlast
  sampled := by
    intro hpositive
    rw [hsamples] at hpositive
    exact absurd hpositive (Nat.lt_irrefl 0)
  ready := by
    intro htwo
    rw [hsamples] at htwo
    exact absurd htwo (by decide)
  statistics := by
    intro hactive
    rw [hstatistics] at hactive
    cases hactive

/-- A sample of the runtime counts if its uptime is past the last one. -/
theorem BootTrail.sample (htrail : BootTrail setup before later) {uptime : ℤ}
    (hvalue : call.observation = some value) (hsample : runtimeReadyAt value = some uptime)
    (hsamples : after.readySamples =
      if before.maybeReadyUptime.all fun last => decide (last < uptime) then before.readySamples + 1
      else before.readySamples)
    (huptime : after.maybeReadyUptime = some uptime)
    (hstatistics : after.statisticsActive = before.statisticsActive) :
    BootTrail setup after (call :: later) := by
  obtain ⟨hboot, -, hreports⟩ := silent_of_category setup (category_of_sample hsample)
  have hshows : call.observation >>= runtimeReadyAt = some uptime := by
    rw [hvalue]
    exact hsample
  exact {
    sameBoot := by
      intro other hother
      rcases List.mem_cons.mp hother with rfl | hother
      · rw [observes_of_observation hvalue]
        exact hboot (by decide)
      · exact htrail.sameBoot other hother
    latest := by
      intro last hlast
      rw [huptime] at hlast
      cases hlast
      exact ⟨call, List.mem_cons_self, hshows⟩
    sampled := by
      intro _
      rw [huptime]
      rfl
    ready := by
      intro htwo
      rw [hsamples] at htwo
      split at htwo
      · next hall =>
          cases hlast : before.maybeReadyUptime with
          | none =>
              have hsampled := htrail.sampled (by omega)
              rw [hlast] at hsampled
              cases hsampled
          | some last =>
              rw [hlast, Option.all_some, decide_eq_true_eq] at hall
              obtain ⟨sample, hmem, hbefore⟩ := htrail.latest last hlast
              exact Once.now ⟨sample, hmem, last, uptime, hbefore, hshows, hall⟩
      · exact (htrail.ready htwo).cons
    statistics := by
      intro hactive
      rw [hstatistics] at hactive
      apply (htrail.statistics hactive).later
      rw [observes_of_observation hvalue, hreports (by decide)]
      exact Bool.false_ne_true }

/-- A report of the statistics owner after the boot record. -/
theorem BootTrail.reported (htrail : BootTrail setup before later)
    (hvalue : call.observation = some value)
    (hcategory : diagnosticIs value "category" "statistics_startup" = true)
    (hsamples : after.readySamples = before.readySamples)
    (huptime : after.maybeReadyUptime = before.maybeReadyUptime)
    (hstatistics : after.statisticsActive =
      ((before.statisticsActive && !diagnosticIs value "state" "prepared") ||
        (before.boot && diagnosticIs value "state" "active"))) :
    BootTrail setup after (call :: later) where
  sameBoot := by
    intro other hother
    rcases List.mem_cons.mp hother with rfl | hother
    · rw [observes_of_observation hvalue]
      exact (silent_of_category setup hcategory).1 (by decide)
    · exact htrail.sameBoot other hother
  latest := by
    intro uptime hlast
    rw [huptime] at hlast
    obtain ⟨sample, hsample, hshows⟩ := htrail.latest uptime hlast
    exact ⟨sample, List.mem_cons_of_mem _ hsample, hshows⟩
  sampled := by
    rw [hsamples, huptime]
    exact htrail.sampled
  ready := by
    intro htwo
    rw [hsamples] at htwo
    exact (htrail.ready htwo).cons
  statistics := by
    intro hactive
    rw [hstatistics] at hactive
    by_cases hnow : diagnosticIs value "state" "active" = true
    · apply Since.now
      rw [observes_of_observation hvalue, reportsStatistics, hcategory, hnow]
      rfl
    · simp only [hnow, Bool.and_false, Bool.or_false, Bool.and_eq_true] at hactive
      apply (htrail.statistics hactive.1).later
      rw [observes_of_observation hvalue, reportsStatistics, hcategory, Bool.true_and]
      simpa using hactive.2

/-- What the flags say after a record, if the boot record came before it. -/
theorem BootTrail.observed (htrail : BootTrail setup before later) (hbooted : before.boot = true)
    (hvalue : call.observation = some value) (hobserved : setup.Observed value before after) :
    BootTrail setup after (call :: later) := by
  have hother : call.observes setup.isOtherBoot = false := by
    rw [observes_of_observation hvalue]
    exact hobserved.excludes.1 hbooted
  have hsilent : ∀ {category}, diagnosticIs value "category" category = true →
      category ≠ "statistics_startup" →
        call.observes (reportsStatistics "prepared") = false := by
    intro category hcategory hne
    rw [observes_of_observation hvalue]
    exact (silent_of_category setup hcategory).2.2 hne "prepared"
  cases hobserved with
  | ended hcategory hbefore =>
      exact htrail.silent hother (hsilent hcategory (by decide)) rfl rfl rfl
  | booted ready hboot hbefore =>
      rw [hbooted] at hbefore
      cases hbefore
  | bootedAgain ready hboot hbefore =>
      exact htrail.silent hother (hsilent (category_of_restartBoot hboot).1 (by decide)) rfl rfl rfl
  | identified ready hidentity =>
      exact htrail.silent hother (hsilent (category_of_expectedIdentity hidentity).1 (by decide))
        rfl rfl rfl
  | statistics ready hcategory => exact htrail.reported hvalue hcategory rfl rfl rfl
  | sampled ready uptime hsample hbefore => exact htrail.sample hvalue hsample rfl rfl rfl
  | kept ready hboot hidentity hstatistics =>
      refine htrail.silent hother ?_ rfl rfl rfl
      rw [observes_of_observation hvalue, reportsStatistics, hstatistics, Bool.false_and]

/-- The flags a summary of the calls is made of are the same. -/
structure SameFlags (before after : RestartObserver) : Prop where
  maybeAck : after.maybeAck = before.maybeAck
  boot : after.boot = before.boot
  identity : after.identity = before.identity
  readySamples : after.readySamples = before.readySamples
  maybeReadyUptime : after.maybeReadyUptime = before.maybeReadyUptime
  statisticsRequired : after.statisticsRequired = before.statisticsRequired
  statisticsActive : after.statisticsActive = before.statisticsActive
  reopens : after.reopens = before.reopens

/-- The bytes and line feeds are counted and within their bounds. -/
def Counted (before after : RestartObserver) (call : RestartCall) : Prop :=
  (after.records = before.records + call.lineFeeds ∧ after.records ≤ 512) ∧
    after.bytes = before.bytes + call.counted ∧ after.bytes ≤ 262144

theorem RestartTrail.counted (htrail : RestartTrail setup calls before)
    (hcounted : Counted before after call) :
    (((call :: calls).map RestartCall.lineFeeds).sum = after.records ∧ after.records ≤ 512) ∧
      ((call :: calls).map RestartCall.counted).sum = after.bytes ∧ after.bytes ≤ 262144 := by
  obtain ⟨⟨hrecords, hrecordBound⟩, hbytes, hbyteBound⟩ := hcounted
  refine ⟨⟨?_, hrecordBound⟩, ?_, hbyteBound⟩
  · rw [List.map_cons, List.sum_cons, htrail.records.1, hrecords, Nat.add_comm]
  · rw [List.map_cons, List.sum_cons, htrail.bytes.1, hbytes, Nat.add_comm]

/-- A call that counts nothing. -/
theorem RestartTrail.uncounted (htrail : RestartTrail setup calls before)
    (hrecords : after.records = before.records) (hbytes : after.bytes = before.bytes)
    (hfeeds : call.lineFeeds = 0) (hcount : call.counted = 0) : Counted before after call := by
  refine ⟨⟨?_, ?_⟩, ?_, ?_⟩
  · rw [hrecords, hfeeds, Nat.add_zero]
  · rw [hrecords]
    exact htrail.records.2
  · rw [hbytes, hcount, Nat.add_zero]
  · rw [hbytes]
    exact htrail.bytes.2

/-- A call that gives no record, or comes before the acknowledgement, and changes no flag. -/
theorem RestartTrail.passed (htrail : RestartTrail setup calls before)
    (hack : call.isAcknowledge = false) (hreopened : call.isReopened = false)
    (hfail : ∀ error, call ≠ .fail error)
    (hsilent : call.observation = none ∨ before.maybeAck = none)
    (hsame : SameFlags before after) (hactive : after.active = true)
    (hinterrupted : after.maybeAck = none → after.interrupted = false)
    (hadmitted : after.hasAdmitted = true → before.hasAdmitted = true ∨ call = .admitted)
    (hcounted : Counted before after call) : RestartTrail setup (call :: calls) after where
  active := hactive
  unfailed := by
    intro error hmem
    rcases List.mem_cons.mp hmem with heq | hmem
    · exact hfail error heq.symm
    · exact htrail.unfailed error hmem
  acknowledged := by
    intro ack hfound
    rw [hsame.maybeAck] at hfound
    obtain ⟨input, hinput, hparsed⟩ := htrail.acknowledged ack hfound
    exact ⟨input, List.mem_cons_of_mem _ hinput, hparsed⟩
  unacknowledged := by
    intro hnone
    have hidle := htrail.unacknowledged (hsame.maybeAck ▸ hnone)
    rw [hsame.boot, hsame.identity]
    exact ⟨hidle.1, hidle.2.1, hinterrupted hnone⟩
  booted := by
    intro hboot
    rw [hsame.boot] at hboot
    rw [sinceRestart_cons hack hreopened]
    obtain ⟨later, boot, earlier, hsplit, hrestart, hlater⟩ := htrail.booted hboot
    have hnone : call.observation = none := by
      refine hsilent.resolve_right fun hidle => ?_
      rw [(htrail.unacknowledged hidle).1] at hboot
      cases hboot
    refine ⟨call :: later, boot, earlier, by rw [hsplit, List.cons_append], hrestart, ?_⟩
    exact hlater.silent (observes_of_none hnone) (observes_of_none hnone) hsame.readySamples
      hsame.maybeReadyUptime hsame.statisticsActive
  identified := by
    intro hidentity
    rw [hsame.identity] at hidentity
    rw [sinceRestart_cons hack hreopened]
    obtain ⟨other, hother, hshows⟩ := htrail.identified hidentity
    exact ⟨other, List.mem_cons_of_mem _ hother, hshows⟩
  sameIdentity := by
    intro hsome other hother
    rw [hsame.maybeAck] at hsome
    rw [sinceRestart_cons hack hreopened] at hother
    rcases List.mem_cons.mp hother with rfl | hother
    · apply observes_of_none
      refine hsilent.resolve_right fun hidle => ?_
      rw [hidle] at hsome
      cases hsome
    · exact htrail.sameIdentity hsome other hother
  prepared := by
    intro hsome other hother hprepared
    rw [hsame.maybeAck] at hsome
    rw [sinceAcknowledged_cons hack] at hother
    rw [hsame.statisticsRequired]
    rcases List.mem_cons.mp hother with rfl | hother
    · have hnone : other.observation = none := by
        refine hsilent.resolve_right fun hidle => ?_
        rw [hidle] at hsome
        cases hsome
      rw [observes_of_none hnone] at hprepared
      cases hprepared
    · exact htrail.prepared hsome other hother hprepared
  hasAdmitted := by
    intro hadmits
    rw [sinceReopened_cons hreopened]
    rcases hadmitted hadmits with hbefore | rfl
    · exact List.mem_cons_of_mem _ (htrail.hasAdmitted hbefore)
    · exact List.mem_cons_self
  reopens := by
    rw [List.countP_cons_of_neg (by rw [hreopened]; exact Bool.false_ne_true), hsame.reopens]
    exact htrail.reopens
  records := (htrail.counted hcounted).1
  bytes := (htrail.counted hcounted).2

/-- The flags an observed record leaves alone. -/
theorem RestartSetup.Observed.frame (hobserved : setup.Observed value before after) :
    after.maybeAck = before.maybeAck ∧ after.stage = before.stage ∧
      after.maybeError = before.maybeError ∧ after.hasAdmitted = before.hasAdmitted ∧
      after.reopens = before.reopens ∧ after.records = before.records ∧
      after.bytes = before.bytes ∧
      (after.identity = true → before.identity = true ∨ setup.isExpectedIdentity value = true) ∧
      (before.statisticsRequired = true → after.statisticsRequired = true) ∧
      (reportsStatistics "prepared" value = true → after.statisticsRequired = true) := by
  cases hobserved with
  | identified ready hvalue =>
      have hreports := (silent_of_category setup
        (category_of_expectedIdentity hvalue).1).2.2 (by decide) "prepared"
      simp [hvalue, hreports]
  | statistics ready hcategory => simp_all [reportsStatistics]
  | ended hcategory hbefore =>
      have hreports := (silent_of_category setup hcategory).2.2 (by decide) "prepared"
      simp_all
  | booted ready hvalue hbefore =>
      have hreports := (silent_of_category setup
        (category_of_restartBoot hvalue).1).2.2 (by decide) "prepared"
      simp_all
  | bootedAgain ready hvalue hbefore =>
      have hreports := (silent_of_category setup
        (category_of_restartBoot hvalue).1).2.2 (by decide) "prepared"
      simp_all
  | sampled ready uptime hvalue hbefore =>
      have hreports := (silent_of_category setup
        (category_of_sample hvalue)).2.2 (by decide) "prepared"
      simp_all
  | kept ready hboot hidentity hstatistics =>
      have hreports : reportsStatistics "prepared" value = false := by
        rw [reportsStatistics, hstatistics, Bool.false_and]
      simp_all

/-- A record that sets the boot flag is the boot record of the restart. -/
theorem RestartSetup.Observed.boots (hobserved : setup.Observed value before after)
    (hbefore : before.boot = false) (hafter : after.boot = true) :
    setup.isRestartBoot value = true ∧ BootTrail setup after [] := by
  cases hobserved with
  | booted ready hvalue => exact ⟨hvalue, BootTrail.fresh rfl rfl rfl⟩
  | ended => rw [hbefore] at hafter; cases hafter
  | bootedAgain => rw [hbefore] at hafter; cases hafter
  | identified => rw [hbefore] at hafter; cases hafter
  | statistics => rw [hbefore] at hafter; cases hafter
  | sampled => rw [hbefore] at hafter; cases hafter
  | kept => rw [hbefore] at hafter; cases hafter

/-- A call that gives a record once the restart is acknowledged. -/
theorem RestartTrail.observed (htrail : RestartTrail setup calls before)
    (hack : call.isAcknowledge = false) (hreopened : call.isReopened = false)
    (hfail : ∀ error, call ≠ .fail error) (hfeeds : call.lineFeeds = 0) (hcount : call.counted = 0)
    (hsome : before.maybeAck.isSome = true) (hvalue : call.observation = some value)
    (hobserved : setup.Observed value before after) : RestartTrail setup (call :: calls) after := by
  obtain ⟨hmaybeAck, hstage, -, hadmitted, hreopens, hrecords, hbytes, hidentity, hrequired,
    hprepared⟩ := hobserved.frame
  have hcounted := htrail.counted (htrail.uncounted hrecords hbytes hfeeds hcount)
  exact {
    active := by
      rw [RestartObserver.active, hstage]
      exact htrail.active
    unfailed := by
      intro error hmem
      rcases List.mem_cons.mp hmem with heq | hmem
      · exact hfail error heq.symm
      · exact htrail.unfailed error hmem
    acknowledged := by
      intro ack hfound
      rw [hmaybeAck] at hfound
      obtain ⟨input, hinput, hparsed⟩ := htrail.acknowledged ack hfound
      exact ⟨input, List.mem_cons_of_mem _ hinput, hparsed⟩
    unacknowledged := by
      intro hnone
      rw [hmaybeAck] at hnone
      rw [hnone] at hsome
      cases hsome
    booted := by
      intro hboot
      rw [sinceRestart_cons hack hreopened]
      cases hbefore : before.boot with
      | true =>
          obtain ⟨later, boot, earlier, hsplit, hrestart, hlater⟩ := htrail.booted hbefore
          exact ⟨call :: later, boot, earlier, by rw [hsplit, List.cons_append], hrestart,
            hlater.observed hbefore hvalue hobserved⟩
      | false =>
          obtain ⟨hrestart, hfresh⟩ := hobserved.boots hbefore hboot
          exact ⟨[], call, sinceRestart calls, rfl, by rwa [observes_of_observation hvalue], hfresh⟩
    identified := by
      intro hidentified
      rw [sinceRestart_cons hack hreopened]
      rcases hidentity hidentified with hbefore | hnow
      · obtain ⟨other, hother, hshows⟩ := htrail.identified hbefore
        exact ⟨other, List.mem_cons_of_mem _ hother, hshows⟩
      · exact ⟨call, List.mem_cons_self, by rwa [observes_of_observation hvalue]⟩
    sameIdentity := by
      intro _ other hother
      rw [sinceRestart_cons hack hreopened] at hother
      rcases List.mem_cons.mp hother with rfl | hother
      · rw [observes_of_observation hvalue]
        exact hobserved.excludes.2
      · exact htrail.sameIdentity hsome other hother
    prepared := by
      intro _ other hother hshows
      rw [sinceAcknowledged_cons hack] at hother
      rcases List.mem_cons.mp hother with rfl | hother
      · rw [observes_of_observation hvalue] at hshows
        exact hprepared hshows
      · exact hrequired (htrail.prepared hsome other hother hshows)
    hasAdmitted := by
      intro hadmits
      rw [hadmitted] at hadmits
      rw [sinceReopened_cons hreopened]
      exact List.mem_cons_of_mem _ (htrail.hasAdmitted hadmits)
    reopens := by
      rw [List.countP_cons_of_neg (by rw [hreopened]; exact Bool.false_ne_true), hreopens]
      exact htrail.reopens
    records := hcounted.1
    bytes := hcounted.2 }

/-- The acknowledgement: nothing has been seen since then. -/
theorem RestartTrail.acknowledge (htrail : RestartTrail setup calls before) {input : JsValue}
    (h : (setup.acknowledge input).Returns before () after) :
    RestartTrail setup (.acknowledge input :: calls) after := by
  obtain ⟨hnone, ack, hparsed, _, _, _, rfl⟩ := RestartSetup.acknowledge_returns h
  obtain ⟨hboot, hidentity, -⟩ := htrail.unacknowledged hnone
  have hquiet : Counted before _ (.acknowledge input) := htrail.uncounted rfl rfl rfl rfl
  have hcounted := htrail.counted hquiet
  exact {
    active := rfl
    unfailed := by
      intro error hmem
      rcases List.mem_cons.mp hmem with heq | hmem
      · cases heq
      · exact htrail.unfailed error hmem
    acknowledged := by
      intro found hfound
      cases hfound
      exact ⟨input, List.mem_cons_self, hparsed⟩
    unacknowledged := by
      intro hfound
      cases hfound
    booted := by
      intro hbooted
      have hfalse : before.boot = true := hbooted
      rw [hboot] at hfalse
      cases hfalse
    identified := by
      intro hidentified
      have hfalse : before.identity = true := hidentified
      rw [hidentity] at hfalse
      cases hfalse
    sameIdentity := by
      intro _ other hother
      cases hother
    prepared := by
      intro _ other hother
      cases hother
    hasAdmitted := by
      intro hadmits
      rw [sinceReopened_cons rfl]
      exact List.mem_cons_of_mem _ (htrail.hasAdmitted hadmits)
    reopens := by
      rw [List.countP_cons_of_neg (by exact Bool.false_ne_true)]
      exact htrail.reopens
    records := hcounted.1
    bytes := hcounted.2 }

/-- The reopening: what was seen before it no longer counts. -/
theorem RestartTrail.reopen (htrail : RestartTrail setup calls before)
    (h : setup.reopened.Returns before () after) :
    RestartTrail setup (.reopened :: calls) after := by
  obtain ⟨hinterrupted, hreopens, _, _, _, rfl⟩ := RestartSetup.reopened_returns h
  have hquiet : Counted before _ .reopened := htrail.uncounted rfl rfl rfl rfl
  have hcounted := htrail.counted hquiet
  exact {
    active := rfl
    unfailed := by
      intro error hmem
      rcases List.mem_cons.mp hmem with heq | hmem
      · cases heq
      · exact htrail.unfailed error hmem
    acknowledged := by
      intro ack hfound
      obtain ⟨input, hinput, hparsed⟩ := htrail.acknowledged ack hfound
      exact ⟨input, List.mem_cons_of_mem _ hinput, hparsed⟩
    unacknowledged := by
      intro hnone
      have hfalse := (htrail.unacknowledged hnone).2.2
      rw [hinterrupted] at hfalse
      cases hfalse
    booted := by
      intro hbooted
      cases hbooted
    identified := by
      intro hidentified
      cases hidentified
    sameIdentity := by
      intro _ other hother
      cases hother
    prepared := by
      intro hsome other hother hshows
      rw [sinceAcknowledged_cons rfl] at hother
      rcases List.mem_cons.mp hother with rfl | hother
      · cases hshows
      · exact htrail.prepared hsome other hother hshows
    hasAdmitted := by
      intro hadmits
      cases hadmits
    reopens := by
      rw [List.countP_cons_of_pos rfl, htrail.reopens.1, hreopens]
      exact ⟨rfl, Nat.le_refl 1⟩
    records := hcounted.1
    bytes := hcounted.2 }

/-- Taking a record in moves no flag. -/
theorem RestartTrail.kept (htrail : RestartTrail setup calls before) (readings : ℕ)
    (lastElapsed : ℤ) (lifecycle : List RestartMoment) (observations : List RestartObservation) :
    RestartTrail setup calls { before with
      readings := readings, lastElapsed := lastElapsed, lifecycle := lifecycle,
      observations := observations } :=
  { htrail with
    booted := by
      intro hboot
      obtain ⟨later, boot, earlier, hsplit, hrestart, hlater⟩ := htrail.booted hboot
      exact ⟨later, boot, earlier, hsplit, hrestart, { hlater with }⟩ }

/-- A record given to an active observer. -/
theorem RestartTrail.diagnostic (htrail : RestartTrail setup calls before)
    (hack : call.isAcknowledge = false) (hreopened : call.isReopened = false)
    (hfail : ∀ error, call ≠ .fail error) (hfeeds : call.lineFeeds = 0) (hcount : call.counted = 0)
    (hvalue : call.observation = maybeValidatedDiagnostic value)
    (h : (setup.diagnostic value).Returns before () after) :
    RestartTrail setup (call :: calls) after := by
  rcases RestartSetup.diagnostic_returns h with ⟨hinactive, -⟩ |
    ⟨parsed, between, hparsed, ⟨observations, readings, lastElapsed, lifecycle, rfl⟩, hobserved⟩
  · rw [htrail.active] at hinactive
    cases hinactive
  rcases hobserved with ⟨hnone, rfl⟩ | ⟨hsome, hobserved⟩
  · exact htrail.passed hack hreopened hfail (Or.inr hnone) ⟨rfl, rfl, rfl, rfl, rfl, rfl, rfl, rfl⟩
      htrail.active (fun hidle => (htrail.unacknowledged hidle).2.2) Or.inl
      (htrail.uncounted rfl rfl hfeeds hcount)
  · have hkept := htrail.kept readings lastElapsed lifecycle observations
    exact hkept.observed hack hreopened hfail hfeeds hcount hsome (hvalue.trans hparsed) hobserved

/-- No call clears a failure. -/
theorem perform_keeps_error (h : (setup.perform call).Returns before () after)
    (hnone : after.maybeError = none) : before.maybeError = none := by
  have hdiagnostic : ∀ {input}, (setup.diagnostic input).Returns before () after →
      before.maybeError = none := by
    intro input hinput
    rcases RestartSetup.diagnostic_returns hinput with ⟨-, rfl⟩ |
      ⟨parsed, between, -, ⟨observations, _, _, _, rfl⟩, ⟨-, rfl⟩ | ⟨-, hobserved⟩⟩
    · exact hnone
    · exact hnone
    · rw [hobserved.frame.2.2.1] at hnone
      exact hnone
  cases call with
  | setNonceDigest value =>
      rw [RestartSetup.setNonceDigest_returns h] at hnone
      exact hnone
  | acknowledge input =>
      obtain ⟨-, ack, -, _, _, _, rfl⟩ := RestartSetup.acknowledge_returns h
      exact hnone
  | diagnostic input => exact hdiagnostic h
  | rawRecord bytes =>
      rw [RestartSetup.perform, RestartSetup.rawRecord] at h
      split at h
      · rw [Attempt.returns_pure] at h
        rw [h.2] at hnone
        exact hnone
      · exact hdiagnostic h
  | byte byte =>
      rcases RestartSetup.byte_returns h with ⟨-, rfl⟩ | ⟨-, _, _, _, rfl⟩
      · exact hnone
      · exact hnone
  | bytesReceived count =>
      rcases RestartSetup.bytesReceived_returns h with ⟨-, rfl⟩ | ⟨_, -, -, _, _, _, rfl⟩
      · exact hnone
      · exact hnone
  | interrupted =>
      obtain ⟨-, _, _, _, rfl⟩ := RestartSetup.interrupted_returns h
      exact hnone
  | reopened =>
      obtain ⟨-, -, _, _, _, rfl⟩ := RestartSetup.reopened_returns h
      exact hnone
  | helloStarted =>
      obtain ⟨_, _, _, rfl⟩ := RestartSetup.helloStarted_returns h
      exact hnone
  | admitted =>
      rw [RestartSetup.admitted_returns h] at hnone
      exact hnone
  | fail error =>
      have hsome := RestartSetup.fail_returns h
      rw [hnone] at hsome
      cases hsome

theorem RestartTrail.byte (htrail : RestartTrail setup calls before) {byte : UInt8}
    (h : (setup.byte byte).Returns before () after) :
    RestartTrail setup (.byte byte :: calls) after := by
  rcases RestartSetup.byte_returns h with ⟨hinactive, -⟩ | ⟨hbound, _, _, _, rfl⟩
  · rw [htrail.active] at hinactive
    cases hinactive
  have hsame : SameFlags before before := ⟨rfl, rfl, rfl, rfl, rfl, rfl, rfl, rfl⟩
  have hcounted : Counted before { before with
      records := if byte = 10 then before.records + 1 else before.records } (.byte byte) := by
    refine ⟨⟨?_, hbound⟩, rfl, htrail.bytes.2⟩
    by_cases hfeed : byte = 10
    · subst hfeed
      rfl
    · have hzero : (RestartCall.byte byte).lineFeeds = 0 := by
        rw [RestartCall.lineFeeds]
        intro heq
        cases heq
        exact hfeed rfl
      rw [hzero]
      exact if_neg hfeed
  exact htrail.passed rfl rfl nofun (Or.inl rfl) { hsame with } htrail.active
    (fun hnone => (htrail.unacknowledged hnone).2.2) Or.inl hcounted

theorem RestartTrail.bytesReceived (htrail : RestartTrail setup calls before) {count : JsNumber}
    (h : (setup.bytesReceived count).Returns before () after) :
    RestartTrail setup (.bytesReceived count :: calls) after := by
  rcases RestartSetup.bytesReceived_returns h with ⟨hinactive, -⟩ |
    ⟨wanted, hcount, hbound, _, _, _, rfl⟩
  · rw [htrail.active] at hinactive
    cases hinactive
  have hsame : SameFlags before before := ⟨rfl, rfl, rfl, rfl, rfl, rfl, rfl, rfl⟩
  have hcounted : Counted before { before with bytes := before.bytes + wanted }
      (.bytesReceived count) := by
    refine ⟨⟨rfl, htrail.records.2⟩, ?_, hbound⟩
    rw [RestartCall.counted, hcount]
    rfl
  exact htrail.passed rfl rfl nofun (Or.inl rfl) { hsame with } htrail.active
    (fun hnone => (htrail.unacknowledged hnone).2.2) Or.inl hcounted

/-- One call keeps the trail, unless it fails the observer. -/
theorem RestartTrail.called (htrail : RestartTrail setup calls before)
    (h : (setup.perform call).Returns before () after) (hnone : after.maybeError = none) :
    RestartTrail setup (call :: calls) after := by
  have hidle : before.maybeAck = none → before.interrupted = false := fun hnone =>
    (htrail.unacknowledged hnone).2.2
  have hsame : SameFlags before before := ⟨rfl, rfl, rfl, rfl, rfl, rfl, rfl, rfl⟩
  cases call with
  | setNonceDigest value =>
      rw [RestartSetup.setNonceDigest_returns h]
      exact htrail.passed rfl rfl nofun (Or.inl rfl) { hsame with } htrail.active hidle Or.inl
        (htrail.uncounted rfl rfl rfl rfl)
  | acknowledge input => exact htrail.acknowledge h
  | diagnostic input => exact htrail.diagnostic rfl rfl nofun rfl rfl rfl h
  | rawRecord bytes =>
      rw [RestartSetup.perform, RestartSetup.rawRecord] at h
      cases hparsed : decodeUtf8 bytes >>= fun text => maybeWorkerSerialDiagnostic text.toList with
      | none =>
          rw [hparsed] at h
          have hsilent : (RestartCall.rawRecord bytes).observation = none := by
            rw [RestartCall.observation, hparsed, Option.bind_eq_bind, Option.bind_none]
          obtain ⟨-, rfl⟩ := Attempt.returns_pure.mp h
          exact htrail.passed rfl rfl nofun (Or.inl hsilent) hsame htrail.active hidle Or.inl
            (htrail.uncounted rfl rfl rfl rfl)
      | some value =>
          rw [hparsed] at h
          have hvalue : (RestartCall.rawRecord bytes).observation =
              maybeValidatedDiagnostic value := by
            rw [RestartCall.observation, hparsed, Option.bind_eq_bind, Option.bind_some]
          exact htrail.diagnostic rfl rfl nofun rfl rfl hvalue h
  | byte byte => exact htrail.byte h
  | bytesReceived count => exact htrail.bytesReceived h
  | interrupted =>
      obtain ⟨hsome, _, _, _, rfl⟩ := RestartSetup.interrupted_returns h
      have hacked : before.maybeAck = none → true = false := by
        intro hnone
        rw [hnone] at hsome
        cases hsome
      exact htrail.passed rfl rfl nofun (Or.inl rfl) { hsame with } htrail.active hacked Or.inl
        (htrail.uncounted rfl rfl rfl rfl)
  | reopened => exact htrail.reopen h
  | helloStarted =>
      obtain ⟨_, _, _, rfl⟩ := RestartSetup.helloStarted_returns h
      exact htrail.passed rfl rfl nofun (Or.inl rfl) { hsame with } rfl hidle Or.inl
        (htrail.uncounted rfl rfl rfl rfl)
  | admitted =>
      rw [RestartSetup.admitted_returns h]
      exact htrail.passed rfl rfl nofun (Or.inl rfl) { hsame with } htrail.active hidle
        (fun _ => Or.inr rfl) (htrail.uncounted rfl rfl rfl rfl)
  | fail error =>
      have hsome := RestartSetup.fail_returns h
      rw [hnone] at hsome
      cases hsome

/-- A new observer has seen nothing. -/
theorem RestartTrail.constructed {maybeNonceDigest : Option String}
    (h : (setup.construct maybeNonceDigest).Returns .blank () after) :
    RestartTrail setup [] after := by
  obtain ⟨_, _, _, rfl⟩ := RestartSetup.construct_returns h
  exact {
    active := rfl
    unfailed := nofun
    acknowledged := nofun
    unacknowledged := fun _ => ⟨rfl, rfl, rfl⟩
    booted := nofun
    identified := nofun
    sameIdentity := nofun
    prepared := nofun
    hasAdmitted := nofun
    reopens := ⟨rfl, Nat.zero_le 1⟩
    records := ⟨rfl, Nat.zero_le 512⟩
    bytes := ⟨rfl, Nat.zero_le 262144⟩ }

/-- The flags of an observer that has not failed say what the calls have shown. -/
theorem RestartCalls.trail (hcalls : RestartCalls setup calls after)
    (hnone : after.maybeError = none) : RestartTrail setup calls after := by
  induction hcalls with
  | constructed h => exact RestartTrail.constructed h
  | called prior h ih => exact (ih (perform_keeps_error h hnone)).called h hnone

end Trail

/-! ## Evidence -/

section Evidence

open RestartObserver

variable {setup : RestartSetup} {calls : List RestartCall} {before after : RestartObserver}
  {evidence : RestartEvidence}

/-- The data acknowledges the request: it names the schema, the nonce and the two ordinals. -/
def RestartSetup.Acknowledges (setup : RestartSetup) (input : JsValue) : Prop :=
  ∃ members, input = .object members ∧
    isText (fieldOf members "schema") setup.kind.ackSchema = true ∧
    isText (fieldOf members "requestNonce") setup.request.requestNonce = true ∧
    requiredNatural (fieldOf members "bootOrdinal") = some setup.request.expectedBootOrdinal ∧
    requiredNatural (fieldOf members "nextBootOrdinal") = some setup.nextBootOrdinal

theorem acknowledges_of_parsed {input : JsValue} {ack : RestartAck}
    (h : parseQualificationRestartAck input setup.request setup.kind.ackSchema = .ok ack) :
    setup.Acknowledges input := by
  rw [parseQualificationRestartAck] at h
  cases hread : readExactRecord input
      ["schema", "requestNonce", "bootOrdinal", "nextBootOrdinal"] with
  | error error =>
      rw [hread] at h
      cases h
  | ok members =>
      rw [hread] at h
      change (if _ then _ else _) = _ at h
      split at h
      · cases h
      · next hmatches =>
          simp only [Bool.or_eq_true, Bool.not_eq_true', decide_eq_true_eq, not_or,
            Bool.not_eq_false, ne_eq, not_not] at hmatches
          obtain ⟨⟨⟨hschema, hnonce⟩, hordinal⟩, hnext⟩ := hmatches
          exact ⟨members, readExactRecord_eq_ok hread, hschema, hnonce, hordinal, hnext⟩

theorem summary_returns {summary : RestartSummary}
    (h : setup.summary.Returns before summary after) :
    Timed before after ∧ summary.records = before.records ∧ summary.bytes = before.bytes := by
  simp only [RestartSetup.summary, Attempt.returns_bind, Attempt.returns_get] at h
  obtain ⟨before, before, ⟨rfl, rfl⟩, h⟩ := h
  cases hfinished : before.maybeFinishedElapsed with
  | some finished =>
      simp only [hfinished] at h
      obtain ⟨rfl, rfl⟩ := Attempt.returns_pure.mp h
      exact ⟨Timed.refl _, rfl, rfl⟩
  | none =>
      simp only [hfinished, Attempt.returns_bind, Attempt.returns_pure] at h
      obtain ⟨_, _, helapsed, rfl, rfl⟩ := h
      exact ⟨(RestartSetup.elapsed_returns helapsed).2, rfl, rfl⟩

theorem evidence_returns (h : setup.evidence.Returns before evidence after) :
    evidence.summary.records = before.records ∧ evidence.summary.bytes = before.bytes := by
  simp only [RestartSetup.evidence, Attempt.returns_bind, Attempt.returns_get] at h
  obtain ⟨summary, observer, hsummary, observer, observer, ⟨rfl, rfl⟩, h⟩ := h
  have hcounts := (summary_returns hsummary).2
  cases hack : observer.maybeAck with
  | none =>
      simp only [hack, Attempt.returns_bind, Attempt.returns_pure] at h
      obtain ⟨_, _, -, rfl, -⟩ := h
      exact hcounts
  | some ack =>
      simp only [hack, Attempt.returns_bind, Attempt.returns_pure] at h
      obtain ⟨_, _, -, _, _, -, rfl, -⟩ := h
      exact hcounts

theorem complete_returns (h : setup.complete.Returns before evidence after) :
    before.maybeError = none ∧ before.maybeAck.isSome = true ∧ before.boot = true ∧
      before.identity = true ∧ before.hasAdmitted = true ∧ 2 ≤ before.readySamples ∧
      before.statisticsReady = true ∧
      (∃ elapsed, setup.elapsedAt before.readings = some elapsed ∧ elapsed < 30000) ∧
      evidence.summary.records = before.records ∧ evidence.summary.bytes = before.bytes := by
  simp only [RestartSetup.complete, Attempt.returns_bind, Attempt.returns_get,
    Attempt.returns_ensure, Attempt.returns_modify, Bool.and_eq_true, decide_eq_true_eq] at h
  obtain ⟨_, _, hcheck, _, _, ⟨rfl, rfl⟩, _, _, ⟨hflags, rfl⟩, _, _, hremaining, _, _, helapsed, _,
    _, rfl, _, _, hevent, hevidence⟩ := h
  obtain ⟨hnone, rfl⟩ := RestartSetup.check_returns hcheck
  obtain ⟨-, ⟨_, _, _, rfl⟩, htime⟩ := RestartSetup.remaining_returns hremaining
  obtain ⟨-, _, _, _, rfl⟩ := RestartSetup.elapsed_returns helapsed
  obtain ⟨_, _, _, rfl⟩ := RestartSetup.event_returns hevent
  obtain ⟨⟨⟨⟨⟨hack, hboot⟩, hidentity⟩, hadmitted⟩, hready⟩, hstatistics⟩ := hflags
  have hcounts := evidence_returns hevidence
  exact ⟨hnone, hack, hboot, hidentity, hadmitted, hready, hstatistics, htime, hcounts⟩

/-- What evidence of a restart says about the calls before it. -/
structure RestartShown (setup : RestartSetup) (calls : List RestartCall) (before : RestartObserver)
    (evidence : RestartEvidence) : Prop where
  acknowledged : ∃ input, RestartCall.acknowledge input ∈ calls ∧ setup.Acknowledges input
  /-- The boot record came since the restart, no other boot after it, and after it two samples of
  the ready runtime and, if the owner of the statistics was ever prepared, its activation. -/
  booted : ∃ later boot earlier, sinceRestart calls = later ++ boot :: earlier ∧
    boot.observes setup.isRestartBoot = true ∧
    (∀ call ∈ later, call.observes setup.isOtherBoot = false) ∧ ReadyTwice later ∧
    ((∃ call ∈ sinceAcknowledged calls, call.observes (reportsStatistics "prepared") = true) →
      ActiveSincePrepared later)
  identified : (∃ call ∈ sinceRestart calls, call.observes setup.isExpectedIdentity = true) ∧
    ∀ call ∈ sinceRestart calls, call.observes setup.isOtherIdentity = false
  admitted : RestartCall.admitted ∈ sinceReopened calls
  unfailed : ∀ error, RestartCall.fail error ∉ calls
  reopens : calls.countP RestartCall.isReopened ≤ 1
  records : evidence.summary.records = (calls.map RestartCall.lineFeeds).sum ∧
    (calls.map RestartCall.lineFeeds).sum ≤ 512
  bytes : evidence.summary.bytes = (calls.map RestartCall.counted).sum ∧
    (calls.map RestartCall.counted).sum ≤ 262144
  /-- The clock had not reached the deadline when it was asked. -/
  timely : ∃ elapsed, setup.elapsedAt before.readings = some elapsed ∧ elapsed < 30000

/-- Evidence of a restart is sound. -/
theorem restartEvidence_sound (setup : RestartSetup) (calls : List RestartCall)
    (before after : RestartObserver) (evidence : RestartEvidence)
    (hcalls : RestartCalls setup calls before)
    (hcomplete : setup.complete.Returns before evidence after) :
    RestartShown setup calls before evidence := by
  obtain ⟨hnone, hack, hboot, hidentity, hadmitted, hready, hstatistics, htime, hrecords, hbytes⟩ :=
    complete_returns hcomplete
  have htrail := hcalls.trail hnone
  exact {
    acknowledged := by
      obtain ⟨ack, hfound⟩ := Option.isSome_iff_exists.mp hack
      obtain ⟨input, hinput, hparsed⟩ := htrail.acknowledged ack hfound
      exact ⟨input, hinput, acknowledges_of_parsed hparsed⟩
    booted := by
      obtain ⟨later, boot, earlier, hsplit, hrestart, hlater⟩ := htrail.booted hboot
      refine ⟨later, boot, earlier, hsplit, hrestart, hlater.sameBoot, hlater.ready hready, ?_⟩
      rintro ⟨call, hcall, hprepared⟩
      apply hlater.statistics
      have hrequired := htrail.prepared hack call hcall hprepared
      simpa [RestartObserver.statisticsReady, hrequired] using hstatistics
    identified := ⟨htrail.identified hidentity, htrail.sameIdentity hack⟩
    admitted := htrail.hasAdmitted hadmitted
    unfailed := htrail.unfailed
    reopens := htrail.reopens.1 ▸ htrail.reopens.2
    records := ⟨hrecords.trans htrail.records.1.symm, htrail.records.1 ▸ htrail.records.2⟩
    bytes := ⟨hbytes.trans htrail.bytes.1.symm, htrail.bytes.1 ▸ htrail.bytes.2⟩
    timely := htime }

/-! ## A run -/

/-- The calls on a new observer, one after the other. -/
def performAll (setup : RestartSetup) (maybeNonceDigest : Option String) :
    List RestartCall → ObserverCall Unit
  | [] => setup.construct maybeNonceDigest
  | call :: earlier => do
      performAll setup maybeNonceDigest earlier
      setup.perform call

theorem restartCalls_of_performAll {maybeNonceDigest : Option String}
    (h : (performAll setup maybeNonceDigest calls).Returns .blank () before) :
    RestartCalls setup calls before := by
  induction calls generalizing before with
  | nil => exact RestartCalls.constructed h
  | cons call earlier ih =>
      rw [performAll, Attempt.returns_bind] at h
      obtain ⟨_, between, hearlier, hcall⟩ := h
      exact RestartCalls.called (ih hearlier) hcall

theorem serialToken_zeros : serialToken "AAAAAAAAAAAAAAAAAAAAAA" = true := by decide +kernel

theorem one_isOrdinal : 1 ≤ 1 ∧ 1 < maximumSafeInteger := by decide

/-- A Worker that has booted once is asked to restart. -/
def secondBoot : RestartSetup where
  request := {
    requestNonce := "AAAAAAAAAAAAAAAAAAAAAA"
    expectedBootOrdinal := 1
    hnonce := serialToken_zeros
    hordinal := one_isOrdinal }
  firmwareSourceCommit := String.ofList (List.replicate 40 'a')
  appElfSha256 := String.ofList (List.replicate 64 'b')
  kind := .restart
  now := fun reading => some (reading : ℚ)

/-- The stream ends after the acknowledgement, and the port is opened once more. -/
def reopenedRestart : List RestartCall :=
  let record (category : String) (fields : WorkerSerialDiagnostic) := RestartCall.diagnostic
    (("category", .text category) :: ("authoritative", .flag false) :: fields)
  let ready (uptime : ℤ) := record "startup" [("stage", .text "runtime_ready"),
    ("state", .text "complete"), ("first_failure", .text "none"), ("uptime_ms", .number uptime)]
  [.admitted, .helloStarted, ready 1500, ready 1000,
    record "runtime_identity" [("firmware_commit", .text secondBoot.firmwareSourceCommit),
      ("app_elf_sha256", .text secondBoot.appElfSha256)],
    record "boot" [("boot_ordinal", .number 2), ("reset_reason", .text "software_cpu"),
      ("uptime_ms", .number 50)],
    .byte 10, .bytesReceived (.natural 90), .reopened, .interrupted,
    .acknowledge (jsRecord [("schema", jsText "worker-qualification-restart-v1"),
      ("requestNonce", jsText "AAAAAAAAAAAAAAAAAAAAAA"), ("bootOrdinal", jsNatural 1),
      ("nextBootOrdinal", jsNatural 2)])]

theorem reopenedRestart_sound :
    ∃ before evidence, RestartShown secondBoot reopenedRestart before evidence := by
  have hreturns : (performAll secondBoot (some (String.ofList (List.replicate 64 'f')))
      reopenedRestart >>= fun _ => secondBoot.complete).threw .blank = false := by
    decide +kernel
  obtain ⟨evidence, hrun⟩ := Attempt.returns_of_not_threw hreturns
  obtain ⟨_, before, hcalls, hcomplete⟩ := Attempt.returns_bind.mp hrun
  exact ⟨before, evidence, restartEvidence_sound secondBoot reopenedRestart before _ evidence
    (restartCalls_of_performAll hcalls) hcomplete⟩

end Evidence

end WorkGate
