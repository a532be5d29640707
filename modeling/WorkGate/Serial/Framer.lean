/-
# The reader of serial records (web/worker-serial.ts)

Bytes arrive in chunks of any size.  The reader collects them up to a line feed and reads what it
has collected: a diagnostic line, or an envelope with the length and the digest of its payload.
While a session is opened, what is left over of an earlier one is passed over within bounds.
-/

import WorkGate.Library.Machine
import WorkGate.Serial.Envelope
import WorkGate.Serial.RestartObserver

namespace WorkGate

open WorkGate.Library WorkGate.Library.JsonText

/-- The private fields of a `WorkerSerialFramer`, with the calls it made: the diagnostics it
reported and the frames its receiver was called with, each with its ordinal.  What is collected are
the first `#length` of `#bytes`. -/
structure WorkerSerialFramer where
  bootstrap : Bool
  maybeRestart : Option (RestartSetup × RestartObserver)
  frameOrdinal : ℕ
  collected : List UInt8
  discarding : Bool
  bootstrapPrefixDiscarded : Bool
  bootstrapDiscardedBytes : ℕ
  diagnostics : List WorkerSerialDiagnostic
  received : List (WorkerSerialEnvelope × ℕ)

/-- A method of the reader. -/
abbrev FramerCall (α : Type) : Type := Attempt WorkerSerialFramer SerialError α

namespace WorkerSerialFramer

/-- `finishBootstrap`. -/
def finishBootstrap : FramerCall Unit := modify fun framer => { framer with bootstrap := false }

/-- A call on the observer of an expected restart, if there is one.  What it changed before it
threw stays changed. -/
def observing (call : RestartSetup → ObserverCall Unit) : FramerCall Unit := do
  let framer ← get
  match framer.maybeRestart with
  | none => return ()
  | some (setup, observer) =>
      let (answer, after) := (call setup).run observer
      modify fun framer => { framer with maybeRestart := some (setup, after) }
      Attempt.ofExcept (answer.mapError .failure)

/-- `#countBootstrapBytes`. -/
def countBootstrapBytes (bytes : ℕ) : FramerCall Unit := do
  modify fun framer => { framer with
    bootstrapDiscardedBytes := framer.bootstrapDiscardedBytes + bytes }
  let framer ← get
  Attempt.ensure (decide (framer.bootstrapDiscardedBytes ≤ maximumSerialWireBytes))
    (.failure (serialFailure "wire_bound"))

/-- `#discardBootstrapPrefix`. -/
def discardBootstrapPrefix (bytes : ℕ) : FramerCall Bool := do
  let framer ← get
  if !framer.bootstrap || framer.bootstrapPrefixDiscarded then return false
  else do
    countBootstrapBytes bytes
    modify fun framer => { framer with bootstrapPrefixDiscarded := true }
    return true

/-- `if (this.bootstrap) this.#countBootstrapBytes(bytes)`. -/
def countWhileBootstrap (bytes : ℕ) : FramerCall Unit := do
  let framer ← get
  if framer.bootstrap then countBootstrapBytes bytes else return ()

/-- What is not read is passed over once while a session is opened, and thrown otherwise. -/
def discardOrThrow (bytes : ℕ) (error : SerialError) :
    FramerCall (Option WorkerSerialEnvelope) := do
  let discarded ← discardBootstrapPrefix bytes
  if discarded then return none else throw error

/-- What a line that is no envelope leads to. -/
def readDiagnostic (text : String) (bytes : ℕ) : FramerCall Unit := do
  countWhileBootstrap bytes
  match maybeWorkerSerialDiagnostic text.toList with
  | none => return ()
  | some diagnostic =>
      modify fun framer => { framer with diagnostics := framer.diagnostics ++ [diagnostic] }

end WorkerSerialFramer

/-- The checks of an envelope behind its profile. -/
def checkedEnvelope (sha256 : List UInt8 → List UInt8) (value : JsValue)
    (record : List (CodeUnits × JsValue)) (payloadUtf8 : List UInt8) :
    Except SerialFailure WorkerSerialEnvelope :=
  if requiredNatural (fieldOf record "payloadBytes") != some payloadUtf8.length ||
      !isText (fieldOf record "payloadSha256") (sha256Base64UrlBytes sha256 payloadUtf8) then
    .error (serialFailure "integrity")
  else if isText (fieldOf record "kind") "control" &&
      decide (maximumSerialControlPayloadBytes < payloadUtf8.length) then
    .error (serialFailure "payload_bound")
  else parseWorkerSerialEnvelope value

/-- The envelope of a text that was read as JSON. -/
def readEnvelope (sha256 : List UInt8 → List UInt8) (parsed : SerialJson) :
    Except SerialFailure WorkerSerialEnvelope := do
  let record ← readSerialRecord parsed.value
  if isText (fieldOf record "profile") workerSerialProfile then
    checkedEnvelope sha256 parsed.value record parsed.payloadUtf8
  else .error (serialFailure "profile")

namespace WorkerSerialFramer

/-- Where an accepted frame goes: to the receiver, if there is one, and else into the result. -/
def deliver (receiving : Bool) (frame : WorkerSerialEnvelope) (frameOrdinal : ℕ) :
    FramerCall (Option WorkerSerialEnvelope) :=
  if receiving then do
    modify fun framer => { framer with received := framer.received ++ [(frame, frameOrdinal)] }
    return none
  else do
    if isText frame.kind "session" && isText (fieldOf frame.payload "op") "hello_ack" then
      finishBootstrap
    else pure ()
    return some frame

/-- What the text of a record leads to; `bytes` is its length with the line feed. -/
def readText (sha256 : List UInt8 → List UInt8) (receiving : Bool) (text : String) (bytes : ℕ)
    (frameOrdinal : ℕ) : FramerCall (Option WorkerSerialEnvelope) :=
  if (skipWhitespace text.toList).head? ≠ some '{' then do
    readDiagnostic text bytes
    return none
  else if '\r' ∈ text.toList then throw (.failure (serialFailure "line_ending"))
  else match parseWorkerSerialJson text.toList with
    | none =>
        if hasMalformedSerialJsonSyntax text.toList then discardOrThrow bytes .json
        else throw .json
    | some parsed => do
        let frame ← Attempt.ofExcept ((readEnvelope sha256 parsed).mapError .failure)
        let maybeFrame ← deliver receiving frame frameOrdinal
        countWhileBootstrap bytes
        return maybeFrame

/-- What the record in front of a line feed leads to. -/
def readRecord (sha256 : List UInt8 → List UInt8) (receiving : Bool) (bytes : List UInt8)
    (frameOrdinal : ℕ) : FramerCall (Option WorkerSerialEnvelope) := do
  let framer ← get
  if framer.maybeRestart.any fun restart => restart.2.bootMode then do
    observing fun setup => setup.rawRecord bytes
    return none
  else match decodeUtf8 bytes with
    | none => discardOrThrow (bytes.length + 1) (.failure (serialFailure "utf8"))
    | some text => readText sha256 receiving text (bytes.length + 1) frameOrdinal

/-- One byte of a chunk. -/
def pushByte (sha256 : List UInt8 → List UInt8) (receiving : Bool) (byte : UInt8) :
    FramerCall (Option WorkerSerialEnvelope) := do
  observing fun setup => setup.byte byte
  let framer ← get
  if framer.discarding then do
    modify fun framer => { framer with discarding := byte != 10 }
    return none
  else if maximumSerialWireBytes ≤ framer.collected.length then do
    modify fun framer => { framer with collected := [], discarding := byte != 10 }
    throw (.failure (serialFailure "wire_bound"))
  else if byte ≠ 10 then do
    modify fun framer => { framer with collected := framer.collected ++ [byte] }
    return none
  else do
    modify fun framer => { framer with collected := [], frameOrdinal := framer.frameOrdinal + 1 }
    readRecord sha256 receiving framer.collected (framer.frameOrdinal + 1)

/-- The bytes one after the other, with the frames that go into the result. -/
def pushBytes (sha256 : List UInt8 → List UInt8) (receiving : Bool) :
    List UInt8 → FramerCall (List WorkerSerialEnvelope)
  | [] => return []
  | byte :: rest => do
    let maybeFrame ← pushByte sha256 receiving byte
    let frames ← pushBytes sha256 receiving rest
    return maybeFrame.toList ++ frames

/-- `push`.  The receiver returns. -/
def push (sha256 : List UInt8 → List UInt8) (receiving : Bool) (chunk : List UInt8) :
    FramerCall (List WorkerSerialEnvelope) := do
  observing fun setup => setup.bytesReceived (.natural chunk.length)
  pushBytes sha256 receiving chunk

/-- One chunk after the other, with everything that went into their results. -/
def pushes (sha256 : List UInt8 → List UInt8) (receiving : Bool) :
    List (List UInt8) → FramerCall (List WorkerSerialEnvelope)
  | [] => return []
  | chunk :: chunks => do
    let frames ← push sha256 receiving chunk
    let others ← pushes sha256 receiving chunks
    return frames ++ others

/-! ## A restart that is over -/

/-- No restart is being watched any more. -/
def RestartOver (framer : WorkerSerialFramer) : Prop :=
  ∀ restart, framer.maybeRestart = some restart →
    restart.2.active = false ∧ restart.2.bootMode = false

/-- An observer that is done takes no notice. -/
theorem observing_over {framer : WorkerSerialFramer} (hover : framer.RestartOver)
    {call : RestartSetup → ObserverCall Unit}
    (hcall : ∀ setup observer, observer.active = false →
      (call setup).Returns observer () observer) :
    (observing call).Returns framer () framer := by
  rw [observing, Attempt.returns_bind]
  apply Exists.intro framer
  apply Exists.intro framer
  constructor
  · rw [Attempt.returns_get]
    exact ⟨rfl, rfl⟩
  cases hrestart : framer.maybeRestart with
  | none => simp
  | some restart =>
      have hrun := hcall restart.1 restart.2 (hover restart hrestart).1
      rw [Attempt.Returns] at hrun
      have hsame : { framer with maybeRestart := some (restart.1, restart.2) } = framer := by
        rw [Prod.mk.eta, ← hrestart]
      simp only [hrun, Attempt.returns_bind, Attempt.returns_modify]
      apply Exists.intro ()
      apply Exists.intro framer
      constructor
      · exact hsame.symm
      · rw [Attempt.returns_ofExcept]
        exact ⟨rfl, rfl⟩

theorem observing_over_iff {framer after : WorkerSerialFramer} (hover : framer.RestartOver)
    {call : RestartSetup → ObserverCall Unit}
    (hcall : ∀ setup observer, observer.active = false →
      (call setup).Returns observer () observer) :
    (observing call).Returns framer () after ↔ after = framer := by
  have hreturns := observing_over hover hcall
  constructor
  · intro h
    rw [Attempt.Returns] at h hreturns
    rw [hreturns] at h
    cases h
    rfl
  · rintro rfl
    exact hreturns

theorem byte_over (byte : UInt8) (setup : RestartSetup) (observer : RestartObserver)
    (h : observer.active = false) : (setup.byte byte).Returns observer () observer := by
  simp [RestartSetup.byte, h]

theorem bytesReceived_over (count : JsNumber) (setup : RestartSetup) (observer : RestartObserver)
    (h : observer.active = false) : (setup.bytesReceived count).Returns observer () observer := by
  simp [RestartSetup.bytesReceived, h]

variable {framer after : WorkerSerialFramer}

theorem countBootstrapBytes_restart {bytes : ℕ} {answer : Unit}
    (h : (countBootstrapBytes bytes).Returns framer answer after) :
    after.maybeRestart = framer.maybeRestart := by
  simp only [countBootstrapBytes, Attempt.returns_bind, Attempt.returns_modify,
    Attempt.returns_get, Attempt.returns_ensure] at h
  obtain ⟨_, _, rfl, _, _, ⟨rfl, rfl⟩, -, rfl⟩ := h
  rfl

theorem countWhileBootstrap_restart {bytes : ℕ} {answer : Unit}
    (h : (countWhileBootstrap bytes).Returns framer answer after) :
    after.maybeRestart = framer.maybeRestart := by
  simp only [countWhileBootstrap, Attempt.returns_bind, Attempt.returns_get,
    Attempt.returns_ite, Attempt.returns_pure] at h
  obtain ⟨before, same, ⟨rfl, rfl⟩, ⟨-, hcount⟩ | ⟨-, -, hafter⟩⟩ := h
  · exact countBootstrapBytes_restart hcount
  · rw [hafter]

theorem discardOrThrow_restart {bytes : ℕ} {error : SerialError}
    {answer : Option WorkerSerialEnvelope}
    (h : (discardOrThrow bytes error).Returns framer answer after) :
    after.maybeRestart = framer.maybeRestart := by
  simp only [discardOrThrow, discardBootstrapPrefix, Attempt.returns_bind, Attempt.returns_get,
    Attempt.returns_ite, Attempt.returns_pure, Attempt.returns_modify, Attempt.returns_throw,
    and_false, or_false] at h
  obtain ⟨discarded, between, ⟨before, same, ⟨rfl, rfl⟩, hdiscard⟩, -, -, rfl⟩ := h
  rcases hdiscard with ⟨-, -, rfl⟩ | ⟨-, _, counted, hcount, _, _, rfl, -, rfl⟩
  · rfl
  · exact (countBootstrapBytes_restart hcount :)

theorem readDiagnostic_restart {text : String} {bytes : ℕ} {answer : Unit}
    (h : (readDiagnostic text bytes).Returns framer answer after) :
    after.maybeRestart = framer.maybeRestart := by
  rw [readDiagnostic, Attempt.returns_bind] at h
  obtain ⟨_, counted, hcount, h⟩ := h
  rw [← countWhileBootstrap_restart hcount]
  cases hdiagnostic : maybeWorkerSerialDiagnostic text.toList with
  | none =>
      simp only [hdiagnostic, Attempt.returns_pure] at h
      rw [h.2]
  | some diagnostic =>
      simp only [hdiagnostic, Attempt.returns_modify] at h
      rw [h]

theorem deliver_restart {receiving : Bool} {frame : WorkerSerialEnvelope} {frameOrdinal : ℕ}
    {answer : Option WorkerSerialEnvelope}
    (h : (deliver receiving frame frameOrdinal).Returns framer answer after) :
    after.maybeRestart = framer.maybeRestart := by
  simp only [deliver, finishBootstrap, Attempt.returns_bind, Attempt.returns_ite,
    Attempt.returns_modify, Attempt.returns_pure] at h
  rcases h with ⟨-, _, _, rfl, -, rfl⟩ | ⟨-, ⟨-, _, _, rfl, -, rfl⟩ | ⟨-, _, _, ⟨-, rfl⟩, -, rfl⟩⟩
  · rfl
  · rfl
  · rfl

theorem readText_restart {sha256 : List UInt8 → List UInt8} {receiving : Bool} {text : String}
    {bytes frameOrdinal : ℕ} {answer : Option WorkerSerialEnvelope}
    (h : (readText sha256 receiving text bytes frameOrdinal).Returns framer answer after) :
    after.maybeRestart = framer.maybeRestart := by
  rw [readText, Attempt.returns_ite, Attempt.returns_ite] at h
  rcases h with ⟨-, h⟩ | ⟨-, ⟨-, h⟩ | ⟨-, h⟩⟩
  · simp only [Attempt.returns_bind, Attempt.returns_pure] at h
    obtain ⟨_, between, hread, -, rfl⟩ := h
    exact readDiagnostic_restart hread
  · rw [Attempt.returns_throw] at h
    exact h.elim
  · cases hparsed : parseWorkerSerialJson text.toList with
    | none =>
        simp only [hparsed, Attempt.returns_ite, Attempt.returns_throw, and_false, or_false] at h
        exact discardOrThrow_restart h.2
    | some parsed =>
        simp only [hparsed, Attempt.returns_bind, Attempt.returns_ofExcept,
          Attempt.returns_pure] at h
        obtain ⟨frame, start, ⟨-, rfl⟩, maybeFrame, delivered, hdeliver, _, counted, hcount, -,
          rfl⟩ := h
        rw [countWhileBootstrap_restart hcount, deliver_restart hdeliver]

/-- A byte leaves a restart that is over as it is. -/
theorem pushByte_restart (hover : framer.RestartOver) {sha256 : List UInt8 → List UInt8}
    {receiving : Bool} {byte : UInt8} {answer : Option WorkerSerialEnvelope}
    (h : (pushByte sha256 receiving byte).Returns framer answer after) :
    after.maybeRestart = framer.maybeRestart := by
  have hmode : (framer.maybeRestart.any fun restart => restart.2.bootMode) = false := by
    cases hrestart : framer.maybeRestart with
    | none => rfl
    | some restart => exact (hover restart hrestart).2
  rw [pushByte, Attempt.returns_bind] at h
  obtain ⟨_, observed, hobserve, h⟩ := h
  rw [observing_over_iff hover (byte_over byte)] at hobserve
  subst hobserve
  simp only [Attempt.returns_bind, Attempt.returns_get, Attempt.returns_ite,
    Attempt.returns_modify, Attempt.returns_pure, Attempt.returns_throw] at h
  obtain ⟨before, same, ⟨rfl, rfl⟩, h⟩ := h
  rcases h with ⟨-, _, _, rfl, -, rfl⟩ | ⟨-, ⟨-, _, _, -, h⟩ | ⟨-, h⟩⟩
  · rfl
  · exact h.elim
  rcases h with ⟨-, _, _, rfl, -, rfl⟩ | ⟨-, _, _, rfl, h⟩
  · rfl
  simp only [readRecord, Attempt.returns_bind, Attempt.returns_get] at h
  obtain ⟨held, heldSame, ⟨rfl, rfl⟩, h⟩ := h
  simp only [hmode, Bool.false_eq_true, if_false] at h
  cases hdecoded : decodeUtf8 same.collected with
  | none =>
      rw [hdecoded] at h
      exact (discardOrThrow_restart h :)
  | some text =>
      rw [hdecoded] at h
      exact (readText_restart h :)

end WorkerSerialFramer

end WorkGate
