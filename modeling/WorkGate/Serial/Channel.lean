/-
# The writer of the serial channel (web/webserial-worker-port.ts)

Frames queue up, and one record at a time is encoded and written in chunks the peer has granted
credit for.  The writer suspends for the encoder, for credit and for each native write; a call, a
report of the peer, the time limit or the end of the channel may come in between.
-/

import WorkGate.Library.Machine
import WorkGate.Serial.Envelope

namespace WorkGate

open WorkGate.Library WorkGate.Library.JsonText

/-- `PendingWrite`; the promise of a send is named by the number of the call. -/
structure PendingWrite where
  send : ℕ
  frame : List (CodeUnits × JsValue)

/-- The payload of a frame. -/
def framePayload (frame : List (CodeUnits × JsValue)) : List (CodeUnits × JsValue) :=
  match fieldOf frame "payload" with
  | .object payload => payload
  | _ => []

/-- `hello`: a greeting is written before there is any credit. -/
def isHello (frame : List (CodeUnits × JsValue)) : Bool :=
  isText (fieldOf frame "kind") "session" && isText (fieldOf (framePayload frame) "op") "hello"

/-- A send that was taken up, with the frame it is written as. -/
structure SerialRecord where
  send : ℕ
  frame : List (CodeUnits × JsValue)
  hello : Bool
  sequence : ℕ

/-- The bytes of a record; none if the encoder refuses it. -/
def SerialRecord.bytes (sha256 : List UInt8 → List UInt8) (record : SerialRecord) : List UInt8 :=
  match encodeWorkerSerialEnvelope sha256 record.frame with
  | .ok bytes => bytes
  | .error _ => []

/-- Where `#writeRecord` is suspended. -/
inductive WritePhase
  /-- for the encoder -/
  | encoding
  /-- in `reserve`, until there is credit -/
  | reserving (offset : ℕ)
  /-- behind `reserve`, which granted `count` bytes -/
  | reserved (offset count : ℕ)
  /-- for a native write of `count` bytes, of which the port has taken some -/
  | writing (offset count taken : ℕ)
  /-- in `consumed`, until everything is consumed -/
  | consuming
  /-- behind `consumed` -/
  | consumed
  deriving DecidableEq

/-- A call of `#writeRecord`. -/
structure RecordWriter where
  record : SerialRecord
  phase : WritePhase

/-- What `#drain` waits for: the record of a send, within two seconds.  The outcome is there as
soon as the record or the time limit is first. -/
structure AwaitedRecord where
  send : ℕ
  outcome : Option (Except SerialFailure Unit)

/-- The writing side of a `WorkerSerialChannel` during one session, with what the callers and the
port have seen of it: the sends that were accepted, how they were settled, the records taken up and
the bytes the port took. -/
structure WorkerSerialChannel where
  pending : List PendingWrite
  writing : Bool
  recordActive : Bool
  writeFailed : Bool
  credit : WorkerSerialCredit
  closed : Bool
  sequence : ℕ
  maybeAwaited : Option AwaitedRecord
  maybeWriter : Option RecordWriter
  sends : ℕ
  accepted : List ℕ
  settled : List (ℕ × Except SerialFailure Unit)
  begun : List SerialRecord
  written : List UInt8

/-- What happens to the channel.  What a suspended call waits for and its running on are events of
their own. -/
inductive ChannelEvent
  | send (frame : List (CodeUnits × JsValue))
  | admitReceiveCredit
  | receiveCredit (received : JsValue)
  | abortRecord
  | close
  | encoded
  | resumed
  | reserved
  | portTakes (count : ℕ)
  | writeResolved
  | writeRejected
  | consumed
  | timedOut
  | drainResumes

/-- What the caller of a method is told. -/
inductive ChannelAnswer
  | returned
  | threw (failure : SerialFailure)
  | accepted (send : ℕ)
  | rejected (failure : SerialFailure)

/-- The send that was accepted. -/
def ChannelAnswer.maybeAccepted : ChannelAnswer → Option ℕ
  | .accepted send => some send
  | _ => none

/-- What `boundedSerial` makes of an error of the encoder. -/
def failureOf : SerialError → SerialFailure
  | .failure failure => failure
  | _ => serialFailure "io"

namespace WorkerSerialChannel

/-- A new session: a new channel, or one behind `beginRestartSession`. -/
def newSession : WorkerSerialChannel where
  pending := []
  writing := false
  recordActive := false
  writeFailed := false
  credit := .fresh
  closed := false
  sequence := 0
  maybeAwaited := none
  maybeWriter := none
  sends := 0
  accepted := []
  settled := []
  begun := []
  written := []

variable (sha256 : List UInt8 → List UInt8) (channel : WorkerSerialChannel)

/-- `this.#closed || this.#writeFailed`. -/
def stopped : Bool := channel.closed || channel.writeFailed

/-- `abortRecord`. -/
def abortRecord : WorkerSerialChannel :=
  { channel with writeFailed := true, credit := channel.credit.cancel }

/-- The promise of a send is settled. -/
def settle (send : ℕ) (outcome : Except SerialFailure Unit) : WorkerSerialChannel :=
  { channel with settled := channel.settled ++ [(send, outcome)] }

/-- Every queued send is rejected. -/
def rejectQueued (failure : SerialFailure) : WorkerSerialChannel :=
  { channel with
    pending := []
    settled := channel.settled ++
      channel.pending.map fun queued => (queued.send, .error failure) }

/-- The end of `#drain`. -/
def drainEnds : WorkerSerialChannel := { channel with writing := false, maybeAwaited := none }

/-- The failure of a record ends `#drain`. -/
def recordFails (send : ℕ) (failure : SerialFailure) : WorkerSerialChannel :=
  ((channel.abortRecord.settle send (.error failure)).rejectQueued failure).drainEnds

/-- The record of the next send, and its call of `#writeRecord`. -/
def takeUp (next : PendingWrite) : WorkerSerialChannel :=
  let hello := isHello next.frame
  let sequence := if hello then 0 else channel.sequence + 1
  let record : SerialRecord := {
    send := next.send
    frame := withMember "sequence" (jsNatural sequence) next.frame
    hello := hello
    sequence := sequence }
  { channel with
    sequence := if hello then channel.sequence else sequence
    begun := channel.begun ++ [record]
    maybeAwaited := some { send := next.send, outcome := none }
    maybeWriter := some { record := record, phase := .encoding } }

/-- One turn of the loop of `#drain`. -/
def drainTurn : WorkerSerialChannel :=
  match channel.pending with
  | [] => channel.drainEnds
  | next :: rest =>
    if channel.closed then channel.drainEnds
    else
      let active := { channel with pending := rest, recordActive := true }
      if !isHello next.frame && decide (maximumSerialCounter ≤ channel.sequence) then
        active.recordFails next.send (serialFailure "sequence_exhausted")
      else active.takeUp next

/-- `send`. -/
def send (frame : List (CodeUnits × JsValue)) : WorkerSerialChannel × ChannelAnswer :=
  let call := channel.sends
  let called := { channel with sends := call + 1 }
  if channel.closed || channel.writeFailed || decide (3 ≤ channel.pending.length) then
    (called, .rejected (serialFailure "write_bound"))
  else
    let pending : PendingWrite := { send := call, frame := frame }
    let queued := { called with
      accepted := channel.accepted ++ [call]
      pending :=
        if isText (fieldOf frame "kind") "heartbeat" then pending :: channel.pending
        else channel.pending ++ [pending] }
    (if queued.writing then queued else drainTurn { queued with writing := true },
      .accepted call)

/-- The promise of `#writeRecord` is settled; the time limit may have been first. -/
def writerEnds (record : SerialRecord) (outcome : Except SerialFailure Unit) :
    WorkerSerialChannel :=
  { channel with
    maybeWriter := none
    maybeAwaited := channel.maybeAwaited.map fun awaited =>
      if awaited.send = record.send ∧ awaited.outcome.isNone then
        { awaited with outcome := some outcome }
      else awaited }

/-- `#writeRecord` suspends. -/
def suspend (record : SerialRecord) (phase : WritePhase) : WorkerSerialChannel :=
  { channel with maybeWriter := some { record := record, phase := phase } }

/-- The last check of `#writeRecord`. -/
def writerReturns (record : SerialRecord) : WorkerSerialChannel :=
  channel.writerEnds record
    (if channel.stopped then .error (serialFailure "closed") else .ok ())

/-- `#writeRecord` calls `consumed`, or looks again when it is woken. -/
def awaitConsumed (record : SerialRecord) : WorkerSerialChannel :=
  match channel.credit.consumed record.send with
  | (credit, .returns ()) => suspend { channel with credit := credit } record .consumed
  | (credit, .waits) => suspend { channel with credit := credit } record .consuming
  | (credit, .throws failure) => writerEnds { channel with credit := credit } record (.error failure)

/-- `#writeRecord` calls `reserve`, or looks again when it is woken. -/
def awaitCredit (record : SerialRecord) (offset : ℕ) : WorkerSerialChannel :=
  match channel.credit.reserve record.send
      (.natural ((record.bytes sha256).length - offset)) with
  | (credit, .returns count) =>
      suspend { channel with credit := credit } record (.reserved offset count)
  | (credit, .waits) => suspend { channel with credit := credit } record (.reserving offset)
  | (credit, .throws failure) => writerEnds { channel with credit := credit } record (.error failure)

/-- The native write of a chunk begins, unless the channel has stopped. -/
def beginWrite (record : SerialRecord) (offset count : ℕ) : WorkerSerialChannel :=
  if channel.stopped then channel.writerEnds record (.error (serialFailure "closed"))
  else channel.suspend record (.writing offset count 0)

/-- `#writeRecord` from the head of its loop on. -/
def writeOn (record : SerialRecord) (offset : ℕ) : WorkerSerialChannel :=
  if (record.bytes sha256).length ≤ offset then
    if record.hello then channel.writerReturns record else channel.awaitConsumed record
  else if channel.stopped then channel.writerEnds record (.error (serialFailure "closed"))
  else if record.hello then
    channel.beginWrite record offset (min 1024 ((record.bytes sha256).length - offset))
  else channel.awaitCredit sha256 record offset

/-- The encoder is done. -/
def encoded (record : SerialRecord) : WorkerSerialChannel :=
  match encodeWorkerSerialEnvelope sha256 record.frame with
  | .error error => channel.writerEnds record (.error (failureOf error))
  | .ok bytes =>
      if record.hello && decide (serialReceiveWindow < bytes.length) then
        channel.writerEnds record (.error (serialFailure "hello_bound"))
      else channel.writeOn sha256 record 0

/-- The port takes bytes of the chunk that is being written. -/
def portTakes (record : SerialRecord) (offset count taken more : ℕ) : WorkerSerialChannel :=
  let part := min more (count - taken)
  suspend { channel with
      written := channel.written ++ ((record.bytes sha256).drop (offset + taken)).take part }
    record (.writing offset count (taken + part))

/-- `close`, up to its first suspension.  What follows writes nothing. -/
def close : WorkerSerialChannel :=
  if channel.closed then channel
  else (abortRecord { channel with closed := true }).rejectQueued (serialFailure "closed")

/-- `#writeRecord` goes on, if the event is what it waits for. -/
def writerStep (writer : RecordWriter) : ChannelEvent → WorkerSerialChannel
  | .encoded =>
    match writer.phase with
    | .encoding => channel.encoded sha256 writer.record
    | _ => channel
  | .resumed =>
    if writer.record.send ∈ channel.credit.woken then
      let woken := { channel with credit := channel.credit.resumed writer.record.send }
      match writer.phase with
      | .reserving offset => woken.awaitCredit sha256 writer.record offset
      | .consuming => woken.awaitConsumed writer.record
      | _ => channel
    else channel
  | .reserved =>
    match writer.phase with
    | .reserved offset count => channel.beginWrite writer.record offset count
    | _ => channel
  | .portTakes more =>
    match writer.phase with
    | .writing offset count taken => channel.portTakes sha256 writer.record offset count taken more
    | _ => channel
  | .writeResolved =>
    match writer.phase with
    | .writing offset count taken =>
        if taken = count then channel.writeOn sha256 writer.record (offset + count) else channel
    | _ => channel
  | .writeRejected =>
    match writer.phase with
    | .writing _ _ _ => channel.writerEnds writer.record (.error (serialFailure "io"))
    | _ => channel
  | .consumed =>
    match writer.phase with
    | .consumed => channel.writerReturns writer.record
    | _ => channel
  | _ => channel

/-- `#drain` goes on, if the event is what it waits for. -/
def drainStep (awaited : AwaitedRecord) : ChannelEvent → WorkerSerialChannel
  | .timedOut =>
    match awaited.outcome with
    | none => { channel with
        maybeAwaited := some { awaited with outcome := some (.error (serialFailure "timeout")) } }
    | some _ => channel
  | .drainResumes =>
    match awaited.outcome with
    | none => channel
    | some (.ok ()) =>
        (settle { channel with recordActive := false } awaited.send (.ok ())).drainTurn
    | some (.error failure) => channel.recordFails awaited.send failure
  | _ => channel

/-- One event. -/
def step : ChannelEvent → WorkerSerialChannel × ChannelAnswer
  | .send frame => channel.send frame
  | .admitReceiveCredit =>
    match channel.credit.admitSession with
    | .ok credit => ({ channel with credit := credit }, .returned)
    | .error failure => (channel, .threw failure)
  | .receiveCredit received =>
    match channel.credit.acknowledge received with
    | .ok credit => ({ channel with credit := credit }, .returned)
    | .error failure => (channel, .threw failure)
  | .abortRecord => (channel.abortRecord, .returned)
  | .close => (channel.close, .returned)
  | .timedOut =>
      ((channel.maybeAwaited.map fun awaited => channel.drainStep awaited .timedOut).getD channel,
        .returned)
  | .drainResumes =>
      ((channel.maybeAwaited.map fun awaited =>
        channel.drainStep awaited .drainResumes).getD channel, .returned)
  | event =>
      ((channel.maybeWriter.map fun writer =>
        channel.writerStep sha256 writer event).getD channel, .returned)

end WorkerSerialChannel

/-- One session of a channel, under any order of events. -/
def channelMachine (sha256 : List UInt8 → List UInt8) :
    Machine WorkerSerialChannel ChannelEvent ChannelAnswer where
  init := .newSession
  admits _ _ _ := True
  step channel event := channel.step sha256 event

end WorkGate
