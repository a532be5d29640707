/-
# Ownership of the serial port (web/worker-serial-port-owner.ts, web/webserial-worker-port.ts)

The page holds an origin lock while it owns the port, and gives it back when the port is closed.
Opening and closing are native calls that settle when they like, maybe long after their caller has
given up waiting; a reset replaces the channel and the opening while a close may already be waiting.
-/

import WorkGate.Library.Machine
import WorkGate.Serial.Credit

namespace WorkGate

open WorkGate.Library

/-- An opening of the port.  The native call is made one turn after `open`. -/
inductive NativeOpening
  | deferred
  | pending
  | settled (opened : Bool)
  deriving DecidableEq

/-- `close` of a channel: its streams, then the port.  At the end there were errors or not, and
`portClosed` is set or not. -/
inductive ChannelClose
  | live
  | cleaning
  | closingPort (errors : Bool)
  | done (errors portClosed : Bool)
  deriving DecidableEq

/-- Who called `port.close()`. -/
inductive PortCloser
  | owner
  | channel (channel : ℕ)
  deriving DecidableEq

/-- The port.  Only a closed port can be opened, and only an open one closed; other calls are
rejected. -/
inductive NativePort
  | closed
  | opening (opening : ℕ)
  | opened
  | closing (closer : PortCloser)
  deriving DecidableEq

/-- Where `#finishClose` is, once `close` was called. -/
inductive OwnerClose
  | notBegun
  | awaitingOpening (opening : ℕ)
  | awaitingChannel (channel : ℕ)
  | awaitingPort (maybeClosed : Option Bool)
  | done (threw : Bool)
  deriving DecidableEq

/-- Where `reopenExpectedReset` is; behind its call of `open` it changes nothing more. -/
inductive OwnerReopen
  | notBegun
  | awaitingChannel (channel : ℕ)
  | done
  deriving DecidableEq

/-- A `WorkerSerialPortOwner` with the port and the channels made on it, the native openings that
were started, and how often the lock was released. -/
structure WorkerSerialPortOwner where
  maybePort : Bool
  maybeOpening : Option ℕ
  maybeChannel : Option ℕ
  closing : OwnerClose
  released : Bool
  reopened : Bool
  reopening : OwnerReopen
  native : NativePort
  openings : List NativeOpening
  channels : List ChannelClose
  started : List ℕ
  releases : ℕ
  deriving DecidableEq

/-- What happens to the owner: calls, whose checks pass or throw, native calls that settle, and
suspended calls that go on. -/
inductive OwnerEvent
  | openPort
  | attach
  | reopenExpectedReset (check : Bool)
  | close
  | closeChannel (channel : ℕ)
  | openingStarts (opening : ℕ)
  | nativeOpens (opened : Bool)
  | channelCleaned (channel : ℕ) (errors : Bool)
  | nativeCloses (closed : Bool)
  | reopenResumes (check : Bool)
  | closeResumes
  deriving DecidableEq

/-- What the caller is told at once. -/
inductive OwnerAnswer
  | returned
  | threw (failure : SerialFailure)
  deriving DecidableEq

namespace WorkerSerialPortOwner

/-- A new owner of a closed port. -/
def fresh : WorkerSerialPortOwner where
  maybePort := false
  maybeOpening := none
  maybeChannel := none
  closing := .notBegun
  released := false
  reopened := false
  reopening := .notBegun
  native := .closed
  openings := []
  channels := []
  started := []
  releases := 0

variable (owner : WorkerSerialPortOwner)

/-- `#release`. -/
def release : WorkerSerialPortOwner :=
  if owner.released then owner
  else { owner with released := true, releases := owner.releases + 1 }

/-- `#maybeClosing` is set. -/
def closeBegun : Bool := owner.closing != .notBegun

/-- `open`, up to its first suspension. -/
def openPort : WorkerSerialPortOwner × OwnerAnswer :=
  if owner.maybeOpening.isSome || owner.closeBegun then
    (owner, .threw (serialFailure "already_opening"))
  else
    ({ owner with
      maybePort := true
      maybeOpening := some owner.openings.length
      openings := owner.openings ++ [.deferred] }, .returned)

/-- `attach` of a channel made on the port just now; a channel needs an open port. -/
def attach : WorkerSerialPortOwner × OwnerAnswer :=
  if owner.native ≠ .opened then (owner, .threw (serialFailure "streams"))
  else
    let made := { owner with channels := owner.channels ++ [.live] }
    if owner.closeBegun then (made, .threw (serialFailure "admission_cancelled"))
    else ({ made with maybeChannel := some owner.channels.length }, .returned)

/-- `close` of a channel begins, unless it has begun before. -/
def closeChannel (channel : ℕ) : WorkerSerialPortOwner :=
  if owner.channels[channel]? = some .live then
    { owner with channels := owner.channels.set channel .cleaning }
  else owner

/-- `reopenExpectedReset`, up to its first suspension. -/
def reopenExpectedReset (check : Bool) : WorkerSerialPortOwner × OwnerAnswer :=
  match owner.maybeChannel with
  | none => (owner, .threw (serialFailure "restart_reopen"))
  | some channel =>
      if owner.released || owner.closeBegun || owner.reopened || !owner.maybePort then
        (owner, .threw (serialFailure "restart_reopen"))
      else if !check then (owner, .threw (serialFailure "foreground_lost"))
      else
        (closeChannel { owner with reopened := true, reopening := .awaitingChannel channel } channel,
          .returned)

/-- `portClosed` of the attached channel. -/
def channelPortClosed : Bool :=
  (owner.maybeChannel.bind (owner.channels[·]?)).any fun status =>
    match status with
    | .done _ portClosed => portClosed
    | _ => false

/-- `reopenExpectedReset` behind the close of the channel it awaited. -/
def reopenOn (check : Bool) : WorkerSerialPortOwner :=
  if !owner.channelPortClosed || owner.released || owner.closeBegun || !check then owner
  else (openPort { owner with maybeChannel := none, maybeOpening := none }).1

/-- `reopenExpectedReset` goes on if the channel's close has settled. -/
def reopenResumes (check : Bool) : WorkerSerialPortOwner :=
  match owner.reopening with
  | .awaitingChannel channel =>
    match owner.channels[channel]? with
    | some (.done true _) => { owner with reopening := .done }
    | some (.done false _) => reopenOn { owner with reopening := .done } check
    | _ => owner
  | _ => owner

/-- `#finishClose` returns. -/
def closeEnds : WorkerSerialPortOwner := release { owner with closing := .done false }

/-- The `catch` of `#finishClose`. -/
def closeFails : WorkerSerialPortOwner :=
  if owner.channelPortClosed then release { owner with closing := .done true }
  else { owner with closing := .done true }

/-- `#finishClose` behind the opening, with the port open. -/
def closeOpened : WorkerSerialPortOwner :=
  match owner.maybeChannel with
  | some channel => closeChannel { owner with closing := .awaitingChannel channel } channel
  | none =>
      if owner.maybePort then
        if owner.native = .opened then
          { owner with closing := .awaitingPort none, native := .closing .owner }
        else owner.closeFails
      else owner.closeEnds

/-- `close`, up to its first suspension. -/
def close : WorkerSerialPortOwner :=
  if owner.closeBegun then owner
  else match owner.maybeOpening with
    | none => owner.closeEnds
    | some opening => { owner with closing := .awaitingOpening opening }

/-- `#finishClose` goes on if what it awaits has settled. -/
def closeResumes : WorkerSerialPortOwner :=
  match owner.closing with
  | .awaitingOpening opening =>
    match owner.openings[opening]? with
    | some (.settled true) => owner.closeOpened
    | some (.settled false) => owner.closeEnds
    | _ => owner
  | .awaitingChannel channel =>
    match owner.channels[channel]? with
    | some (.done true _) => owner.closeFails
    | some (.done false _) => owner.closeEnds
    | _ => owner
  | .awaitingPort (some true) => owner.closeEnds
  | .awaitingPort (some false) => owner.closeFails
  | _ => owner

/-- The native call of an opening. -/
def openingStarts (opening : ℕ) : WorkerSerialPortOwner :=
  if owner.openings[opening]? = some .deferred then
    let started := { owner with started := owner.started ++ [opening] }
    if owner.native = .closed then
      { started with
        native := .opening opening
        openings := owner.openings.set opening .pending }
    else { started with openings := owner.openings.set opening (.settled false) }
  else owner

/-- The native opening settles. -/
def nativeOpens (opened : Bool) : WorkerSerialPortOwner :=
  match owner.native with
  | .opening opening =>
      { owner with
        native := if opened then .opened else .closed
        openings := owner.openings.set opening (.settled opened) }
  | _ => owner

/-- A channel has done with its streams and closes the port. -/
def channelCleaned (channel : ℕ) (errors : Bool) : WorkerSerialPortOwner :=
  if owner.channels[channel]? = some .cleaning then
    if owner.native = .opened then
      { owner with
        native := .closing (.channel channel)
        channels := owner.channels.set channel (.closingPort errors) }
    else { owner with channels := owner.channels.set channel (.done true false) }
  else owner

/-- What the end of the native close is to who called it. -/
def closerGoesOn (closed : Bool) : PortCloser → WorkerSerialPortOwner
  | .owner => { owner with closing := .awaitingPort (some closed) }
  | .channel channel =>
    match owner.channels[channel]? with
    | some (.closingPort errors) =>
        { owner with channels := owner.channels.set channel (.done (errors || !closed) closed) }
    | _ => owner

/-- The native close settles. -/
def nativeCloses (closed : Bool) : WorkerSerialPortOwner :=
  match owner.native with
  | .closing closer =>
      closerGoesOn { owner with native := if closed then .closed else .opened } closed closer
  | _ => owner

/-- One event. -/
def step : OwnerEvent → WorkerSerialPortOwner × OwnerAnswer
  | .openPort => owner.openPort
  | .attach => owner.attach
  | .reopenExpectedReset check => owner.reopenExpectedReset check
  | .close => (owner.close, .returned)
  | .closeChannel channel => (owner.closeChannel channel, .returned)
  | .openingStarts opening => (owner.openingStarts opening, .returned)
  | .nativeOpens opened => (owner.nativeOpens opened, .returned)
  | .channelCleaned channel errors => (owner.channelCleaned channel errors, .returned)
  | .nativeCloses closed => (owner.nativeCloses closed, .returned)
  | .reopenResumes check => (owner.reopenResumes check, .returned)
  | .closeResumes => (owner.closeResumes, .returned)

end WorkerSerialPortOwner

/-- An owner under any order of events. -/
def portOwnerMachine : Machine WorkerSerialPortOwner OwnerEvent OwnerAnswer where
  init := .fresh
  admits _ _ _ := True
  step owner event := owner.step event

end WorkGate
