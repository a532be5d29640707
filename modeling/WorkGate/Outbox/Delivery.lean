/-
# Delivery to the Authority (src/stratum_v1/delivery.rs,
# src/authority_application/accepted_work.rs)

Any number of delivery processes, an outbox and an Authority.  A process claims a row,
hands the event to the Authority and settles the row by the answer it got; between any
two of these it may crash, and an answer may be lost on its way back.  Whatever else the
Authority does meanwhile is a request of its own.
-/

import WorkGate.Authority.Transactions
import WorkGate.Outbox.Safety

namespace WorkGate

open WorkGate.Library

/-- What a process learns from the Authority: `Ok`, `Refused` or `Unavailable`. -/
inductive SinkAnswer
  | accepted
  | refused (refusal : AcceptedWorkRefusal)
  | unavailable
  deriving DecidableEq

/-- Where a process stands between its claim and its settlement.  `startedAt` is the time
`deliver_one` was called with, which it settles with as well. -/
inductive DeliveryStage
  | claimed (claimed : ClaimedAcceptedWork) (startedAt : ℕ)
  | answered (claimed : ClaimedAcceptedWork) (startedAt : ℕ) (answer : SinkAnswer)

/-- The claim a process works on. -/
def DeliveryStage.claim : DeliveryStage → ClaimedAcceptedWork
  | .claimed work _ => work
  | .answered work _ _ => work

/-- `AcceptedWorkDeliveryWorker`. -/
structure AcceptedWorkDeliveryWorker where
  workerId : String
  leaseSeconds : ℕ
  bounded : 0 < leaseSeconds ∧ leaseSeconds ≤ 300

/-- `MAX_DELIVERY_RETRY_SECONDS`. -/
def maxDeliveryRetrySeconds : ℕ := 300

/-- `retry_delay_seconds`. -/
def retryDelaySeconds (attempts : ℕ) : ℕ := min (2 ^ min (attempts - 1) 16) maxDeliveryRetrySeconds

/-- The outbox, the Authority's store and the processes between them. -/
structure DeliverySystem where
  outbox : AcceptedWorkOutbox
  authority : AuthorityDatabase
  processes : Rows ℕ DeliveryStage

inductive DeliveryRequest
  /-- A Stratum session records an accepted share. -/
  | persist (event : AcceptedWorkEvent) (context : StratumLeaseContext) (workerResponse : String)
  /-- An idle process starts `deliver_one`. -/
  | claim (process : ℕ) (worker : AcceptedWorkDeliveryWorker) (now : ℕ)
      (locked : List AcceptedWorkEventId)
  /-- A process hands its event over; `lost` when the answer does not reach it. -/
  | deliver (process now : ℕ) (passUuid : String) (lost : Bool)
  /-- A process settles or defers its row by the answer it got, and is idle again. -/
  | settle (process : ℕ)
  | crash (process : ℕ)
  /-- Any other transaction of the Authority. -/
  | authority (request : AuthorityRequest)

inductive DeliveryReply
  | outbox (reply : OutboxReply)
  | authority (reply : AuthorityReply)
  | idle
  deriving DecidableEq

/-- `SimulatedPoolAdapter::deliver`: a refusal is terminal, any other error is an outage. -/
def sinkAnswer : AuthorityReply → SinkAnswer
  | .accepted _ => .accepted
  | .refused (.workRefused refusal) => .refused refusal
  | _ => .unavailable

namespace DeliverySystem

/-- The first part of `deliver_one`, up to the answer of `claim_next`. -/
def claim (deps : Dependencies) (system : DeliverySystem) (process : ℕ)
    (worker : AcceptedWorkDeliveryWorker) (now : ℕ) (locked : List AcceptedWorkEventId) :
    DeliverySystem × DeliveryReply :=
  if process ∈ system.processes then (system, .idle)
  else if now + worker.leaseSeconds ≥ 2 ^ 64 then
    (system, .outbox (.failed .invalidSessionConfig))
  else
    let after := AcceptedWorkOutbox.step deps system.outbox
      (.claimNext worker.workerId now (now + worker.leaseSeconds) locked)
    ({ system with
      outbox := after.1
      processes := match after.2 with
        | .claimed (some claimed) => system.processes.insert process (.claimed claimed now)
        | _ => system.processes }, .outbox after.2)

/-- `report_stratum`: the event goes to `accept_work` under the clock its lease captured. -/
def deliver (system : DeliverySystem) (process now : ℕ) (passUuid : String) (lost : Bool) :
    DeliverySystem × DeliveryReply :=
  match system.processes.lookup process with
  | some (.claimed claimed startedAt) =>
    match WorkerClock.new claimed.leaseContext.continuityId
        claimed.leaseContext.lastMonotonicMilliseconds with
    | .error _ => ({ system with
        processes := system.processes.insert process (.answered claimed startedAt .unavailable) },
        .idle)
    | .ok clock =>
      let after := authorityStep system.authority
        (.acceptWork claimed.event claimed.leaseContext.leaseId clock now passUuid)
      ({ system with
        authority := after.1
        processes := system.processes.insert process (.answered claimed startedAt
          (if lost then .unavailable else sinkAnswer after.2)) }, .authority after.2)
  | _ => (system, .idle)

/-- The call that ends `deliver_one`, or `none` where it gives up on an overflow. -/
def settlement (claimed : ClaimedAcceptedWork) (startedAt : ℕ) : SinkAnswer → Option OutboxRequest
  | .accepted => some (.acknowledge claimed startedAt)
  | .refused refusal => some (.refuse claimed refusal startedAt)
  | .unavailable =>
      let retryAt := startedAt + retryDelaySeconds claimed.deliveryAttempts
      if retryAt ≥ 2 ^ 64 then none else some (.defer claimed startedAt retryAt)

/-- The last part of `deliver_one`. -/
def settle (deps : Dependencies) (system : DeliverySystem) (process : ℕ) :
    DeliverySystem × DeliveryReply :=
  match system.processes.lookup process with
  | some (.answered claimed startedAt answer) =>
    let idle := system.processes.erase process
    match settlement claimed startedAt answer with
    | none => ({ system with processes := idle }, .outbox (.failed .invalidSessionConfig))
    | some request =>
      let after := AcceptedWorkOutbox.step deps system.outbox request
      ({ system with outbox := after.1, processes := idle }, .outbox after.2)
  | _ => (system, .idle)

/-- One step of one party. -/
def step (deps : Dependencies) (system : DeliverySystem) :
    DeliveryRequest → DeliverySystem × DeliveryReply
  | .persist event context workerResponse =>
      let after := AcceptedWorkOutbox.step deps system.outbox
        (.persist event context workerResponse)
      ({ system with outbox := after.1 }, .outbox after.2)
  | .claim process worker now locked => system.claim deps process worker now locked
  | .deliver process now passUuid lost => system.deliver process now passUuid lost
  | .settle process => system.settle deps process
  | .crash process => ({ system with processes := system.processes.erase process }, .idle)
  | .authority request =>
      let after := authorityStep system.authority request
      ({ system with authority := after.1 }, .authority after.2)

end DeliverySystem

/-- The delivery system: any party may move at any time. -/
def deliverySystem (deps : Dependencies) :
    Machine DeliverySystem DeliveryRequest DeliveryReply where
  init := ⟨∅, AuthorityDatabase.empty, ∅⟩
  admits := fun _ _ _ => True
  step := DeliverySystem.step deps

end WorkGate
