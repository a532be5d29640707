/-
# The accepted-work outbox (src/stratum_v1/postgres.rs, migrations/pool_adapter)

The Pool Adapter records an accepted share here before the Worker hears of it, and
delivery workers take the rows to the Authority under expiring claims.  As in the
Authority's database, columns hold the typed values they were written from, and the
settlement constraint on the delivery columns is a type: a row cannot be settled and
claimed at once.
-/

import WorkGate.Authority.Database
import WorkGate.Library.Machine
import WorkGate.Stratum.Credentials
import Mathlib.Data.List.MinMax
import Mathlib.Data.Prod.Lex
import Mathlib.Data.String.Basic

namespace WorkGate

open WorkGate.Library

/-- A worker's claim of a row: `delivery_owner` and the end of its lease. -/
structure DeliveryClaim where
  owner : String
  leaseExpiresAtUnixSeconds : ℕ
  deriving DecidableEq

/-- The delivery columns of a row, as the settlement constraint ties them together. -/
inductive DeliveryState
  | pending (maybeClaim : Option DeliveryClaim) (nextAttemptAtUnixSeconds : Option ℕ)
  | acknowledged (acknowledgedAtUnixSeconds : ℕ)
  | refused (acknowledgedAtUnixSeconds : ℕ) (reason : AcceptedWorkRefusal)
  deriving DecidableEq

/-- Whether a row still has to be delivered. -/
def DeliveryState.isPending : DeliveryState → Bool
  | .pending _ _ => true
  | _ => false

/-- `pool_adapter.accepted_work_outbox`.  The lease id is stored as a UUID, so its text is
the canonical one. -/
structure AcceptedWorkRow where
  event : AcceptedWorkEvent
  leaseContext : StratumLeaseContext
  workerResponse : String
  delivery : DeliveryState
  deliveryAttempts : ℕ

/-- The outbox table, under its primary key. -/
abbrev AcceptedWorkOutbox := Rows AcceptedWorkEventId AcceptedWorkRow

/-- Exact first durable representation of one accepted upstream response. -/
structure PersistedAcceptedWork where
  event : AcceptedWorkEvent
  leaseContext : StratumLeaseContext
  workerResponse : String
  deriving DecidableEq

/-- One exact Accepted Work Event held under a recoverable delivery lease. -/
structure ClaimedAcceptedWork where
  event : AcceptedWorkEvent
  leaseContext : StratumLeaseContext
  workerResponse : String
  deliveryOwner : String
  leaseExpiresAtUnixSeconds : ℕ
  deliveryAttempts : ℕ
  deriving DecidableEq

/-- `lease_context_from_row`. -/
def AcceptedWorkRow.leaseContextFromRow (deps : Dependencies) (row : AcceptedWorkRow) :
    Except StratumV1Error StratumLeaseContext :=
  StratumLeaseContext.new deps row.leaseContext.leaseId row.leaseContext.continuityId
    row.leaseContext.lastMonotonicMilliseconds row.leaseContext.renewAtMonotonicMilliseconds
    row.leaseContext.expiresAtMonotonicMilliseconds

/-- `valid_accepted_response`. -/
def validAcceptedResponse (deps : Dependencies) (value : String) : Bool :=
  match (deps.fromStr value).bind Json.asObject with
  | none => false
  | some response => response.reportsTrue

/-- `same_share_observation`. -/
def sameShareObservation (left right : AcceptedWorkEvent) : Bool :=
  left.workSessionId == right.workSessionId && left.assignedTarget == right.assignedTarget &&
    left.shareFingerprint == right.shareFingerprint &&
    left.networkTargetOutcome == right.networkTargetOutcome

/-- `same_lease_identity`. -/
def sameLeaseIdentity (left right : StratumLeaseContext) : Bool :=
  left.leaseId == right.leaseId && left.continuityId == right.continuityId

/-- `valid_delivery_worker`. -/
def validDeliveryWorker (value : String) : Bool :=
  match "delivery_worker_".toList.isPrefixOf? value.toList with
  | none => false
  | some suffix => !suffix.isEmpty && decide (suffix.length ≤ 128) &&
      suffix.all isOpaqueIdCharacter

/-- The row a first insert writes.  A Worker's own report is not recorded. -/
def newRow (event : AcceptedWorkEvent) (context : StratumLeaseContext) (leaseUuid : String)
    (workerResponse : String) : AcceptedWorkRow where
  event := { event with maybeWorkerReport := none }
  leaseContext := { context with leaseId := leaseUuid }
  workerResponse := workerResponse
  delivery := .pending none none
  deliveryAttempts := 0

namespace AcceptedWorkOutbox

/-- `INSERT … ON CONFLICT (event_id) DO NOTHING`, as far as its parameters can be bound. -/
def insertNew (outbox : AcceptedWorkOutbox) (event : AcceptedWorkEvent)
    (context : StratumLeaseContext) (workerResponse : String) :
    Except StratumV1Error AcceptedWorkOutbox := do
  let _ ← toI64 context.lastMonotonicMilliseconds
  let _ ← toI64 context.renewAtMonotonicMilliseconds
  let _ ← toI64 context.expiresAtMonotonicMilliseconds
  let _ ← toI64 event.receivedAt.unixSeconds
  match castUuid context.leaseId with
  | none => .error .database
  | some leaseUuid =>
    if !storesText context.continuityId || !storesText workerResponse then .error .database
    else if event.eventId ∈ outbox then .ok outbox
    else .ok (outbox.insert event.eventId (newRow event context leaseUuid workerResponse))

/-- The row read back by `persist`, refused when it is not the observation just made. -/
def readBack (deps : Dependencies) (outbox : AcceptedWorkOutbox) (event : AcceptedWorkEvent)
    (context : StratumLeaseContext) (workerResponse : String) :
    Except StratumV1Error PersistedAcceptedWork := do
  match outbox.lookup event.eventId with
  | none => .error .database
  | some row =>
    let persistedContext ← row.leaseContextFromRow deps
    if !sameShareObservation row.event event || !sameLeaseIdentity persistedContext context ||
        row.workerResponse != workerResponse then .error .conflictingOutboxReplay
    else .ok ⟨row.event, persistedContext, row.workerResponse⟩

/-- `persist`: one transaction, rolled back on every error. -/
def persist (deps : Dependencies) (outbox : AcceptedWorkOutbox) (event : AcceptedWorkEvent)
    (context : StratumLeaseContext) (workerResponse : String) :
    AcceptedWorkOutbox × Except StratumV1Error PersistedAcceptedWork :=
  if !validAcceptedResponse deps workerResponse then (outbox, .error .invalidFrame)
  else match insertNew outbox event context workerResponse with
    | .error error => (outbox, .error error)
    | .ok inserted =>
      match readBack deps inserted event context workerResponse with
      | .error error => (outbox, .error error)
      | .ok persisted => (inserted, .ok persisted)

/-- Whether a row may be claimed at `now`. -/
def claimable (now : ℕ) (row : AcceptedWorkRow) : Bool :=
  match row.delivery with
  | .pending maybeClaim maybeNextAttempt =>
      (match maybeClaim with
        | none => true
        | some claim => decide (claim.leaseExpiresAtUnixSeconds ≤ now)) &&
      (match maybeNextAttempt with
        | none => true
        | some nextAttempt => decide (nextAttempt ≤ now))
  | _ => false

/-- The candidate of `claim_next`: the earliest claimable row, skipping the locked ones. -/
def candidate (outbox : AcceptedWorkOutbox) (now : ℕ) (locked : List AcceptedWorkEventId) :
    Option ((_ : AcceptedWorkEventId) × AcceptedWorkRow) :=
  (outbox.entries.filter fun entry => claimable now entry.2 && decide (entry.1 ∉ locked)).argmin
    fun entry => toLex (entry.2.event.receivedAt.unixSeconds, entry.1.text)

/-- A row as its new owner's claim leaves it. -/
def claimRow (workerId : String) (leaseExpiresAt : ℕ) (row : AcceptedWorkRow) : AcceptedWorkRow :=
  { row with
    delivery := match row.delivery with
      | .pending _ maybeNextAttempt => .pending (some ⟨workerId, leaseExpiresAt⟩) maybeNextAttempt
      | settled => settled
    deliveryAttempts := row.deliveryAttempts + 1 }

/-- `claim_next`.  The statement commits before its row is decoded. -/
def claimNext (deps : Dependencies) (outbox : AcceptedWorkOutbox) (workerId : String)
    (now leaseExpiresAt : ℕ) (locked : List AcceptedWorkEventId) :
    AcceptedWorkOutbox × Except StratumV1Error (Option ClaimedAcceptedWork) :=
  if !validDeliveryWorker workerId || decide (leaseExpiresAt ≤ now) then
    (outbox, .error .invalidSessionConfig)
  else match toI64 now, toI64 leaseExpiresAt with
    | .error error, _ => (outbox, .error error)
    | _, .error error => (outbox, .error error)
    | .ok now, .ok leaseExpiresAt =>
      match candidate outbox now locked with
      | none => (outbox, .ok none)
      | some ⟨eventId, row⟩ =>
        -- `delivery_attempts` is an `INTEGER`.
        if row.deliveryAttempts + 1 ≥ 2 ^ 31 then (outbox, .error .database)
        else
          let claimed := outbox.updateRow eventId (claimRow workerId leaseExpiresAt)
          match row.leaseContextFromRow deps with
          | .error error => (claimed, .error error)
          | .ok context => (claimed, .ok (some {
              event := row.event
              leaseContext := context
              workerResponse := row.workerResponse
              deliveryOwner := workerId
              leaseExpiresAtUnixSeconds := leaseExpiresAt
              deliveryAttempts := row.deliveryAttempts + 1 }))

/-- The condition of `settle` and `defer`: the row is pending under the worker's own claim,
which has not run out. -/
def heldBy (outbox : AcceptedWorkOutbox) (eventId : AcceptedWorkEventId) (owner : String)
    (now : ℕ) : Bool :=
  match outbox.lookup eventId with
  | some ⟨_, _, _, .pending (some claim) _, _⟩ =>
      claim.owner == owner && decide (now < claim.leaseExpiresAtUnixSeconds)
  | _ => false

/-- Rewrite the delivery columns of one row. -/
def setDelivery (outbox : AcceptedWorkOutbox) (eventId : AcceptedWorkEventId)
    (delivery : DeliveryState) : AcceptedWorkOutbox :=
  outbox.updateRow eventId fun row => { row with delivery }

/-- `settle`, the common body of `acknowledge` and `refuse`. -/
def settle (outbox : AcceptedWorkOutbox) (claimed : ClaimedAcceptedWork) (now : ℕ)
    (maybeRefusal : Option AcceptedWorkRefusal) :
    AcceptedWorkOutbox × Except StratumV1Error Unit :=
  match toI64 now with
  | .error error => (outbox, .error error)
  | .ok now =>
    if !heldBy outbox claimed.event.eventId claimed.deliveryOwner now then
      (outbox, .error .lostDeliveryLease)
    else (setDelivery outbox claimed.event.eventId (match maybeRefusal with
      | none => .acknowledged now
      | some refusal => .refused now refusal), .ok ())

/-- `acknowledge`. -/
def acknowledge (outbox : AcceptedWorkOutbox) (claimed : ClaimedAcceptedWork) (now : ℕ) :
    AcceptedWorkOutbox × Except StratumV1Error Unit :=
  settle outbox claimed now none

/-- `refuse`: settles an event the Authority will never credit. -/
def refuse (outbox : AcceptedWorkOutbox) (claimed : ClaimedAcceptedWork)
    (refusal : AcceptedWorkRefusal) (now : ℕ) : AcceptedWorkOutbox × Except StratumV1Error Unit :=
  settle outbox claimed now (some refusal)

/-- `defer`: releases an event after an outage so no claim takes it before `retryAt`. -/
def defer (outbox : AcceptedWorkOutbox) (claimed : ClaimedAcceptedWork) (now retryAt : ℕ) :
    AcceptedWorkOutbox × Except StratumV1Error Unit :=
  match toI64 now, toI64 retryAt with
  | .error error, _ => (outbox, .error error)
  | _, .error error => (outbox, .error error)
  | .ok now, .ok retryAt =>
    if !heldBy outbox claimed.event.eventId claimed.deliveryOwner now then
      (outbox, .error .lostDeliveryLease)
    -- The constraint on `next_attempt_at_unix_seconds`.
    else if retryAt = 0 then (outbox, .error .database)
    else (setDelivery outbox claimed.event.eventId (.pending none (some retryAt)), .ok ())

end AcceptedWorkOutbox

end WorkGate
