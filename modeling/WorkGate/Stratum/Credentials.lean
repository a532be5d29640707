/-
# Stratum Session credentials (src/stratum_v1/credentials.rs)

The lease an authority granted travels with every accepted share, as the clock reading
the Worker's boot had reached.  A live session advances that reading by the wall clock
and may be moved onto a later registration of the same lease.
-/

import WorkGate.Progress.Event
import WorkGate.Stratum.Json

namespace WorkGate

/-- The failures of the Pool Adapter that the modelled functions raise.  `database` stands
for every error of the driver. -/
inductive StratumV1Error
  | invalidSessionConfig
  | invalidFrame
  | expiredCredentials
  | invalidCredentials
  | authorizationRequired
  | targetRequired
  | unsupportedDifficulty
  | invalidExtranonce
  | unknownJob
  | unknownPersistenceToken
  | unknownExtranonceToken
  | duplicateRequestId
  | frameTooLarge
  | capacityExceeded
  | shareBelowAssignedTarget
  | conflictingOutboxReplay
  | conflictingSessionReplay
  | extranonceCollision
  | unextendableSession
  | lostDeliveryLease
  | clockRollback
  | database
  | progress (error : ProgressError)
  deriving DecidableEq, Repr

/-- `to_i64`. -/
def toI64 (value : ℕ) : Except StratumV1Error ℕ :=
  if value < 2 ^ 63 then .ok value else .error .invalidSessionConfig

theorem toI64_eq_ok {value converted : ℕ} (h : toI64 value = .ok converted) :
    converted = value := by
  rw [toI64] at h
  split at h
  · cases h
    rfl
  · cases h

/-- A `TEXT` parameter: PostgreSQL has no zero character. -/
def storesText (text : String) : Bool := !text.toList.contains '\x00'

/-- The checks of `StratumLeaseContext::new` that read no UUID. -/
def validLeaseWindow (continuityId : String) (last renewAt expiresAt : ℕ) : Bool :=
  !(continuityId.isEmpty || continuityId.utf8ByteSize > 128 || renewAt == 0 ||
    decide (expiresAt ≤ last) || decide (expiresAt < renewAt))

theorem validLeaseWindow_short : validLeaseWindow "boot" 15 20 60 = true := by decide

/-- Exact Authority-issued lease and Worker continuity values carried with accepted work. -/
structure StratumLeaseContext where
  leaseId : String
  continuityId : String
  lastMonotonicMilliseconds : ℕ
  renewAtMonotonicMilliseconds : ℕ
  expiresAtMonotonicMilliseconds : ℕ
  valid : validLeaseWindow continuityId lastMonotonicMilliseconds renewAtMonotonicMilliseconds
    expiresAtMonotonicMilliseconds = true
  deriving DecidableEq

namespace StratumLeaseContext

/-- `StratumLeaseContext::new`. -/
def new (deps : Dependencies) (leaseId continuityId : String) (last renewAt expiresAt : ℕ) :
    Except StratumV1Error StratumLeaseContext :=
  if !deps.parsesUuid leaseId then .error .invalidSessionConfig
  else if hvalid : validLeaseWindow continuityId last renewAt expiresAt = true then
    .ok ⟨leaseId, continuityId, last, renewAt, expiresAt, hvalid⟩
  else .error .invalidSessionConfig

/-- A valid window ends after its last reading. -/
theorem last_lt_expiresAt (context : StratumLeaseContext) :
    context.lastMonotonicMilliseconds < context.expiresAtMonotonicMilliseconds := by
  have hvalid := context.valid
  simp only [validLeaseWindow, Bool.not_eq_true', Bool.or_eq_false_iff,
    decide_eq_false_iff_not, not_le] at hvalid
  exact hvalid.1.2

/-- Moving the last reading to a later one inside the window keeps the window valid. -/
theorem valid_advanced (context : StratumLeaseContext) {observed : ℕ}
    (hinside : observed < context.expiresAtMonotonicMilliseconds) :
    validLeaseWindow context.continuityId observed context.renewAtMonotonicMilliseconds
      context.expiresAtMonotonicMilliseconds = true := by
  have hvalid := context.valid
  simp only [validLeaseWindow, Bool.not_eq_true', Bool.or_eq_false_iff,
    decide_eq_false_iff_not, not_le] at hvalid ⊢
  exact ⟨⟨hvalid.1.1, hinside⟩, hvalid.2⟩

/-- `advanced_by_wall_clock`. -/
def advancedByWallClock (context : StratumLeaseContext) (issuedAt now : ℕ) :
    Except StratumV1Error StratumLeaseContext :=
  if now < issuedAt then .error .clockRollback
  else
    let observed := context.lastMonotonicMilliseconds + (now - issuedAt)
    if observed ≥ 2 ^ 64 then .error .invalidSessionConfig
    else if hinside : observed < context.expiresAtMonotonicMilliseconds then
      .ok { context with
        lastMonotonicMilliseconds := observed
        valid := context.valid_advanced hinside }
    else .error .expiredCredentials

/-- An advanced reading lies between the last one and the end of the lease. -/
theorem advancedByWallClock_eq_ok {context advanced : StratumLeaseContext} {issuedAt now : ℕ}
    (h : context.advancedByWallClock issuedAt now = .ok advanced) :
    context.lastMonotonicMilliseconds ≤ advanced.lastMonotonicMilliseconds ∧
      advanced.lastMonotonicMilliseconds < context.expiresAtMonotonicMilliseconds ∧
      advanced.leaseId = context.leaseId ∧ advanced.continuityId = context.continuityId ∧
      advanced.renewAtMonotonicMilliseconds = context.renewAtMonotonicMilliseconds ∧
      advanced.expiresAtMonotonicMilliseconds = context.expiresAtMonotonicMilliseconds := by
  simp only [advancedByWallClock] at h
  split at h
  · cases h
  · split at h
    · cases h
    · split at h
      · next hinside =>
          cases h
          exact ⟨Nat.le_add_right _ _, hinside, rfl, rfl, rfl, rfl⟩
      · cases h

end StratumLeaseContext

/-- Short-lived authorization for one standard Stratum V1 connection. -/
structure StratumSessionConfig where
  sessionId : WorkSessionId
  leaseContext : StratumLeaseContext
  username : String
  secret : String
  upstreamUsername : String
  upstreamSecret : String
  issuedAtUnixMilliseconds : ℕ
  expiresAtUnixSeconds : ℕ

/-- A registration the session registry authenticated. -/
structure AuthenticatedStratumSession where
  sessionId : WorkSessionId
  leaseContext : StratumLeaseContext
  issuedAtUnixMilliseconds : ℕ
  expiresAtUnixSeconds : ℕ

/-- `renew_config`: a later registration of the same lease applied to a live session. -/
def AuthenticatedStratumSession.renewConfig (renewed : AuthenticatedStratumSession)
    (config : StratumSessionConfig) : Except StratumV1Error StratumSessionConfig :=
  if renewed.sessionId ≠ config.sessionId ∨
      renewed.leaseContext.leaseId ≠ config.leaseContext.leaseId ∨
      renewed.leaseContext.continuityId ≠ config.leaseContext.continuityId ∨
      renewed.issuedAtUnixMilliseconds < config.issuedAtUnixMilliseconds ∨
      renewed.expiresAtUnixSeconds < config.expiresAtUnixSeconds then
    .error .unextendableSession
  else .ok { config with
    leaseContext := renewed.leaseContext
    issuedAtUnixMilliseconds := renewed.issuedAtUnixMilliseconds
    expiresAtUnixSeconds := renewed.expiresAtUnixSeconds }

end WorkGate
