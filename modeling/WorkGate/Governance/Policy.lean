/-
# Data-governance policy (src/governance.rs)

A deployment keeps identifying records for one window and what is left of them for a longer
one, both measured from the end of the record's life and neither shorter than the hosted
defaults.  The planner decides from a record's class, its present form and its retention floor;
nothing here reads or writes a table.
-/

import WorkGate.Library.Results
import Mathlib.Algebra.Group.Nat.Defs

namespace WorkGate.Governance

open WorkGate.Library

/-- Hosted identifying-retention default: 30 days. -/
def hostedOperationalRetentionSeconds : ℕ := 30 * 24 * 60 * 60

/-- Hosted tombstone and governance-audit default: 90 days. -/
def hostedTombstoneRetentionSeconds : ℕ := 90 * 24 * 60 * 60

/-- Data-governance policy or persistence failure.  `database` stands for every error of the
driver, a violated constraint among them. -/
inductive GovernanceError
  | invalidRetentionPolicy
  | invalidPlanningInstant
  | planningInstantInFuture
  | destructiveApplyDisabled
  | destructiveConfirmationRequired
  | invalidBatchSize
  | invalidJobId
  | invalidManifestDigest
  | manifestDigestMismatch
  | staleRetentionPolicy
  | missingPseudonymizationKey
  | invalidPseudonymizationKey
  | unknownRetentionJob
  | invalidExportId
  | unknownExport
  | invalidExportPageSize
  | invalidExportCursor
  | staleRetentionPlan
  | invalidPersistedData
  | database
  | manifestSerialization
  deriving DecidableEq, Repr

/-- The persistence context owned by one Service-Local Operator interface. -/
inductive GovernanceContext
  | gateAuthority
  | relyingService
  deriving DecidableEq, Repr

/-- One context-owned class of persistence records. -/
inductive GovernedRecordClass
  | claimantIssuanceProofReplay
  | signedGatePass
  | trustedConsentReceipt
  | authorityOperational
  | dpopProofReplay
  | claimantOutcomeProofReplay
  | passConsumption
  | relyingServiceOperational
  | governanceAudit
  | governanceExportSnapshot
  deriving DecidableEq, Repr

namespace GovernedRecordClass

/-- `retires_immediately_after_floor`. -/
def retiresImmediatelyAfterFloor : GovernedRecordClass → Bool
  | claimantIssuanceProofReplay | signedGatePass | trustedConsentReceipt | dpopProofReplay
  | claimantOutcomeProofReplay | governanceAudit | governanceExportSnapshot => true
  | authorityOperational | passConsumption | relyingServiceOperational => false

/-- `record_class_allowed_in_context`. -/
def allowedInContext : GovernedRecordClass → GovernanceContext → Bool
  | claimantIssuanceProofReplay, .gateAuthority | signedGatePass, .gateAuthority
  | trustedConsentReceipt, .gateAuthority | authorityOperational, .gateAuthority => true
  | dpopProofReplay, .relyingService | claimantOutcomeProofReplay, .relyingService
  | passConsumption, .relyingService | relyingServiceOperational, .relyingService => true
  | governanceAudit, _ | governanceExportSnapshot, _ => true
  | _, _ => false

end GovernedRecordClass

/-- The privacy-relevant form currently retained for a governed record. -/
inductive RetentionState
  | identifying
  | overdueIdentifying
  | pseudonymized
  deriving DecidableEq, Repr

/-- A context policy whose configured windows may extend protocol floors. -/
structure RetentionPolicy where
  operationalRetentionSeconds : ℕ
  tombstoneRetentionSeconds : ℕ
  deriving DecidableEq, Repr

namespace RetentionPolicy

/-- `RetentionPolicy::hosted_default`. -/
def hostedDefault : RetentionPolicy :=
  ⟨hostedOperationalRetentionSeconds, hostedTombstoneRetentionSeconds⟩

/-- `RetentionPolicy::new`. -/
def new (operationalRetentionSeconds tombstoneRetentionSeconds : ℕ) :
    Except GovernanceError RetentionPolicy := do
  throwIf (operationalRetentionSeconds < hostedOperationalRetentionSeconds)
    .invalidRetentionPolicy
  throwIf (tombstoneRetentionSeconds < hostedTombstoneRetentionSeconds ∨
    tombstoneRetentionSeconds < operationalRetentionSeconds) .invalidRetentionPolicy
  return ⟨operationalRetentionSeconds, tombstoneRetentionSeconds⟩

/-- The windows a deployment may configure. -/
structure Valid (policy : RetentionPolicy) : Prop where
  operational : hostedOperationalRetentionSeconds ≤ policy.operationalRetentionSeconds
  tombstone : hostedTombstoneRetentionSeconds ≤ policy.tombstoneRetentionSeconds
  ordered : policy.operationalRetentionSeconds ≤ policy.tombstoneRetentionSeconds

theorem new_eq_ok {operational tombstone : ℕ} {policy : RetentionPolicy} :
    new operational tombstone = .ok policy ↔ policy = ⟨operational, tombstone⟩ ∧ policy.Valid := by
  rw [new, throwIf_bind_eq_ok, throwIf_bind_eq_ok, pure_eq_ok]
  constructor
  · rintro ⟨hoperational, htombstone, rfl⟩
    obtain ⟨hlong, hordered⟩ := not_or.mp htombstone
    exact ⟨rfl, Nat.not_lt.mp hoperational, Nat.not_lt.mp hlong, Nat.not_lt.mp hordered⟩
  · rintro ⟨rfl, hoperational, hlong, hordered⟩
    exact ⟨Nat.not_lt.mpr hoperational,
      not_or.mpr ⟨Nat.not_lt.mpr hlong, Nat.not_lt.mpr hordered⟩, rfl⟩

end RetentionPolicy

/-- One record whose exact protocol and configured retention floor is known. -/
structure RetentionCandidate where
  recordClass : GovernedRecordClass
  state : RetentionState
  retentionFloorUnixSeconds : ℕ
  deriving DecidableEq, Repr

/-- The irreversible transition selected by a Retention Job plan. -/
inductive RetentionAction
  | pseudonymize
  | delete
  deriving DecidableEq, Repr

/-- The policy fact that made one planned transition eligible. -/
inductive EligibilityReason
  | protocolRetentionFloorReached
  | operationalWindowElapsed
  | overdueRetentionWindowElapsed
  | tombstoneWindowElapsed
  deriving DecidableEq, Repr

/-- One eligible transition emitted by the pure planner. -/
structure PlannedRetention where
  action : RetentionAction
  reason : EligibilityReason
  deriving DecidableEq, Repr

/-- `plan_candidate`. -/
def planCandidate (candidate : RetentionCandidate) (asOf : ℕ) (policy : RetentionPolicy) :
    Except GovernanceError (Option PlannedRetention) := do
  let _ ← RetentionPolicy.new policy.operationalRetentionSeconds policy.tombstoneRetentionSeconds
  if asOf < candidate.retentionFloorUnixSeconds then return none
  match candidate.state with
  | .overdueIdentifying => return some ⟨.delete, .overdueRetentionWindowElapsed⟩
  | .pseudonymized => return some ⟨.delete, .tombstoneWindowElapsed⟩
  | .identifying =>
      if candidate.recordClass.retiresImmediatelyAfterFloor then
        return some ⟨.delete, .protocolRetentionFloorReached⟩
      else return some ⟨.pseudonymize, .operationalWindowElapsed⟩

/-- A candidate is planned for at the earliest when its floor is reached. -/
theorem planCandidate_eq_some {candidate : RetentionCandidate} {asOf : ℕ}
    {policy : RetentionPolicy} {planned : PlannedRetention}
    (h : planCandidate candidate asOf policy = .ok (some planned)) :
    policy.Valid ∧ candidate.retentionFloorUnixSeconds ≤ asOf := by
  rw [planCandidate, bind_eq_ok] at h
  obtain ⟨checked, hchecked, h⟩ := h
  obtain ⟨rfl, hvalid⟩ := RetentionPolicy.new_eq_ok.mp hchecked
  split at h
  · cases h
  · exact ⟨hvalid, by omega⟩

/-! ## Floors of the Relying Service -/

/-- `PassRetentionMarker`. -/
structure PassRetentionMarker where
  consumedAt : ℕ
  expiresAt : ℕ
  deriving DecidableEq

/-- `RetentionFloors`. -/
structure RetentionFloors where
  operational : ℕ
  finalDeletion : ℕ
  deriving DecidableEq

/-- `checked_add` of two `u64`. -/
def checkedAdd (left right : ℕ) : Except GovernanceError ℕ :=
  if left + right < 2 ^ 64 then .ok (left + right) else .error .invalidPersistedData

theorem checkedAdd_eq_ok {left right sum : ℕ} (h : checkedAdd left right = .ok sum) :
    sum = left + right := by
  rw [checkedAdd] at h
  split at h
  · cases h
    rfl
  · cases h

/-- `pass_retention_floors`. -/
def passRetentionFloors (marker : PassRetentionMarker) (policy : RetentionPolicy) :
    Except GovernanceError RetentionFloors := do
  let operational ← checkedAdd marker.consumedAt policy.operationalRetentionSeconds
  let finalDeletion ← checkedAdd marker.consumedAt policy.tombstoneRetentionSeconds
  return ⟨max operational marker.expiresAt, max finalDeletion marker.expiresAt⟩

theorem passRetentionFloors_eq_ok {marker : PassRetentionMarker} {policy : RetentionPolicy}
    {floors : RetentionFloors} (h : passRetentionFloors marker policy = .ok floors) :
    floors.operational =
        max (marker.consumedAt + policy.operationalRetentionSeconds) marker.expiresAt ∧
      floors.finalDeletion =
        max (marker.consumedAt + policy.tombstoneRetentionSeconds) marker.expiresAt := by
  simp only [passRetentionFloors, bind_eq_ok, pure_eq_ok] at h
  obtain ⟨operational, hoperational, finalDeletion, hfinal, rfl⟩ := h
  rw [checkedAdd_eq_ok hoperational, checkedAdd_eq_ok hfinal]
  exact ⟨rfl, rfl⟩

/-- `relying_retention_floors`. -/
def relyingRetentionFloors (terminalAt publicLookupExpiresAt : ℕ)
    (passMarkers : List PassRetentionMarker) (policy : RetentionPolicy) :
    Except GovernanceError RetentionFloors := do
  let operational ← checkedAdd terminalAt policy.operationalRetentionSeconds
  let finalDeletion ← checkedAdd terminalAt policy.tombstoneRetentionSeconds
  passMarkers.foldlM (fun floors marker => do
      let markerFloors ← passRetentionFloors marker policy
      return ⟨max floors.operational markerFloors.operational,
        max floors.finalDeletion markerFloors.finalDeletion⟩)
    ⟨max operational publicLookupExpiresAt, max finalDeletion publicLookupExpiresAt⟩

/-- What the floors of an aggregate are above. -/
structure RetentionFloors.Cover (floors : RetentionFloors) (terminalAt publicLookupExpiresAt : ℕ)
    (passMarkers : List PassRetentionMarker) (policy : RetentionPolicy) : Prop where
  operational : terminalAt + policy.operationalRetentionSeconds ≤ floors.operational
  finalDeletion : terminalAt + policy.tombstoneRetentionSeconds ≤ floors.finalDeletion
  lookup : publicLookupExpiresAt ≤ floors.operational ∧ publicLookupExpiresAt ≤ floors.finalDeletion
  markers : ∀ marker ∈ passMarkers,
    max (marker.consumedAt + policy.operationalRetentionSeconds) marker.expiresAt ≤
        floors.operational ∧
      max (marker.consumedAt + policy.tombstoneRetentionSeconds) marker.expiresAt ≤
        floors.finalDeletion

theorem relyingRetentionFloors_eq_ok {terminalAt publicLookupExpiresAt : ℕ}
    {passMarkers : List PassRetentionMarker} {policy : RetentionPolicy} {floors : RetentionFloors}
    (h : relyingRetentionFloors terminalAt publicLookupExpiresAt passMarkers policy =
      .ok floors) : floors.Cover terminalAt publicLookupExpiresAt passMarkers policy := by
  simp only [relyingRetentionFloors, bind_eq_ok] at h
  obtain ⟨operational, hoperational, finalDeletion, hfinal, hfold⟩ := h
  have hfolded : ∀ (markers : List PassRetentionMarker) (start : RetentionFloors),
      markers.foldlM (fun floors marker => do
          let markerFloors ← passRetentionFloors marker policy
          return ⟨max floors.operational markerFloors.operational,
            max floors.finalDeletion markerFloors.finalDeletion⟩) start = .ok floors →
        start.operational ≤ floors.operational ∧ start.finalDeletion ≤ floors.finalDeletion ∧
          ∀ marker ∈ markers,
            max (marker.consumedAt + policy.operationalRetentionSeconds) marker.expiresAt ≤
                floors.operational ∧
              max (marker.consumedAt + policy.tombstoneRetentionSeconds) marker.expiresAt ≤
                floors.finalDeletion := by
    intro markers
    induction markers with
    | nil =>
        intro start hstart
        cases hstart
        exact ⟨Nat.le_refl _, Nat.le_refl _, List.forall_mem_nil _⟩
    | cons marker markers ih =>
        intro start hstart
        rw [List.foldlM_cons, bind_eq_ok] at hstart
        obtain ⟨next, hnext, hrest⟩ := hstart
        obtain ⟨markerFloors, hmarker, hpure⟩ := bind_eq_ok.mp hnext
        obtain ⟨hmarkerOperational, hmarkerFinal⟩ := passRetentionFloors_eq_ok hmarker
        cases pure_eq_ok.mp hpure
        obtain ⟨hnextOperational, hnextFinal, hmarkers⟩ := ih _ hrest
        simp only at hnextOperational hnextFinal
        refine ⟨by omega, by omega, List.forall_mem_cons.mpr ⟨?_, hmarkers⟩⟩
        rw [← hmarkerOperational, ← hmarkerFinal]
        exact ⟨by omega, by omega⟩
  obtain ⟨hstartOperational, hstartFinal, hmarkers⟩ := hfolded _ _ hfold
  rw [checkedAdd_eq_ok hoperational] at hstartOperational
  rw [checkedAdd_eq_ok hfinal] at hstartFinal
  simp only at hstartOperational hstartFinal
  exact ⟨by omega, by omega, by omega, hmarkers⟩

end WorkGate.Governance
