/-
# Planning and applying retention (src/governance/postgres.rs,
src/governance/postgres/reference_retention.rs, src/governance/postgres/retention_apply.rs)

A plan lists the records whose floor is reached, each with the one transition it is to make.
Batches of the plan are applied later, item after item; every item looks its record up again and
stops the batch when the record is no longer the one that was planned for.
-/

import WorkGate.Governance.Database

namespace WorkGate.Governance

open WorkGate.Library

namespace GovernedDatabase

/-! ## Candidates -/

/-- The marker of a consumption as the floors read it. -/
def markerOf (row : PassConsumptionRow) : PassRetentionMarker :=
  ⟨row.consumedAtUnixSeconds, row.gatePassExpiresAtUnixSeconds⟩

/-- `select_aggregate_pass_consumptions`. -/
def aggregatePassConsumptions (store : RelyingDatabase) (redemptionId : String) :
    List ((_ : String × String) × PassConsumptionRow) :=
  store.passConsumptions.entries.filter fun entry => entry.2.redemptionId == redemptionId

/-- `GREATEST` of a window after consumption and the pass's expiry. -/
def passFloor (row : PassConsumptionRow) (window : ℕ) : ℕ :=
  max (row.consumedAtUnixSeconds + window) row.gatePassExpiresAtUnixSeconds

/-- When the outcome of a redemption became terminal. -/
def terminalAt (outcome : OutcomeRow) : Option ℕ :=
  match outcome.status with
  | .pending => none
  | .succeeded | .failed => outcome.terminalAtUnixSeconds

/-- A floor of `aggregate_floors`: the latest of the terminal instant's window, the end of public
lookup and the floors of the aggregate's passes. -/
def aggregateFloor (store : RelyingDatabase) (redemptionId : String) (record : RedemptionRow)
    (terminal window : ℕ) : ℕ :=
  ((aggregatePassConsumptions store redemptionId).map fun entry => passFloor entry.2 window).foldl
    max (max (terminal + window) record.publicLookupExpiresAtUnixSeconds)

/-- `aggregate_floors` of one redemption. -/
def aggregateFloors (store : RelyingDatabase) (redemptionId : String) (policy : RetentionPolicy) :
    Option RetentionFloors :=
  match store.redemptions.lookup redemptionId, store.outcomes.lookup redemptionId with
  | some record, some outcome => (terminalAt outcome).map fun terminal =>
      ⟨aggregateFloor store redemptionId record terminal policy.operationalRetentionSeconds,
        aggregateFloor store redemptionId record terminal policy.tombstoneRetentionSeconds⟩
  | _, _ => none

/-- A record under an operational and a final floor: overdue once the final one is reached. -/
def windowCandidate (recordClass : GovernedRecordClass) (operational finalDeletion asOf : ℕ) :
    Option RetentionCandidate :=
  if asOf < operational then none
  else if finalDeletion ≤ asOf then some ⟨recordClass, .overdueIdentifying, finalDeletion⟩
  else some ⟨recordClass, .identifying, operational⟩

/-- Proofs that expired before the planning instant. -/
def proofCandidates (recordClass : GovernedRecordClass) (proofs : Rows String ℕ) (asOf : ℕ) :
    List (RetentionCandidate × RecordKey) :=
  proofs.entries.filterMap fun entry =>
    if entry.2 < asOf then some (⟨recordClass, .identifying, entry.2 + 1⟩, .name entry.1) else none

/-- Consumed passes, unless their redemption is retired in the same plan. -/
def passCandidates (store : RelyingDatabase) (asOf : ℕ) (policy : RetentionPolicy) :
    List (RetentionCandidate × RecordKey) :=
  store.passConsumptions.entries.filterMap fun entry =>
    if (aggregateFloors store entry.2.redemptionId policy).any fun floors =>
        decide (floors.operational ≤ asOf) then none
    else (windowCandidate .passConsumption (passFloor entry.2 policy.operationalRetentionSeconds)
      (passFloor entry.2 policy.tombstoneRetentionSeconds) asOf).map fun candidate =>
        (candidate, .passMarker entry.1.1 entry.1.2)

/-- Redemptions whose outcome is terminal. -/
def redemptionCandidates (store : RelyingDatabase) (asOf : ℕ) (policy : RetentionPolicy) :
    List (RetentionCandidate × RecordKey) :=
  store.redemptions.entries.filterMap fun entry =>
    (aggregateFloors store entry.1 policy).bind fun floors =>
      (windowCandidate .relyingServiceOperational floors.operational floors.finalDeletion asOf).map
        fun candidate => (candidate, .name entry.1)

/-- Tombstones of the Relying Service. -/
def tombstoneCandidates (tombstones : Rows String TombstoneRow) (asOf : ℕ) :
    List (RetentionCandidate × RecordKey) :=
  tombstones.entries.filterMap fun entry =>
    if (entry.2.recordClass == .passConsumption ||
        entry.2.recordClass == .relyingServiceOperational) &&
        decide (entry.2.deleteAfterUnixSeconds ≤ asOf) then
      some (⟨entry.2.recordClass, .pseudonymized, entry.2.deleteAfterUnixSeconds⟩, .name entry.1)
    else none

/-- Records kept for the tombstone window after an instant of theirs. -/
def agedCandidates {ρ : Type} (recordClass : GovernedRecordClass) (rows : Rows String ρ)
    (instant : ρ → ℕ) (asOf : ℕ) (policy : RetentionPolicy) :
    List (RetentionCandidate × RecordKey) :=
  rows.entries.filterMap fun entry =>
    if instant entry.2 + policy.tombstoneRetentionSeconds ≤ asOf then
      some (⟨recordClass, .identifying, instant entry.2 + policy.tombstoneRetentionSeconds⟩,
        .name entry.1)
    else none

/-- `retention_candidates` of the Relying Service. -/
def retentionCandidates (world : GovernanceWorld) (db : GovernedDatabase) (asOf : ℕ)
    (policy : RetentionPolicy) :
    Except GovernanceError (List (RetentionCandidate × RecordKey)) := do
  let asOf ← toI64 asOf
  let _ ← toI64 policy.operationalRetentionSeconds
  let _ ← toI64 policy.tombstoneRetentionSeconds
  return world.ordered <|
    proofCandidates .dpopProofReplay db.store.dpopProofs asOf ++
    proofCandidates .claimantOutcomeProofReplay db.store.outcomeProofs asOf ++
    passCandidates db.store asOf policy ++
    redemptionCandidates db.store asOf policy ++
    tombstoneCandidates db.tombstones asOf ++
    agedCandidates .governanceAudit db.auditEvents AuditEventRow.occurredAtUnixSeconds asOf policy ++
    agedCandidates .governanceExportSnapshot db.exportJobs ExportJobRow.createdAtUnixSeconds asOf
      policy

/-! ## Plans -/

/-- The next item of a plan. -/
def planItem (asOf : ℕ) (policy : RetentionPolicy) (items : List PlannedItem)
    (entry : RetentionCandidate × RecordKey) : Except GovernanceError (List PlannedItem) := do
  match ← planCandidate entry.1 asOf policy with
  | none => return items
  | some planned =>
      return items ++ [⟨items.length + 1, entry.1.recordClass, entry.2, planned.action,
        planned.reason, entry.1.retentionFloorUnixSeconds⟩]

/-- `plan_retention` of the repository.  The candidates are read before its transaction begins, so
the tables they are read from are an argument of their own. -/
def planRetention (world : GovernanceWorld) (read db : GovernedDatabase) (asOf : ℕ)
    (policy : RetentionPolicy) (jobId : String) (draws : Draws) :
    Except GovernanceError (GovernedDatabase × RetentionJobRow) := do
  let candidates ← retentionCandidates world read asOf policy
  let items ← candidates.foldlM (planItem asOf policy) []
  let job : RetentionJobRow := {
    manifestDigest := world.manifestDigestFor .relyingService asOf policy items
    asOfUnixSeconds := asOf
    policy := policy
    status := .planned
    cursor := 0
    eligibleItems := items.length
    items := items }
  -- The key and the check of the table.
  throwIf (jobId ∈ db.retentionJobs ∨ asOf = 0) .database
  let planned := { db with retentionJobs := db.retentionJobs.insert jobId job }
  let audited ← planned.insertAuditEvent draws .retentionPlanned jobId
  return (audited, job)

/-- `GovernanceApplication::plan_retention`. -/
def applicationPlanRetention (world : GovernanceWorld) (read db : GovernedDatabase) (asOf : ℕ)
    (policy : RetentionPolicy) (trustedNow : ℕ) (jobId : String) (draws : Draws) :
    Except GovernanceError (GovernedDatabase × RetentionJobRow) := do
  let _ ← RetentionPolicy.new policy.operationalRetentionSeconds policy.tombstoneRetentionSeconds
  throwIf (asOf = 0) .invalidPlanningInstant
  throwIf (trustedNow < asOf) .planningInstantInFuture
  planRetention world read db asOf policy jobId draws

/-! ## Applying one item -/

/-- A row that a statement deletes if it is there and passes a test, with the rows affected. -/
def deleteWhere {ρ : Type} (rows : Rows String ρ) (name : String) (test : ρ → Bool) :
    Rows String ρ × ℕ :=
  if (rows.lookup name).any test then (rows.erase name, 1) else (rows, 0)

/-- `replay_delete_query`, over the table of the class. -/
def deleteProof (proofs : Rows String ℕ) (item : PlannedItem) (asOf : ℕ) :
    Except GovernanceError (Rows String ℕ × ℕ) := do
  let expectedExpiry ← checkedSub item.retentionFloorUnixSeconds 1
  let expectedExpiry ← toI64 expectedExpiry
  let asOf ← toI64 asOf
  let proofId ← item.recordKey.identity
  return deleteWhere proofs proofId fun expiresAt =>
    decide (expiresAt = expectedExpiry) && decide (expiresAt < asOf)

/-- `delete_governance_export` and `delete_governance_audit`, over their tables.  The items of an
export go with it; where the export itself stays, the batch is rolled back. -/
def deleteAged {ρ : Type} (rows : Rows String ρ) (instant : ρ → ℕ) (item : PlannedItem)
    (asOf : ℕ) (policy : RetentionPolicy) : Except GovernanceError (Rows String ρ × ℕ) := do
  let name ← item.recordKey.identity
  let created ← checkedSub item.retentionFloorUnixSeconds policy.tombstoneRetentionSeconds
  let created ← toI64 created
  let asOf ← toI64 asOf
  return deleteWhere rows name fun row =>
    decide (instant row = created) && decide (instant row < asOf)

/-- `delete_protocol_material`, with the arms of this context. -/
def deleteProtocolMaterial (db : GovernedDatabase) (item : PlannedItem) (asOf : ℕ)
    (policy : RetentionPolicy) : Except GovernanceError (GovernedDatabase × ℕ) := do
  throwIf (item.recordClass.allowedInContext .relyingService = false) .invalidPersistedData
  match item.recordClass with
  | .governanceExportSnapshot =>
      let (exportJobs, affected) ←
        deleteAged db.exportJobs ExportJobRow.createdAtUnixSeconds item asOf policy
      return ({ db with exportJobs }, affected)
  | .governanceAudit =>
      let (auditEvents, affected) ←
        deleteAged db.auditEvents AuditEventRow.occurredAtUnixSeconds item asOf policy
      return ({ db with auditEvents }, affected)
  | .dpopProofReplay =>
      let (dpopProofs, affected) ← deleteProof db.store.dpopProofs item asOf
      return ({ db with store := { db.store with dpopProofs } }, affected)
  | .claimantOutcomeProofReplay =>
      let (outcomeProofs, affected) ← deleteProof db.store.outcomeProofs item asOf
      return ({ db with store := { db.store with outcomeProofs } }, affected)
  | _ => throw .invalidPersistedData

/-- `insert_tombstone`, under the key, the unique pseudonym and the order of times. -/
def insertTombstone (db : GovernedDatabase) (draws : Draws) (recordKey : RecordKey)
    (tombstone : TombstoneRow) : Except GovernanceError GovernedDatabase := do
  let _ ← toI64 tombstone.terminalAtUnixSeconds
  let _ ← toI64 tombstone.pseudonymizedAtUnixSeconds
  let _ ← toI64 tombstone.deleteAfterUnixSeconds
  throwIf (draws.tombstoneId tombstone.recordClass recordKey ∈ db.tombstones ∨
    db.tombstones.entries.any (fun entry => entry.2.recordClass == tombstone.recordClass &&
      entry.2.pseudonym == tombstone.pseudonym) = true) .database
  throwIf (tombstone.terminalAtUnixSeconds = 0 ∨
    tombstone.pseudonymizedAtUnixSeconds < tombstone.terminalAtUnixSeconds ∨
    tombstone.deleteAfterUnixSeconds < tombstone.pseudonymizedAtUnixSeconds) .database
  return { db with
    tombstones := db.tombstones.insert (draws.tombstoneId tombstone.recordClass recordKey)
      tombstone }

/-- `insert_pass_tombstone`. -/
def insertPassTombstone (world : GovernanceWorld) (db : GovernedDatabase) (draws : Draws)
    (pass : String × String) (marker : PassRetentionMarker) (pseudonymizedAt : ℕ)
    (policy : RetentionPolicy) (key : String) : Except GovernanceError GovernedDatabase := do
  let floors ← passRetentionFloors marker policy
  db.insertTombstone draws (.passMarker pass.1 pass.2) {
    recordClass := .passConsumption
    pseudonym := world.pseudonymizeRecord key .relyingService .passConsumption
      (.passMarker pass.1 pass.2)
    terminalStatus := "consumed"
    protectedActionType := none
    actionPolicy := none
    terminalAtUnixSeconds := marker.consumedAt
    pseudonymizedAtUnixSeconds := pseudonymizedAt
    deleteAfterUnixSeconds := floors.finalDeletion }

/-- `delete_pass_consumption`. -/
def deletePassConsumption (db : GovernedDatabase) (pass : String × String) :
    GovernedDatabase :=
  { db with store := { db.store with passConsumptions := db.store.passConsumptions.erase pass } }

/-- `pseudonymize_pass_consumption`. -/
def pseudonymizePassConsumption (world : GovernanceWorld) (db : GovernedDatabase) (draws : Draws)
    (item : PlannedItem) (asOf : ℕ) (policy : RetentionPolicy) (key : String) :
    Except GovernanceError (GovernedDatabase × ℕ) := do
  let pass ← parsePassMarkerKey item.recordKey
  match db.store.passConsumptions.lookup pass with
  | none => return (db, 0)
  | some row =>
      let floors ← passRetentionFloors (markerOf row) policy
      if floors.operational ≠ item.retentionFloorUnixSeconds ∨ asOf < floors.operational then
        return (db, 0)
      else
        let marked ← db.insertPassTombstone world draws pass (markerOf row) asOf policy key
        return (marked.deletePassConsumption pass, 1)

/-- `delete_overdue_pass_consumption`. -/
def deleteOverduePassConsumption (db : GovernedDatabase) (item : PlannedItem) (asOf : ℕ)
    (policy : RetentionPolicy) : Except GovernanceError (GovernedDatabase × ℕ) := do
  let pass ← parsePassMarkerKey item.recordKey
  match db.store.passConsumptions.lookup pass with
  | none => return (db, 0)
  | some row =>
      let floors ← passRetentionFloors (markerOf row) policy
      if floors.finalDeletion ≠ item.retentionFloorUnixSeconds ∨ asOf < floors.finalDeletion then
        return (db, 0)
      else return (db.deletePassConsumption pass, 1)

/-- `RelyingAggregate`, with the redemption it is of. -/
structure RelyingAggregate where
  record : RedemptionRow
  terminalStatus : OutcomeStatus
  terminalAt : ℕ
  passMarkers : List ((_ : String × String) × PassConsumptionRow)

/-- `maybe_relying_aggregate`. -/
def maybeRelyingAggregate (store : RelyingDatabase) (redemptionId : String) :
    Option RelyingAggregate :=
  match store.redemptions.lookup redemptionId, store.outcomes.lookup redemptionId with
  | some record, some outcome => (terminalAt outcome).map fun terminal =>
      ⟨record, outcome.status, terminal, aggregatePassConsumptions store redemptionId⟩
  | _, _ => none

/-- `RelyingTerminalStatus::as_str` of a terminal outcome. -/
def terminalStatusText : OutcomeStatus → String
  | .succeeded => "succeeded"
  | _ => "failed"

/-- `RelyingAggregate`'s floors, `aggregate_floors` of the Rust code. -/
def RelyingAggregate.floors (aggregate : RelyingAggregate) (policy : RetentionPolicy) :
    Except GovernanceError RetentionFloors :=
  relyingRetentionFloors aggregate.terminalAt aggregate.record.publicLookupExpiresAtUnixSeconds
    (aggregate.passMarkers.map fun entry => markerOf entry.2) policy

/-- `delete_relying_aggregate`: the aggregate's rows go, and the protected action is counted. -/
def deleteRelyingAggregate (db : GovernedDatabase) (redemptionId : String)
    (record : RedemptionRow) : GovernedDatabase × ℕ :=
  let action := (record.audience, record.actionReference)
  ({ db with store := { db.store with
      passConsumptions := db.store.passConsumptions.keepRows fun _ row =>
        row.redemptionId != redemptionId
      attempts := db.store.attempts.keepRows fun _ row => row.redemptionId != redemptionId
      intents := db.store.intents.erase redemptionId
      outcomes := db.store.outcomes.erase redemptionId
      redemptions := db.store.redemptions.erase redemptionId
      protectedActions := db.store.protectedActions.erase action } },
    if action ∈ db.store.protectedActions then 1 else 0)

/-- `pseudonymize_relying_aggregate`. -/
def pseudonymizeRelyingAggregate (world : GovernanceWorld) (db : GovernedDatabase)
    (draws : Draws) (item : PlannedItem) (asOf : ℕ) (policy : RetentionPolicy) (key : String) :
    Except GovernanceError (GovernedDatabase × ℕ) := do
  let redemptionId ← item.recordKey.identity
  match maybeRelyingAggregate db.store redemptionId with
  | none => return (db, 0)
  | some aggregate =>
      let floors ← aggregate.floors policy
      if floors.operational ≠ item.retentionFloorUnixSeconds ∨ asOf < floors.operational then
        return (db, 0)
      else
        let marked ← aggregate.passMarkers.foldlM (fun found entry =>
          found.insertPassTombstone world draws entry.1 (markerOf entry.2) asOf policy key) db
        let buried ← marked.insertTombstone draws item.recordKey {
          recordClass := .relyingServiceOperational
          pseudonym := world.pseudonymizeRecord key .relyingService .relyingServiceOperational
            item.recordKey
          terminalStatus := terminalStatusText aggregate.terminalStatus
          protectedActionType := some aggregate.record.protectedActionType
          actionPolicy := some aggregate.record.actionPolicy
          terminalAtUnixSeconds := aggregate.terminalAt
          pseudonymizedAtUnixSeconds := asOf
          deleteAfterUnixSeconds := floors.finalDeletion }
        return buried.deleteRelyingAggregate redemptionId aggregate.record

/-- `pseudonymize_reference_record`. -/
def pseudonymizeReferenceRecord (world : GovernanceWorld) (db : GovernedDatabase) (draws : Draws)
    (item : PlannedItem) (asOf : ℕ) (policy : RetentionPolicy) (key : String) :
    Except GovernanceError (GovernedDatabase × ℕ) :=
  match item.recordClass with
  | .passConsumption => db.pseudonymizePassConsumption world draws item asOf policy key
  | .relyingServiceOperational => db.pseudonymizeRelyingAggregate world draws item asOf policy key
  | _ => .error .invalidPersistedData

/-- `delete_reference_tombstone`. -/
def deleteReferenceTombstone (db : GovernedDatabase) (item : PlannedItem) (asOf : ℕ) :
    Except GovernanceError (GovernedDatabase × ℕ) := do
  throwIf (item.recordClass ≠ .passConsumption ∧ item.recordClass ≠ .relyingServiceOperational)
    .invalidPersistedData
  let tombstoneId ← item.recordKey.identity
  let floor ← toI64 item.retentionFloorUnixSeconds
  let asOf ← toI64 asOf
  let (tombstones, affected) := deleteWhere db.tombstones tombstoneId fun row =>
    row.recordClass == item.recordClass && decide (row.deleteAfterUnixSeconds = floor) &&
      decide (row.deleteAfterUnixSeconds ≤ asOf)
  return ({ db with tombstones }, affected)

/-- `delete_overdue_reference_record`. -/
def deleteOverdueReferenceRecord (db : GovernedDatabase) (item : PlannedItem) (asOf : ℕ)
    (policy : RetentionPolicy) : Except GovernanceError (GovernedDatabase × ℕ) :=
  if item.recordClass = .passConsumption then db.deleteOverduePassConsumption item asOf policy
  else do
    throwIf (item.recordClass ≠ .relyingServiceOperational) .invalidPersistedData
    let redemptionId ← item.recordKey.identity
    match maybeRelyingAggregate db.store redemptionId with
    | none => return (db, 0)
    | some aggregate =>
        let floors ← aggregate.floors policy
        if floors.finalDeletion ≠ item.retentionFloorUnixSeconds ∨ asOf < floors.finalDeletion then
          return (db, 0)
        else return db.deleteRelyingAggregate redemptionId aggregate.record

/-- `apply_transition`, with the arms of this context. -/
def applyTransition (world : GovernanceWorld) (db : GovernedDatabase) (draws : Draws)
    (item : PlannedItem) (asOf : ℕ) (policy : RetentionPolicy) (maybeKey : Option String) :
    Except GovernanceError (GovernedDatabase × ℕ) :=
  match item.action, item.reason with
  | .delete, .protocolRetentionFloorReached => db.deleteProtocolMaterial item asOf policy
  | .pseudonymize, .operationalWindowElapsed => do
      let key ← orThrow .missingPseudonymizationKey maybeKey
      db.pseudonymizeReferenceRecord world draws item asOf policy key
  | .delete, .tombstoneWindowElapsed => db.deleteReferenceTombstone item asOf
  | .delete, .overdueRetentionWindowElapsed => db.deleteOverdueReferenceRecord item asOf policy
  | _, _ => .error .invalidPersistedData

/-! ## Applying a batch -/

/-- `ApplyRetentionRequest`. -/
structure ApplyRetentionRequest where
  jobId : String
  manifestDigest : String
  batchSize : ℕ
  policy : RetentionPolicy
  maybePseudonymizationKey : Option String

/-- `ApplyRetentionResult`. -/
structure ApplyRetentionResult where
  status : RetentionJobStatus
  cursor : ℕ
  deletedItems : ℕ
  pseudonymizedItems : ℕ
  deriving DecidableEq

/-- How far a batch has come. -/
structure BatchProgress where
  db : GovernedDatabase
  nextCursor : ℕ
  deletedItems : ℕ
  pseudonymizedItems : ℕ

/-- One item of a batch. -/
def applyItem (world : GovernanceWorld) (draws : Draws) (asOf : ℕ) (policy : RetentionPolicy)
    (maybeKey : Option String) (progress : BatchProgress) (item : PlannedItem) :
    Except GovernanceError BatchProgress := do
  let (after, affected) ←
    progress.db.applyTransition world draws item asOf policy maybeKey
  throwIf (affected ≠ 1) .staleRetentionPlan
  match item.action with
  | .delete => return ⟨after, item.sequence, progress.deletedItems + 1, progress.pseudonymizedItems⟩
  | .pseudonymize =>
      return ⟨after, item.sequence, progress.deletedItems, progress.pseudonymizedItems + 1⟩

/-- The items a batch takes. -/
def RetentionJobRow.batch (job : RetentionJobRow) (batchSize : ℕ) : List PlannedItem :=
  (job.items.filter fun item => decide (job.cursor < item.sequence)).take batchSize

/-- `apply_retention` of the repository. -/
def applyRetention (world : GovernanceWorld) (db : GovernedDatabase)
    (request : ApplyRetentionRequest) (draws : Draws) :
    Except GovernanceError (GovernedDatabase × ApplyRetentionResult) := do
  let job ← orThrow .unknownRetentionJob (db.retentionJobs.lookup request.jobId)
  throwIf (job.manifestDigest ≠ request.manifestDigest) .manifestDigestMismatch
  throwIf (job.policy ≠ request.policy) .staleRetentionPolicy
  throwIf (job.items.length ≠ job.eligibleItems) .manifestDigestMismatch
  throwIf (world.manifestDigestFor .relyingService job.asOfUnixSeconds job.policy job.items ≠
    job.manifestDigest) .manifestDigestMismatch
  if job.status = .completed then
    let audited ← db.insertAuditEvent draws .retentionApplied request.jobId
    return (audited, ⟨.completed, job.cursor, 0, 0⟩)
  else
    let progress ← (RetentionJobRow.batch job request.batchSize).foldlM
      (applyItem world draws job.asOfUnixSeconds job.policy request.maybePseudonymizationKey)
      ⟨db, job.cursor, 0, 0⟩
    let status : RetentionJobStatus :=
      if job.eligibleItems ≤ progress.nextCursor then .completed else .applying
    let nextCursor ← toI64 progress.nextCursor
    let written := { progress.db with
      retentionJobs := progress.db.retentionJobs.updateRow request.jobId fun row =>
        { row with
          status := status
          cursor := nextCursor } }
    let resumed ← written.insertAuditEvents draws request.jobId
      ((if 0 < job.cursor then [.recoveryResumed] else []) ++ [.retentionApplied] ++
        (if 0 < progress.pseudonymizedItems then [.pseudonymized] else []) ++
        (if 0 < progress.deletedItems then [.deleted] else []))
    return (resumed, ⟨status, nextCursor, progress.deletedItems, progress.pseudonymizedItems⟩)

end GovernedDatabase

end WorkGate.Governance
