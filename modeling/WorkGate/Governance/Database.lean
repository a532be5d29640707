/-
# The governance tables of the Relying Service (src/governance/postgres.rs,
migrations/relying_service)

Retention jobs, tombstones, audit events and frozen exports stand beside the tables of the
Relying Service and are written in the same transactions.  As in the other stores, columns hold
the typed values they were written from: a record key is the identity or the pass it spells, and
the items of a job are kept with the job, in the order of their sequence numbers.
-/

import WorkGate.Governance.Policy
import WorkGate.Relying.Store

namespace WorkGate.Governance

open WorkGate.Library

/-- `record_key`: an identity, or the JSON array of a pass's issuer and id. -/
inductive RecordKey
  | name (text : String)
  | passMarker (issuer passId : String)
  deriving DecidableEq, Repr

/-- `PlannedItem`, a row of `governance_retention_items`. -/
structure PlannedItem where
  sequence : ℕ
  recordClass : GovernedRecordClass
  recordKey : RecordKey
  action : RetentionAction
  reason : EligibilityReason
  retentionFloorUnixSeconds : ℕ
  deriving DecidableEq, Repr

/-- The statuses a retention job is ever written with. -/
inductive RetentionJobStatus
  | planned
  | applying
  | completed
  deriving DecidableEq, Repr

/-- `governance_retention_jobs`, with its items. -/
structure RetentionJobRow where
  manifestDigest : String
  asOfUnixSeconds : ℕ
  policy : RetentionPolicy
  status : RetentionJobStatus
  cursor : ℕ
  eligibleItems : ℕ
  items : List PlannedItem
  deriving DecidableEq

/-- `governance_tombstones`. -/
structure TombstoneRow where
  recordClass : GovernedRecordClass
  pseudonym : String
  terminalStatus : String
  protectedActionType : Option String
  actionPolicy : Option String
  terminalAtUnixSeconds : ℕ
  pseudonymizedAtUnixSeconds : ℕ
  deleteAfterUnixSeconds : ℕ
  deriving DecidableEq

/-- `AuditEventType`. -/
inductive AuditEventType
  | retentionPlanned
  | retentionApplied
  | retentionFailed
  | exportStarted
  | exportCompleted
  | exportFailed
  | pseudonymized
  | deleted
  | recoveryResumed
  deriving DecidableEq, Repr

/-- `AuditEventType::as_str`. -/
def AuditEventType.asStr : AuditEventType → String
  | .retentionPlanned => "retention_planned"
  | .retentionApplied => "retention_applied"
  | .retentionFailed => "retention_failed"
  | .exportStarted => "export_started"
  | .exportCompleted => "export_completed"
  | .exportFailed => "export_failed"
  | .pseudonymized => "pseudonymized"
  | .deleted => "deleted"
  | .recoveryResumed => "recovery_resumed"

/-- `governance_audit_events`, as far as retention depends on it. -/
structure AuditEventRow where
  eventType : AuditEventType
  operationId : String
  occurredAtUnixSeconds : ℕ
  deriving DecidableEq

/-- `governance_export_jobs`, as far as retention depends on it. -/
structure ExportJobRow where
  createdAtUnixSeconds : ℕ
  deriving DecidableEq

/-- The tables of the Relying Service with those of its governance. -/
structure GovernedDatabase where
  store : RelyingDatabase
  retentionJobs : Rows String RetentionJobRow
  tombstones : Rows String TombstoneRow
  auditEvents : Rows String AuditEventRow
  exportJobs : Rows String ExportJobRow

/-- The libraries behind governance. -/
structure GovernanceWorld where
  /-- HMAC-SHA256 under a pseudonymization key, in hexadecimal. -/
  pseudonymizeRecord : String → GovernanceContext → GovernedRecordClass → RecordKey → String
  /-- SHA-256 over the serialized plan, in hexadecimal. -/
  manifestDigestFor : GovernanceContext → ℕ → RetentionPolicy → List PlannedItem → String
  /-- `ORDER BY record_class, retention_state, record_key` under the database's collation. -/
  ordered : List (RetentionCandidate × RecordKey) → List (RetentionCandidate × RecordKey)
  ordered_perm : ∀ candidates, (ordered candidates).Perm candidates

/-- What a transaction draws: the identities of its audit events and tombstones, and `NOW()`. -/
structure Draws where
  eventId : AuditEventType → String
  tombstoneId : GovernedRecordClass → RecordKey → String
  clock : ℕ

/-- `to_i64`. -/
def toI64 (value : ℕ) : Except GovernanceError ℕ :=
  if value < 2 ^ 63 then .ok value else .error .invalidPersistedData

theorem toI64_eq_ok {value converted : ℕ} :
    toI64 value = .ok converted ↔ value < 2 ^ 63 ∧ converted = value := by
  rw [toI64]
  split
  · next hfits =>
      rw [Except.ok.injEq, and_iff_right hfits, eq_comm]
  · next hover =>
      constructor
      · intro h
        cases h
      · exact fun h => absurd h.1 hover

/-- `checked_sub` of two `u64`. -/
def checkedSub (left right : ℕ) : Except GovernanceError ℕ :=
  if right ≤ left then .ok (left - right) else .error .invalidPersistedData

theorem checkedSub_eq_ok {left right difference : ℕ} :
    checkedSub left right = .ok difference ↔ left = difference + right := by
  rw [checkedSub]
  split
  · rw [Except.ok.injEq]
    omega
  · constructor
    · intro h
      cases h
    · omega

/-- The identity a record key spells. -/
def RecordKey.identity : RecordKey → Except GovernanceError String
  | .name text => .ok text
  | .passMarker _ _ => .error .invalidPersistedData

/-- `parse_pass_marker_key`. -/
def parsePassMarkerKey : RecordKey → Except GovernanceError (String × String)
  | .passMarker issuer passId => .ok (issuer, passId)
  | .name _ => .error .manifestSerialization

namespace GovernedDatabase

/-- The tables after the migrations. -/
def empty : GovernedDatabase := ⟨RelyingDatabase.empty, ∅, ∅, ∅, ∅⟩

/-- Commit what a transaction wrote, or roll back. -/
def transaction {α : Type} (db : GovernedDatabase)
    (written : Except GovernanceError (GovernedDatabase × α)) :
    GovernedDatabase × Except GovernanceError α :=
  match written with
  | .error error => (db, .error error)
  | .ok (after, value) => (after, .ok value)

/-- `insert_audit_event`. -/
def insertAuditEvent (db : GovernedDatabase) (draws : Draws) (eventType : AuditEventType)
    (operationId : String) : Except GovernanceError GovernedDatabase := do
  throwIf (draws.eventId eventType ∈ db.auditEvents) .database
  return { db with
    auditEvents := db.auditEvents.insert (draws.eventId eventType)
      ⟨eventType, operationId, draws.clock⟩ }

/-- An audit event is added and nothing else. -/
theorem insertAuditEvent_eq_ok {db after : GovernedDatabase} {draws : Draws}
    {eventType : AuditEventType} {operationId : String} :
    db.insertAuditEvent draws eventType operationId = .ok after ↔
      draws.eventId eventType ∉ db.auditEvents ∧ after = { db with
        auditEvents := db.auditEvents.insert (draws.eventId eventType)
          ⟨eventType, operationId, draws.clock⟩ } := by
  rw [insertAuditEvent, throwIf_bind_eq_ok, pure_eq_ok, eq_comm (a := after)]

/-- Audit events for all of some operations, one after the other. -/
def insertAuditEvents (db : GovernedDatabase) (draws : Draws) (operationId : String)
    (eventTypes : List AuditEventType) : Except GovernanceError GovernedDatabase :=
  eventTypes.foldlM (fun found eventType => found.insertAuditEvent draws eventType operationId) db

/-- Two states that differ in nothing but the audit events, of which the later has more. -/
structure Audited (before after : GovernedDatabase) : Prop where
  store : after.store = before.store
  retentionJobs : after.retentionJobs = before.retentionJobs
  tombstones : after.tombstones = before.tombstones
  exportJobs : after.exportJobs = before.exportJobs
  kept : ∀ eventId event, before.auditEvents.lookup eventId = some event →
    after.auditEvents.lookup eventId = some event

theorem Audited.refl (db : GovernedDatabase) : Audited db db :=
  ⟨rfl, rfl, rfl, rfl, fun _ _ h => h⟩

theorem Audited.trans {first second third : GovernedDatabase} (h₁ : Audited first second)
    (h₂ : Audited second third) : Audited first third where
  store := h₂.store.trans h₁.store
  retentionJobs := h₂.retentionJobs.trans h₁.retentionJobs
  tombstones := h₂.tombstones.trans h₁.tombstones
  exportJobs := h₂.exportJobs.trans h₁.exportJobs
  kept eventId event h := h₂.kept eventId event (h₁.kept eventId event h)

theorem audited_of_insertAuditEvent {db after : GovernedDatabase} {draws : Draws}
    {eventType : AuditEventType} {operationId : String}
    (h : db.insertAuditEvent draws eventType operationId = .ok after) : Audited db after := by
  obtain ⟨hfresh, rfl⟩ := insertAuditEvent_eq_ok.mp h
  refine ⟨rfl, rfl, rfl, rfl, ?_⟩
  intro eventId event hevent
  rw [AList.lookup_insert_ne]
  · exact hevent
  · rintro rfl
    exact hfresh (Rows.mem_of_lookup hevent)

theorem audited_of_insertAuditEvents {eventTypes : List AuditEventType} {draws : Draws}
    {operationId : String} {db after : GovernedDatabase}
    (h : db.insertAuditEvents draws operationId eventTypes = .ok after) : Audited db after := by
  induction eventTypes generalizing db with
  | nil =>
      cases h
      exact Audited.refl _
  | cons eventType eventTypes ih =>
      rw [insertAuditEvents, List.foldlM_cons, bind_eq_ok] at h
      obtain ⟨next, hnext, hrest⟩ := h
      exact (audited_of_insertAuditEvent hnext).trans (ih hrest)

/-- `start_export`, as far as retention depends on it; `frozen` tells whether the records could be
frozen. -/
def startExport (db : GovernedDatabase) (exportId : String) (frozen : Except GovernanceError Unit)
    (draws : Draws) : Except GovernanceError (GovernedDatabase × Unit) := do
  let audited ← db.insertAuditEvent draws .exportStarted exportId
  frozen
  throwIf (exportId ∈ audited.exportJobs) .database
  return ({ audited with exportJobs := audited.exportJobs.insert exportId ⟨draws.clock⟩ }, ())

/-- An export adds its job under a new identity, and an audit event. -/
theorem startExport_eq_ok {db after : GovernedDatabase} {exportId : String}
    {frozen : Except GovernanceError Unit} {draws : Draws} {done : Unit}
    (h : db.startExport exportId frozen draws = .ok (after, done)) :
    exportId ∉ db.exportJobs ∧
      Audited { db with exportJobs := db.exportJobs.insert exportId ⟨draws.clock⟩ } after := by
  simp only [startExport, bind_eq_ok, throwIf_eq_ok, pure_eq_ok] at h
  obtain ⟨audited, haudited, -, -, -, hfree, hpair⟩ := h
  obtain ⟨rfl, -⟩ := Prod.mk.inj hpair
  have hbase := audited_of_insertAuditEvent haudited
  rw [hbase.exportJobs] at hfree
  refine ⟨hfree, hbase.store, hbase.retentionJobs, hbase.tombstones, ?_, hbase.kept⟩
  show audited.exportJobs.insert exportId _ = db.exportJobs.insert exportId _
  rw [hbase.exportJobs]

end GovernedDatabase

end WorkGate.Governance
