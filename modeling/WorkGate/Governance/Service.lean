/-
# The Relying Service under its governance

Redemptions, workers and operators write to the same tables, one transaction after the other.  The
clock that redemptions and plans read never goes back, and a pass has one expiry.  Under these two,
whatever retention takes from the tables was over, and what it forgets no longer matters: a pass
whose consumption is gone has expired.
-/

import WorkGate.Governance.Effects
import WorkGate.Relying.Actions

namespace WorkGate.Governance

open WorkGate.Library
open WorkGate.Library.Rows

/-! ## The service as a machine -/

/-- The transactions of the service and of its operators. -/
inductive GovernedRequest
  | store (request : RelyingRequest)
  | planRetention (read : GovernedDatabase) (asOf : ℕ) (policy : RetentionPolicy) (trustedNow : ℕ)
      (jobId : String) (draws : Draws)
  | applyRetention (request : GovernedDatabase.ApplyRetentionRequest) (draws : Draws)
  | recordRetentionFailure (jobId : String) (draws : Draws)
  | startExport (exportId : String) (frozen : Except GovernanceError Unit) (draws : Draws)

/-- When the trusted clock was read for a request, where that matters. -/
def GovernedRequest.maybeNow : GovernedRequest → Option ℕ
  | .store (.redeem redemption _) => some redemption.acceptedAtUnixSeconds
  | .planRetention _ _ _ trustedNow _ _ => some trustedNow
  | _ => none

/-- Whether a redemption presents its pass with the expiry the pass has. -/
def GovernedRequest.presents (expiry : String × String → ℕ) : GovernedRequest → Bool
  | .store (.redeem redemption _) =>
      redemption.gatePassExpiresAtUnixSeconds == expiry (redemption.issuer, redemption.passId)
  | _ => true

/-- What a transaction answers. -/
inductive GovernedReply
  | stored (reply : RelyingReply)
  | refused (error : GovernanceError)
  | planned (job : RetentionJobRow)
  | applied (result : GovernedDatabase.ApplyRetentionResult)
  | recorded
  | exported

/-- The answer to a transaction: what it returns, or the error that rolled it back. -/
def governedAnswer {α : Type} (reply : α → GovernedReply)
    (result : GovernedDatabase × Except GovernanceError α) : GovernedDatabase × GovernedReply :=
  (result.1, match result.2 with
    | .ok value => reply value
    | .error error => .refused error)

/-- One committed transaction. -/
def governedStep (world : GovernanceWorld) (db : GovernedDatabase) :
    GovernedRequest → GovernedDatabase × GovernedReply
  | .store request => ({ db with store := (relyingStep db.store request).1 },
      .stored (relyingStep db.store request).2)
  | .planRetention read asOf policy trustedNow jobId draws =>
      governedAnswer .planned (db.transaction (GovernedDatabase.applicationPlanRetention world read
        db asOf policy trustedNow jobId draws))
  | .applyRetention request draws =>
      governedAnswer .applied (db.transaction (db.applyRetention world request draws))
  | .recordRetentionFailure jobId draws =>
      governedAnswer (fun _ => .recorded) (db.transaction
        ((db.insertAuditEvent draws .retentionFailed jobId).map fun after => (after, ())))
  | .startExport exportId frozen draws =>
      governedAnswer (fun _ => .exported) (db.transaction (db.startExport exportId frozen draws))

/-- The latest reading of the clock in a history. -/
def latestInstant : List (GovernedRequest × GovernedReply) → ℕ
  | [] => 0
  | (request, _) :: earlier => max (request.maybeNow.getD 0) (latestInstant earlier)

/-- The service with its governance, in an environment whose clock never goes back and whose passes
have one expiry each. -/
def governedService (world : GovernanceWorld) (expiry : String × String → ℕ) :
    Machine GovernedDatabase GovernedRequest GovernedReply where
  init := GovernedDatabase.empty
  admits := fun history _ request =>
    request.maybeNow.all (fun now => decide (latestInstant history ≤ now)) = true ∧
      request.presents expiry = true
  step := governedStep world

instance {world : GovernanceWorld} {expiry : String × String → ℕ} : ∀ history db request,
    Decidable ((governedService world expiry).admits history db request) :=
  fun _ _ _ => inferInstanceAs (Decidable (_ ∧ _))

theorem governedAnswer_cases {α : Type} (db : GovernedDatabase) (reply : α → GovernedReply)
    (written : Except GovernanceError (GovernedDatabase × α)) :
    (∃ error, governedAnswer reply (db.transaction written) = (db, .refused error)) ∨
      ∃ after value, written = .ok (after, value) ∧
        governedAnswer reply (db.transaction written) = (after, reply value) := by
  cases written with
  | error error => exact Or.inl ⟨error, rfl⟩
  | ok pair => exact Or.inr ⟨pair.1, pair.2, rfl, rfl⟩

/-! ## What the transactions of governance write -/

/-- What a plan says of its items: their floors are reached, and they are numbered from one. -/
structure PlannedItems (asOf : ℕ) (items : List PlannedItem) : Prop where
  reached : ∀ item ∈ items, item.retentionFloorUnixSeconds ≤ asOf
  numbered : items.map PlannedItem.sequence = List.range' 1 items.length

theorem plannedItems_of_planItem {asOf : ℕ} {policy : RetentionPolicy}
    {items planned : List PlannedItem} {entry : RetentionCandidate × RecordKey}
    (hitems : PlannedItems asOf items)
    (h : GovernedDatabase.planItem asOf policy items entry = .ok planned) :
    PlannedItems asOf planned := by
  rw [GovernedDatabase.planItem, bind_eq_ok] at h
  obtain ⟨maybePlanned, hplanned, h⟩ := h
  cases maybePlanned with
  | none =>
      cases pure_eq_ok.mp h
      exact hitems
  | some found =>
      cases pure_eq_ok.mp h
      constructor
      · intro item hitem
        rcases List.mem_append.mp hitem with hold | hnew
        · exact hitems.reached item hold
        · cases List.mem_singleton.mp hnew
          exact (planCandidate_eq_some hplanned).2
      · rw [List.map_append, hitems.numbered, List.length_append, List.length_singleton,
          List.range'_concat, List.map_singleton, Nat.one_mul, Nat.add_comm 1]

theorem plannedItems_of_foldlM {asOf : ℕ} {policy : RetentionPolicy}
    {entries : List (RetentionCandidate × RecordKey)} {items planned : List PlannedItem}
    (hitems : PlannedItems asOf items)
    (h : entries.foldlM (GovernedDatabase.planItem asOf policy) items = .ok planned) :
    PlannedItems asOf planned := by
  induction entries generalizing items with
  | nil =>
      cases h
      exact hitems
  | cons entry entries ih =>
      rw [List.foldlM_cons, bind_eq_ok] at h
      obtain ⟨next, hnext, hrest⟩ := h
      exact ih (plannedItems_of_planItem hitems hnext) hrest

/-- A job as a plan leaves it. -/
structure FreshJob (asOf : ℕ) (policy : RetentionPolicy) (job : RetentionJobRow) : Prop where
  valid : policy.Valid
  asOfUnixSeconds : job.asOfUnixSeconds = asOf
  policy : job.policy = policy
  items : PlannedItems asOf job.items
  eligible : job.eligibleItems = job.items.length
  status : job.status = .planned
  cursor : job.cursor = 0

/-- A plan adds its job under a new identity, and an audit event. -/
theorem applicationPlanRetention_eq_ok {world : GovernanceWorld} {read db after : GovernedDatabase}
    {asOf trustedNow : ℕ} {policy : RetentionPolicy} {jobId : String} {draws : Draws}
    {job : RetentionJobRow}
    (h : GovernedDatabase.applicationPlanRetention world read db asOf policy trustedNow jobId
      draws = .ok (after, job)) :
    asOf ≤ trustedNow ∧ FreshJob asOf policy job ∧ jobId ∉ db.retentionJobs ∧
      GovernedDatabase.Audited
        { db with retentionJobs := db.retentionJobs.insert jobId job } after := by
  simp only [GovernedDatabase.applicationPlanRetention, GovernedDatabase.planRetention, bind_eq_ok,
    throwIf_eq_ok, pure_eq_ok] at h
  obtain ⟨checked, hchecked, -, -, -, hpast, candidates, -, items, hitems, -, hfree, audited,
    haudited, hpair⟩ := h
  obtain ⟨rfl, rfl⟩ := Prod.mk.inj hpair
  obtain ⟨rfl, hvalid⟩ := RetentionPolicy.new_eq_ok.mp hchecked
  have hplanned : PlannedItems asOf items := plannedItems_of_foldlM
    ⟨List.forall_mem_nil _, rfl⟩ hitems
  exact ⟨Nat.not_lt.mp hpast, ⟨hvalid, rfl, rfl, hplanned, rfl, rfl, rfl⟩,
    (not_or.mp hfree).1, GovernedDatabase.audited_of_insertAuditEvent haudited⟩

/-- The database a batch leaves, before its audit events: the job has advanced. -/
def advanceJob (db : GovernedDatabase) (jobId : String) (status : RetentionJobStatus)
    (cursor : ℕ) : GovernedDatabase :=
  { db with retentionJobs := db.retentionJobs.updateRow jobId fun row =>
      { row with
        status := status
        cursor := cursor } }

/-- A batch that commits was of a completed job, or every item of it went through. -/
theorem applyRetention_eq_ok {world : GovernanceWorld} {db after : GovernedDatabase}
    {request : GovernedDatabase.ApplyRetentionRequest} {draws : Draws}
    {result : GovernedDatabase.ApplyRetentionResult}
    (h : db.applyRetention world request draws = .ok (after, result)) :
    ∃ job, db.retentionJobs.lookup request.jobId = some job ∧
      ((job.status = .completed ∧ result = ⟨.completed, job.cursor, 0, 0⟩ ∧
          GovernedDatabase.Audited db after) ∨
        (job.status ≠ .completed ∧ ∃ progress,
          (GovernedDatabase.RetentionJobRow.batch job request.batchSize).foldlM
            (GovernedDatabase.applyItem world draws job.asOfUnixSeconds job.policy
              request.maybePseudonymizationKey) ⟨db, job.cursor, 0, 0⟩ = .ok progress ∧
          result = ⟨if job.eligibleItems ≤ progress.nextCursor then .completed else .applying,
            progress.nextCursor, progress.deletedItems, progress.pseudonymizedItems⟩ ∧
          GovernedDatabase.Audited
            (advanceJob progress.db request.jobId result.status result.cursor) after)) := by
  simp only [GovernedDatabase.applyRetention, bind_eq_ok, throwIf_eq_ok, orThrow_eq_ok] at h
  obtain ⟨job, hjob, -, -, -, -, -, -, -, -, h⟩ := h
  refine ⟨job, hjob, ?_⟩
  split at h
  · next hcompleted =>
      obtain ⟨audited, haudited, hpair⟩ := bind_eq_ok.mp h
      obtain ⟨rfl, rfl⟩ := Prod.mk.inj (pure_eq_ok.mp hpair)
      exact Or.inl ⟨hcompleted, rfl, GovernedDatabase.audited_of_insertAuditEvent haudited⟩
  · next hopen =>
      simp only [bind_eq_ok, pure_eq_ok] at h
      obtain ⟨progress, hprogress, cursor, hcursor, audited, haudited, hpair⟩ := h
      obtain ⟨rfl, rfl⟩ := Prod.mk.inj hpair
      have hequal := (toI64_eq_ok.mp hcursor).2
      subst hequal
      exact Or.inr ⟨hopen, progress, hprogress, rfl,
        GovernedDatabase.audited_of_insertAuditEvents haudited⟩

/-! ## What a step does -/

/-- The effects of the service's transactions. -/
inductive GovernedEffect (world : GovernanceWorld) (before : GovernedDatabase) :
    GovernedRequest → GovernedReply → GovernedDatabase → Prop
  | serves (request : RelyingRequest) :
      GovernedEffect world before (.store request) (.stored (relyingStep before.store request).2)
        { before with store := (relyingStep before.store request).1 }
  | refuses (request : GovernedRequest) (error : GovernanceError)
      (hother : ∀ inner, request ≠ .store inner) :
      GovernedEffect world before request (.refused error) before
  | records (jobId : String) (draws : Draws) {after : GovernedDatabase}
      (haudited : GovernedDatabase.Audited before after) :
      GovernedEffect world before (.recordRetentionFailure jobId draws) .recorded after
  | exports (exportId : String) (frozen : Except GovernanceError Unit) (draws : Draws)
      {after : GovernedDatabase} (hnew : exportId ∉ before.exportJobs)
      (haudited : GovernedDatabase.Audited
        { before with exportJobs := before.exportJobs.insert exportId ⟨draws.clock⟩ } after) :
      GovernedEffect world before (.startExport exportId frozen draws) .exported after
  | plans (read : GovernedDatabase) (asOf : ℕ) (policy : RetentionPolicy) (trustedNow : ℕ)
      (jobId : String) (draws : Draws) {job : RetentionJobRow} {after : GovernedDatabase}
      (hpast : asOf ≤ trustedNow) (hfresh : FreshJob asOf policy job)
      (hnew : jobId ∉ before.retentionJobs)
      (haudited : GovernedDatabase.Audited
        { before with retentionJobs := before.retentionJobs.insert jobId job } after) :
      GovernedEffect world before (.planRetention read asOf policy trustedNow jobId draws)
        (.planned job) after
  | repeats (request : GovernedDatabase.ApplyRetentionRequest) (draws : Draws)
      {job : RetentionJobRow} {after : GovernedDatabase}
      (hjob : before.retentionJobs.lookup request.jobId = some job)
      (hcompleted : job.status = .completed)
      (haudited : GovernedDatabase.Audited before after) :
      GovernedEffect world before (.applyRetention request draws)
        (.applied ⟨.completed, job.cursor, 0, 0⟩) after
  | applies (request : GovernedDatabase.ApplyRetentionRequest) (draws : Draws)
      {job : RetentionJobRow} {progress : GovernedDatabase.BatchProgress}
      {result : GovernedDatabase.ApplyRetentionResult} {after : GovernedDatabase}
      (hjob : before.retentionJobs.lookup request.jobId = some job)
      (hopen : job.status ≠ .completed)
      (hprogress : (GovernedDatabase.RetentionJobRow.batch job request.batchSize).foldlM
        (GovernedDatabase.applyItem world draws job.asOfUnixSeconds job.policy
          request.maybePseudonymizationKey) ⟨before, job.cursor, 0, 0⟩ = .ok progress)
      (hresult : result =
        ⟨if job.eligibleItems ≤ progress.nextCursor then .completed else .applying,
          progress.nextCursor, progress.deletedItems, progress.pseudonymizedItems⟩)
      (haudited : GovernedDatabase.Audited
        (advanceJob progress.db request.jobId result.status result.cursor) after) :
      GovernedEffect world before (.applyRetention request draws) (.applied result) after

/-- Every transaction has one of the effects. -/
theorem GovernedEffect.of_step (world : GovernanceWorld) (db : GovernedDatabase)
    (request : GovernedRequest) :
    GovernedEffect world db request (governedStep world db request).2
      (governedStep world db request).1 := by
  cases request with
  | store request => exact .serves request
  | planRetention read asOf policy trustedNow jobId draws =>
      rw [governedStep]
      rcases governedAnswer_cases db GovernedReply.planned
          (GovernedDatabase.applicationPlanRetention world read db asOf policy trustedNow jobId
            draws) with ⟨error, hstep⟩ | ⟨after, job, hwritten, hstep⟩
      · rw [hstep]
        exact .refuses _ error fun inner h => by cases h
      · rw [hstep]
        obtain ⟨hpast, hfresh, hnew, haudited⟩ := applicationPlanRetention_eq_ok hwritten
        exact .plans read asOf policy trustedNow jobId draws hpast hfresh hnew haudited
  | applyRetention request draws =>
      rw [governedStep]
      rcases governedAnswer_cases db GovernedReply.applied
          (db.applyRetention world request draws) with
        ⟨error, hstep⟩ | ⟨after, result, hwritten, hstep⟩
      · rw [hstep]
        exact .refuses _ error fun inner h => by cases h
      · rw [hstep]
        obtain ⟨job, hjob, ⟨hcompleted, rfl, haudited⟩ |
          ⟨hopen, progress, hprogress, hresult, haudited⟩⟩ := applyRetention_eq_ok hwritten
        · exact .repeats request draws hjob hcompleted haudited
        · exact .applies request draws hjob hopen hprogress hresult haudited
  | recordRetentionFailure jobId draws =>
      rw [governedStep]
      rcases governedAnswer_cases db (fun _ => GovernedReply.recorded)
          ((db.insertAuditEvent draws .retentionFailed jobId).map fun after => (after, ())) with
        ⟨error, hstep⟩ | ⟨after, done, hwritten, hstep⟩
      · rw [hstep]
        exact .refuses _ error fun inner h => by cases h
      · obtain ⟨audited, haudited, hpair⟩ := map_eq_ok.mp hwritten
        obtain ⟨rfl, -⟩ := Prod.mk.inj hpair
        rw [hstep]
        exact .records jobId draws (GovernedDatabase.audited_of_insertAuditEvent haudited)
  | startExport exportId frozen draws =>
      rw [governedStep]
      rcases governedAnswer_cases db (fun _ => GovernedReply.exported)
          (db.startExport exportId frozen draws) with
        ⟨error, hstep⟩ | ⟨after, done, hwritten, hstep⟩
      · rw [hstep]
        exact .refuses _ error fun inner h => by cases h
      · rw [hstep]
        obtain ⟨hnew, haudited⟩ := GovernedDatabase.startExport_eq_ok hwritten
        exact .exports exportId frozen draws hnew haudited

/-! ## Jobs along a run -/

/-- A job whose planning instant is past. -/
structure SoundJob (now : ℕ) (job : RetentionJobRow) : Prop where
  valid : job.policy.Valid
  past : job.asOfUnixSeconds ≤ now
  items : PlannedItems job.asOfUnixSeconds job.items
  eligible : job.eligibleItems = job.items.length

theorem SoundJob.later {now later : ℕ} {job : RetentionJobRow} (h : SoundJob now job)
    (hlater : now ≤ later) : SoundJob later job :=
  ⟨h.valid, Nat.le_trans h.past hlater, h.items, h.eligible⟩

/-- The items of a batch are items of the job. -/
theorem retired_of_batch {now : ℕ} {world : GovernanceWorld} {db : GovernedDatabase}
    {draws : Draws} {job : RetentionJobRow} {batchSize : ℕ} {maybeKey : Option String}
    {progress : GovernedDatabase.BatchProgress} (hjob : SoundJob now job)
    (h : (GovernedDatabase.RetentionJobRow.batch job batchSize).foldlM
      (GovernedDatabase.applyItem world draws job.asOfUnixSeconds job.policy maybeKey)
        ⟨db, job.cursor, 0, 0⟩ = .ok progress) :
    GovernedDatabase.Retired job.asOfUnixSeconds job.policy db progress.db := by
  apply GovernedDatabase.retired_applyItems hjob.valid _ h
  intro item hitem
  exact hjob.items.reached item (List.mem_filter.mp (List.mem_of_mem_take hitem)).1

/-- Batches leave the jobs of others alone and their own with its plan. -/
theorem soundJobs_effect {world : GovernanceWorld} {db after : GovernedDatabase}
    {request : GovernedRequest} {reply : GovernedReply} {now : ℕ}
    (heffect : GovernedEffect world db request reply after)
    (hnow : ∀ instant, request.maybeNow = some instant → instant ≤ now)
    (hjobs : All (fun _ job => SoundJob now job) db.retentionJobs) :
    All (fun _ job => SoundJob now job) after.retentionJobs := by
  cases heffect with
  | serves => exact hjobs
  | refuses => exact hjobs
  | records _ _ haudited | repeats _ _ _ _ haudited | exports _ _ _ _ haudited =>
      rw [haudited.retentionJobs]
      exact hjobs
  | plans _ _ _ trustedNow _ _ hpast hfresh _ haudited =>
      rw [haudited.retentionJobs]
      apply hjobs.insert
      have hreached := Nat.le_trans hpast (hnow trustedNow rfl)
      obtain ⟨hvalid, rfl, rfl, hitems, heligible, -, -⟩ := hfresh
      exact ⟨hvalid, hreached, hitems, heligible⟩
  | applies _ _ hjob _ hprogress _ haudited =>
      have hretired := retired_of_batch (hjobs _ _ hjob) hprogress
      rw [haudited.retentionJobs, advanceJob, hretired.retentionJobs]
      exact hjobs.updateRow fun row hrow => ⟨hrow.valid, hrow.past, hrow.items, hrow.eligible⟩

theorem maybeNow_le_latestInstant {request : GovernedRequest} {reply : GovernedReply}
    {history : List (GovernedRequest × GovernedReply)} {instant : ℕ}
    (hnow : request.maybeNow = some instant) :
    instant ≤ latestInstant ((request, reply) :: history) := by
  rw [latestInstant, hnow]
  exact Nat.le_max_left _ _

theorem latestInstant_le_cons (entry : GovernedRequest × GovernedReply)
    (history : List (GovernedRequest × GovernedReply)) :
    latestInstant history ≤ latestInstant (entry :: history) :=
  Nat.le_max_right _ _

theorem soundJobs_of_run {world : GovernanceWorld} {expiry : String × String → ℕ}
    {history : List (GovernedRequest × GovernedReply)} {db : GovernedDatabase}
    (hrun : (governedService world expiry).Run history db) :
    All (fun _ job => SoundJob (latestInstant history) job) db.retentionJobs := by
  refine Machine.Run.invariant (M := governedService world expiry)
    (P := fun history db => All (fun _ job => SoundJob (latestInstant history) job)
      db.retentionJobs) All.empty ?_ hrun
  intro history db request _ hjobs
  apply soundJobs_effect (GovernedEffect.of_step world db request)
  · intro instant hinstant
    exact maybeNow_le_latestInstant hinstant
  · exact hjobs.imp fun _ job hjob => hjob.later (latestInstant_le_cons _ history)

/-! ## Nothing is retired early -/

/-- What a step at an instant may take from the tables, under the hosted windows: a consumed pass
after its window and its expiry, a redemption once it is over, a tombstone at its instant, and audit
events and exports after the longer window.  An outcome that is settled stays as it is with its
redemption, an account stays for good, and a tombstone is set only in place of what was over. -/
structure KeepsUntilOver (now : ℕ) (before after : GovernedDatabase) : Prop where
  passes : ∀ pass row, before.store.passConsumptions.lookup pass = some row →
    after.store.passConsumptions.lookup pass = some row ∨
      GovernedDatabase.passFloor row hostedOperationalRetentionSeconds ≤ now
  redemptions : ∀ redemptionId record,
    before.store.redemptions.lookup redemptionId = some record →
      after.store.redemptions.lookup redemptionId = some record ∨
        GovernedDatabase.RedemptionOver before.store now .hostedDefault redemptionId record
  outcomes : ∀ redemptionId outcome, before.store.outcomes.lookup redemptionId = some outcome →
    outcome.status ≠ .pending → after.store.outcomes.lookup redemptionId = some outcome ∨
      redemptionId ∉ after.store.redemptions
  accounts : ∀ accountId actionReference,
    before.store.accounts.lookup accountId = some actionReference →
      after.store.accounts.lookup accountId = some actionReference
  tombstonesGone : ∀ tombstoneId row, before.tombstones.lookup tombstoneId = some row →
    after.tombstones.lookup tombstoneId = some row ∨ row.deleteAfterUnixSeconds ≤ now
  tombstonesSet : ∀ tombstoneId row, after.tombstones.lookup tombstoneId = some row →
    before.tombstones.lookup tombstoneId = some row ∨
      GovernedDatabase.Buries now .hostedDefault row
  auditEvents : ∀ eventId event, before.auditEvents.lookup eventId = some event →
    after.auditEvents.lookup eventId = some event ∨
      event.occurredAtUnixSeconds + hostedTombstoneRetentionSeconds ≤ now
  exportJobs : ∀ exportId row, before.exportJobs.lookup exportId = some row →
    after.exportJobs.lookup exportId = some row ∨
      row.createdAtUnixSeconds + hostedTombstoneRetentionSeconds ≤ now

namespace KeepsUntilOver

variable {now asOf : ℕ} {policy : RetentionPolicy} {before middle after : GovernedDatabase}

/-- What was over under longer windows at an earlier instant is over. -/
theorem of_retired (h : GovernedDatabase.Retired asOf policy before after)
    (hvalid : policy.Valid) (hpast : asOf ≤ now) : KeepsUntilOver now before after where
  passes pass row hrow := by
    rcases h.passes pass with hsame | ⟨found, hfound, -, hover⟩
    · exact Or.inl (hsame.trans hrow)
    · cases Option.some.inj (hrow.symm.trans hfound)
      have hoperational := hvalid.operational
      rw [GovernedDatabase.passFloor] at hover ⊢
      exact Or.inr (by omega)
  redemptions redemptionId record hrecord := by
    rcases h.redemptions redemptionId with hsame | ⟨found, hfound, -, hover⟩
    · exact Or.inl (hsame.trans hrecord)
    · cases Option.some.inj (hrecord.symm.trans hfound)
      exact Or.inr (hover.later hvalid hpast)
  outcomes redemptionId outcome houtcome _ := by
    rcases h.outcomes redemptionId with hsame | ⟨found, -, -, hgone⟩
    · exact Or.inl (hsame.trans houtcome)
    · exact Or.inr hgone
  accounts accountId actionReference haccount := by
    rw [h.accounts]
    exact haccount
  tombstonesGone tombstoneId row hrow := by
    rcases h.tombstonesGone tombstoneId row hrow with hkept | hover
    · exact Or.inl hkept
    · exact Or.inr (Nat.le_trans hover hpast)
  tombstonesSet tombstoneId row hrow := by
    rcases h.tombstonesSet tombstoneId row hrow with hkept | hburies
    · exact Or.inl hkept
    · exact Or.inr (hburies.later hvalid hpast)
  auditEvents eventId event hevent := by
    rcases h.auditEvents eventId with hsame | ⟨found, hfound, -, hover⟩
    · exact Or.inl (hsame.trans hevent)
    · cases Option.some.inj (hevent.symm.trans hfound)
      have htombstone := hvalid.tombstone
      exact Or.inr (by omega)
  exportJobs exportId row hrow := by
    rcases h.exportJobs exportId with hsame | ⟨found, hfound, -, hover⟩
    · exact Or.inl (hsame.trans hrow)
    · cases Option.some.inj (hrow.symm.trans hfound)
      have htombstone := hvalid.tombstone
      exact Or.inr (by omega)

/-- Audit events and jobs are written without touching what is kept. -/
theorem audited {jobs : Rows String RetentionJobRow} (h : KeepsUntilOver now before middle)
    (haudited : GovernedDatabase.Audited { middle with retentionJobs := jobs } after) :
    KeepsUntilOver now before after where
  passes := by
    rw [haudited.store]
    exact h.passes
  redemptions := by
    rw [haudited.store]
    exact h.redemptions
  outcomes := by
    rw [haudited.store]
    exact h.outcomes
  accounts := by
    rw [haudited.store]
    exact h.accounts
  tombstonesGone := by
    rw [haudited.tombstones]
    exact h.tombstonesGone
  tombstonesSet := by
    rw [haudited.tombstones]
    exact h.tombstonesSet
  auditEvents eventId event hevent := by
    rcases h.auditEvents eventId event hevent with hkept | hover
    · exact Or.inl (haudited.kept eventId event hkept)
    · exact Or.inr hover
  exportJobs := by
    rw [haudited.exportJobs]
    exact h.exportJobs

theorem refl (now : ℕ) (db : GovernedDatabase) : KeepsUntilOver now db db where
  passes _ _ h := Or.inl h
  redemptions _ _ h := Or.inl h
  outcomes _ _ h _ := Or.inl h
  accounts _ _ h := h
  tombstonesGone _ _ h := Or.inl h
  tombstonesSet _ _ h := Or.inl h
  auditEvents _ _ h := Or.inl h
  exportJobs _ _ h := Or.inl h

end KeepsUntilOver

/-- An account is never deleted. -/
theorem lookup_accounts_of_effect {before after : RelyingDatabase} {request : RelyingRequest}
    {reply : RelyingReply} (heffect : RelyingDatabase.Effect before request reply after)
    {accountId actionReference : String}
    (h : before.accounts.lookup accountId = some actionReference) :
    after.accounts.lookup accountId = some actionReference := by
  cases heffect with
  | refuses => exact h
  | registers _ _ hexecution | proves _ _ _ _ hexecution => rw [hexecution.accounts, h]
  | links _ _ _ _ _ _ _ hexecution => rw [hexecution.accounts, h]
  | creates _ _ _ _ _ _ _ _ _ _ _ _ _ _ _ _ haccounts => rw [haccounts, h]
  | settles | claims => exact h
  | completes _ _ _ _ _ _ _ _ _ _ htakes =>
      rcases htakes with ⟨-, haccounts⟩ | ⟨-, hfresh, -, haccounts⟩
      · rw [haccounts, h]
      · rw [haccounts]
        exact RelyingDatabase.lookup_insert_of_lookup hfresh h
  | fails _ _ _ _ _ _ _ haccounts | retries _ _ _ _ _ _ haccounts => rw [haccounts, h]

theorem keepsUntilOver_store (db : GovernedDatabase) (request : RelyingRequest) (now : ℕ) :
    KeepsUntilOver now db { db with store := (relyingStep db.store request).1 } := by
  have heffect := RelyingDatabase.Effect.of_step db.store request
  have hkeeps := RelyingDatabase.keepsRedeemed_effect heffect
  refine { KeepsUntilOver.refl now db with
    passes := ?_, redemptions := ?_, outcomes := ?_, accounts := ?_ }
  · intro pass row hrow
    exact Or.inl (hkeeps.passConsumptions pass row hrow)
  · intro redemptionId record hrecord
    exact Or.inl (hkeeps.redemptions redemptionId record hrecord)
  · intro redemptionId outcome houtcome hsettled
    exact Or.inl (heffect.keeps_outcome houtcome hsettled)
  · intro accountId actionReference haccount
    exact lookup_accounts_of_effect heffect haccount

/-- An export touches nothing that is kept. -/
theorem keepsUntilOver_exports {db : GovernedDatabase} {exportId : String}
    (hnew : exportId ∉ db.exportJobs) (row : ExportJobRow) (now : ℕ) :
    KeepsUntilOver now db { db with exportJobs := db.exportJobs.insert exportId row } := by
  refine { KeepsUntilOver.refl now db with exportJobs := ?_ }
  intro other found hfound
  exact Or.inl (RelyingDatabase.lookup_insert_of_lookup hnew hfound)

theorem keepsUntilOver_effect {world : GovernanceWorld} {db after : GovernedDatabase}
    {request : GovernedRequest} {reply : GovernedReply} {now : ℕ}
    (heffect : GovernedEffect world db request reply after)
    (hjobs : All (fun _ job => SoundJob now job) db.retentionJobs) :
    KeepsUntilOver now db after := by
  have hrefl := KeepsUntilOver.refl now db
  cases heffect with
  | serves request => exact keepsUntilOver_store db request now
  | refuses => exact hrefl
  | records _ _ haudited | repeats _ _ _ _ haudited => exact hrefl.audited haudited
  | plans _ _ _ _ _ _ _ _ _ haudited => exact hrefl.audited haudited
  | exports _ _ draws hnew haudited =>
      exact (keepsUntilOver_exports hnew ⟨draws.clock⟩ now).audited haudited
  | applies _ _ hjob _ hprogress _ haudited =>
      have hsound := hjobs _ _ hjob
      have hkeeps := KeepsUntilOver.of_retired (retired_of_batch hsound hprogress) hsound.valid
        hsound.past
      exact hkeeps.audited haudited

/-- No step of any run, whatever the operators plan and apply, retires anything early. -/
theorem governedService_keepsUntilOver {world : GovernanceWorld} {expiry : String × String → ℕ}
    {history : List (GovernedRequest × GovernedReply)} {db : GovernedDatabase}
    (hrun : (governedService world expiry).Run history db) (request : GovernedRequest) :
    KeepsUntilOver (latestInstant history) db (governedStep world db request).1 :=
  keepsUntilOver_effect (GovernedEffect.of_step world db request) (soundJobs_of_run hrun)

/-- The text of a record key. -/
def RecordKey.spelled : RecordKey → String
  | .name text => text
  | .passMarker issuer passId => issuer ++ passId

/-- Libraries under which a record stands for itself. -/
def exampleGovernance : GovernanceWorld where
  pseudonymizeRecord := fun _ _ _ recordKey => recordKey.spelled
  manifestDigestFor := fun _ _ _ _ => "digest"
  ordered := id
  ordered_perm := List.Perm.refl

/-- Identities drawn by one transaction. -/
def exampleDraws (transactionId : String) (clock : ℕ) : Draws where
  eventId := fun eventType => transactionId ++ eventType.asStr
  tombstoneId := fun _ recordKey => transactionId ++ recordKey.spelled
  clock := clock

/-- The service of those libraries, for passes that expire at one instant. -/
abbrev exampleService : Machine GovernedDatabase GovernedRequest GovernedReply :=
  governedService exampleGovernance fun _ => 200

/-- A pass redeemed at 100, its action executed at 101. -/
def executedRequests : List GovernedRequest :=
  [.store (.insertProtectedAction exampleProtectedAction),
    .store (.redeem (exampleRedemption "pass_a" "proof_a" 100) "redemption_a"),
    .store (.maybeClaimAction "worker_a" 100 130 [] "attempt_a"),
    .store (.completeAccountCreation "worker_a" ⟨"redemption_a", "action_01", 1, ["transient"]⟩ 101
      101 "account_a")]

/-- A batch of one item. -/
def exampleBatch : GovernedDatabase.ApplyRetentionRequest :=
  ⟨"job_a", "digest", 1, .hostedDefault, some "key"⟩

/-- Thirty days later a plan is made of what is left, and its first item is applied. -/
def plannedRequests : List GovernedRequest :=
  executedRequests ++
    [.planRetention (exampleService.replay executedRequests).2 2592101 .hostedDefault 2592200
      "job_a" (exampleDraws "planned" 2592200),
      .applyRetention exampleBatch (exampleDraws "first" 2592201)]

/-- The second item is the redemption. -/
theorem plannedRequests_keepsUntilOver :
    (exampleService.replay plannedRequests).2.store.redemptions.lookup "redemption_a" ≠ none ∧
      (governedStep exampleGovernance (exampleService.replay plannedRequests).2
        (.applyRetention exampleBatch (exampleDraws "second" 2592202))).1.store.redemptions.lookup
          "redemption_a" = none ∧
      KeepsUntilOver (latestInstant (exampleService.replay plannedRequests).1)
        (exampleService.replay plannedRequests).2
        (governedStep exampleGovernance (exampleService.replay plannedRequests).2
          (.applyRetention exampleBatch (exampleDraws "second" 2592202))).1 := by
  have hrun := Machine.run_replay (M := exampleService) plannedRequests (by decide +kernel)
  exact ⟨by decide +kernel, by decide +kernel, governedService_keepsUntilOver hrun _⟩

/-! ## A pass is redeemed once -/

/-- A redemption that is accepted consumes its pass, before the pass has expired. -/
theorem redeem_consumes {db after : RelyingDatabase} {redemption : ValidatedRedemption}
    {redemptionId : String} {record : RedemptionRecord}
    (h : db.redeem redemption redemptionId = .ok (after, record)) :
    ∃ row, after.passConsumptions =
        db.passConsumptions.insert (redemption.issuer, redemption.passId) row ∧
      (redemption.issuer, redemption.passId) ∉ db.passConsumptions ∧
      row.gatePassExpiresAtUnixSeconds = redemption.gatePassExpiresAtUnixSeconds ∧
      redemption.acceptedAtUnixSeconds < redemption.gatePassExpiresAtUnixSeconds := by
  simp only [RelyingDatabase.redeem] at h
  split at h
  · cases h
  · simp only [bind_eq_ok, pure_eq_ok] at h
    obtain ⟨_, -, _, hacceptedAt, _, -, _, -, _, hconsumed, ⟨redeemed, linkedId⟩, hredeemed, _,
      hexpiresAt, _, hlive, _, -, h⟩ := h
    cases RelyingDatabase.toI64_eq_ok hacceptedAt
    cases RelyingDatabase.toI64_eq_ok hexpiresAt
    have hfresh := RelyingDatabase.refuseIf_eq_ok hconsumed
    have hunexpired := RelyingDatabase.refuseIf_eq_ok hlive
    rw [decide_eq_false_iff_not] at hfresh hunexpired
    have hsame : redeemed.passConsumptions = db.passConsumptions := by
      simp only [RelyingDatabase.redemptionOf] at hredeemed
      split at hredeemed
      · cases hredeemed
        rfl
      · simp only [RelyingDatabase.insertRedemption, bind_eq_ok, pure_eq_ok] at hredeemed
        obtain ⟨_, -, _, -, _, -, _, -, _, -, _, -, hredeemed⟩ := hredeemed
        cases hredeemed
        rfl
    cases h
    refine ⟨⟨linkedId, redemption.acceptedAtUnixSeconds,
      redemption.gatePassExpiresAtUnixSeconds⟩, ?_, hfresh, rfl, Nat.not_le.mp hunexpired⟩
    rw [← hsame]

/-- Only redemptions consume passes. -/
theorem passConsumptions_of_effect {before after : RelyingDatabase} {request : RelyingRequest}
    {reply : RelyingReply} (heffect : RelyingDatabase.Effect before request reply after)
    (hother : ∀ redemption redemptionId, request ≠ .redeem redemption redemptionId) :
    after.passConsumptions = before.passConsumptions := by
  cases heffect with
  | refuses | settles | claims => rfl
  | registers _ hredemptions | proves _ _ _ hredemptions => exact hredemptions.passConsumptions
  | links redemption redemptionId | creates redemption redemptionId =>
      exact absurd rfl (hother redemption redemptionId)
  | completes _ _ _ _ _ _ _ hredemptions
  | fails _ _ _ _ _ _ hredemptions
  | retries _ _ _ _ _ hredemptions => exact hredemptions.passConsumptions

/-- What a transaction of the store does to the consumed passes: nothing, or it redeems one that
was not there and has not expired. -/
theorem passConsumptions_cases (db : RelyingDatabase) (request : RelyingRequest) :
    ((relyingStep db request).1.passConsumptions = db.passConsumptions ∧
      ∀ issuer passId, RelyingDatabase.redeemsPass issuer passId db request
        (relyingStep db request).1 = false) ∨
    ∃ redemption redemptionId row, request = .redeem redemption redemptionId ∧
      (relyingStep db request).1.passConsumptions =
        db.passConsumptions.insert (redemption.issuer, redemption.passId) row ∧
      (redemption.issuer, redemption.passId) ∉ db.passConsumptions ∧
      row.gatePassExpiresAtUnixSeconds = redemption.gatePassExpiresAtUnixSeconds ∧
      redemption.acceptedAtUnixSeconds < redemption.gatePassExpiresAtUnixSeconds ∧
      ∀ issuer passId, RelyingDatabase.redeemsPass issuer passId db request
        (relyingStep db request).1 =
          (redemption.issuer == issuer && redemption.passId == passId) := by
  have heffect := RelyingDatabase.Effect.of_step db request
  unfold RelyingDatabase.redeemsPass
  cases request with
  | redeem redemption redemptionId =>
      cases hwritten : db.redeem redemption redemptionId with
      | error error =>
          have hstep : relyingStep db (.redeem redemption redemptionId) = (db, .refused error) := by
            rw [relyingStep, hwritten]
            rfl
          rw [hstep]
          exact Or.inl ⟨rfl, fun _ _ => rfl⟩
      | ok pair =>
          have hstep : relyingStep db (.redeem redemption redemptionId) =
              (pair.1, .redeemed pair.2) := by
            rw [relyingStep, hwritten]
            rfl
          rw [hstep]
          obtain ⟨row, hinsert, hfresh, hexpires, hlive⟩ := redeem_consumes hwritten
          exact Or.inr ⟨redemption, redemptionId, row, rfl, hinsert, hfresh, hexpires, hlive,
            fun _ _ => rfl⟩
  | insertProtectedAction | consumeOutcomeProof | maybeClaimAction | completeAccountCreation
  | failClaimedAction | scheduleActionRetry =>
      refine Or.inl ⟨passConsumptions_of_effect heffect ?_, fun _ _ => rfl⟩
      intro redemption redemptionId hrequest
      cases hrequest

/-- Whether a transaction redeems a pass. -/
def redeemsPass (pass : String × String) (db : GovernedDatabase) (request : GovernedRequest)
    (after : GovernedDatabase) : Bool :=
  match request with
  | .store inner => RelyingDatabase.redeemsPass pass.1 pass.2 db.store inner after.store
  | _ => false

theorem redeemsPass_of_ne {pass : String × String} {db after : GovernedDatabase}
    {request : GovernedRequest} (hother : ∀ inner, request ≠ .store inner) :
    redeemsPass pass db request after = false := by
  cases request with
  | store inner => exact absurd rfl (hother inner)
  | planRetention | applyRetention | recordRetentionFailure | startExport => rfl

/-- Every consumption carries the expiry of its pass. -/
def CarriesExpiry (expiry : String × String → ℕ) (db : GovernedDatabase) : Prop :=
  All (fun pass row => row.gatePassExpiresAtUnixSeconds = expiry pass) db.store.passConsumptions

/-- A pass that was redeemed is known to be, or has expired. -/
structure RedeemedOnce (expiry : String × String → ℕ) (pass : String × String) (now count : ℕ)
    (db : GovernedDatabase) : Prop where
  carries : CarriesExpiry expiry db
  unique : RelyingDatabase.UniqueActions db.store
  once : count ≤ 1
  known : 0 < count → pass ∈ db.store.passConsumptions ∨ expiry pass ≤ now

namespace RedeemedOnce

variable {expiry : String × String → ℕ} {pass : String × String} {now count : ℕ}
  {db after : GovernedDatabase}

theorem later (h : RedeemedOnce expiry pass now count db) {instant : ℕ} (hlater : now ≤ instant) :
    RedeemedOnce expiry pass instant count db := by
  refine { h with known := ?_ }
  intro hcount
  rcases h.known hcount with hknown | hexpired
  · exact Or.inl hknown
  · exact Or.inr (Nat.le_trans hexpired hlater)

/-- The floor of a consumption is no earlier than the expiry of its pass. -/
theorem retired {asOf : ℕ} {policy : RetentionPolicy}
    (h : RedeemedOnce expiry pass now count db)
    (hretired : GovernedDatabase.Retired asOf policy db after) (hpast : asOf ≤ now) :
    RedeemedOnce expiry pass now count after where
  carries other row hrow := h.carries other row (hretired.passes.lookup_of_after hrow)
  unique := by
    constructor
    · intro first second row other hrow hother
      exact h.unique.redemptions first second row other (hretired.redemptions.lookup_of_after hrow)
        (hretired.redemptions.lookup_of_after hother)
    · rw [hretired.accounts]
      exact h.unique.accounts
  once := h.once
  known hcount := by
    rcases h.known hcount with hknown | hexpired
    · obtain ⟨row, hrow⟩ := exists_lookup_of_mem hknown
      rcases hretired.passes pass with hsame | ⟨found, hfound, -, hover⟩
      · exact Or.inl (mem_of_lookup (hsame.trans hrow))
      · have hexpiry := h.carries pass found hfound
        rw [GovernedDatabase.passFloor] at hover
        exact Or.inr (by omega)
    · exact Or.inr hexpired

theorem of_store (h : RedeemedOnce expiry pass now count db) (hstore : after.store = db.store) :
    RedeemedOnce expiry pass now count after := by
  refine ⟨?_, ?_, h.once, ?_⟩
  · rw [CarriesExpiry, hstore]
    exact h.carries
  · rw [hstore]
    exact h.unique
  · rw [hstore]
    exact h.known

end RedeemedOnce

/-- A redemption of the pass finds it unconsumed and unexpired, so it is the first. -/
theorem redeemedOnce_store {expiry : String × String → ℕ} {pass : String × String}
    {now count instant : ℕ} {db : GovernedDatabase} {request : RelyingRequest}
    (h : RedeemedOnce expiry pass now count db)
    (hpresents : (GovernedRequest.store request).presents expiry = true)
    (hnow : ∀ clock, (GovernedRequest.store request).maybeNow = some clock → now ≤ clock)
    (hlater : now ≤ instant) :
    RedeemedOnce expiry pass instant
      (count + if RelyingDatabase.redeemsPass pass.1 pass.2 db.store request
        (relyingStep db.store request).1 = true then 1 else 0)
      { db with store := (relyingStep db.store request).1 } := by
  have hunique := h.unique.effect (RelyingDatabase.Effect.of_step db.store request)
  rcases passConsumptions_cases db.store request with ⟨hsame, htest⟩ |
    ⟨redemption, redemptionId, row, rfl, hinsert, hfresh, hexpires, hlive, htest⟩
  · rw [htest, if_neg Bool.false_ne_true, Nat.add_zero]
    refine ⟨?_, hunique, h.once, ?_⟩
    · rw [CarriesExpiry, hsame]
      exact h.carries
    · rw [hsame]
      exact (h.later hlater).known
  · rw [GovernedRequest.presents, beq_iff_eq] at hpresents
    have hcarries : CarriesExpiry expiry
        { db with store := (relyingStep db.store (.redeem redemption redemptionId)).1 } := by
      rw [CarriesExpiry, hinsert]
      exact h.carries.insert (hexpires.trans hpresents)
    rw [htest]
    by_cases hpass : pass = (redemption.issuer, redemption.passId)
    · subst hpass
      have hzero : count = 0 := by
        apply Nat.eq_zero_of_not_pos
        intro hcount
        rcases h.known hcount with hknown | hexpired
        · exact hfresh hknown
        · have hclock := hnow redemption.acceptedAtUnixSeconds rfl
          omega
      have hknown : (redemption.issuer, redemption.passId) ∈
          (relyingStep db.store (.redeem redemption redemptionId)).1.passConsumptions := by
        rw [hinsert]
        exact (AList.mem_insert _).mpr (Or.inl rfl)
      refine ⟨hcarries, hunique, ?_, fun _ => Or.inl hknown⟩
      rw [hzero]
      split
      · exact Nat.le_refl 1
      · exact Nat.zero_le 1
    · have hother : ¬ (redemption.issuer == pass.1 && redemption.passId == pass.2) = true := by
        rw [Bool.and_eq_true, beq_iff_eq, beq_iff_eq]
        rintro ⟨hissuer, hpassId⟩
        exact hpass (Prod.ext hissuer.symm hpassId.symm)
      rw [if_neg hother, Nat.add_zero]
      refine ⟨hcarries, hunique, h.once, ?_⟩
      intro hcount
      rcases (h.later hlater).known hcount with hknown | hexpired
      · rw [hinsert]
        exact Or.inl ((AList.mem_insert _).mpr (Or.inr hknown))
      · exact Or.inr hexpired

/-- Governance redeems nothing, and what it forgets has expired. -/
theorem redeemedOnce_effect {world : GovernanceWorld} {expiry : String × String → ℕ}
    {pass : String × String} {now count instant : ℕ} {db after : GovernedDatabase}
    {request : GovernedRequest} {reply : GovernedReply}
    (heffect : GovernedEffect world db request reply after)
    (h : RedeemedOnce expiry pass now count db)
    (hjobs : All (fun _ job => SoundJob now job) db.retentionJobs)
    (hpresents : request.presents expiry = true)
    (hnow : ∀ clock, request.maybeNow = some clock → now ≤ clock) (hlater : now ≤ instant) :
    RedeemedOnce expiry pass instant
      (count + if redeemsPass pass db request after = true then 1 else 0) after := by
  have hlast := h.later hlater
  cases heffect with
  | serves request => exact redeemedOnce_store h hpresents hnow hlater
  | refuses request error hother =>
      rw [redeemsPass_of_ne hother, if_neg Bool.false_ne_true, Nat.add_zero]
      exact hlast
  | records _ _ haudited | repeats _ _ _ _ haudited => exact hlast.of_store haudited.store
  | plans _ _ _ _ _ _ _ _ _ haudited => exact hlast.of_store haudited.store
  | exports _ _ _ _ haudited => exact hlast.of_store haudited.store
  | applies _ _ hjob _ hprogress _ haudited =>
      have hsound := hjobs _ _ hjob
      have hretired := hlast.retired (retired_of_batch hsound hprogress)
        (Nat.le_trans hsound.past hlater)
      exact hretired.of_store haudited.store

theorem redeemedOnce_of_run {world : GovernanceWorld} {expiry : String × String → ℕ}
    {history : List (GovernedRequest × GovernedReply)} {db : GovernedDatabase}
    (hrun : (governedService world expiry).Run history db) (pass : String × String) :
    RedeemedOnce expiry pass (latestInstant history)
      ((governedService world expiry).countSteps (redeemsPass pass) history) db := by
  refine Machine.Run.invariant_of (M := governedService world expiry)
    (Q := fun history db => (governedService world expiry).Run history db)
    (P := fun history db => RedeemedOnce expiry pass (latestInstant history)
      ((governedService world expiry).countSteps (redeemsPass pass) history) db)
    (fun _ _ hreached => hreached) ?_ ?_ hrun
  · refine ⟨All.empty, ⟨?_, ?_⟩, Nat.zero_le 1, fun hpositive => absurd hpositive (lt_irrefl 0)⟩
    · intro first second row other hrow
      simp [governedService, GovernedDatabase.empty, RelyingDatabase.empty] at hrow
    · intro first second reference hrow
      simp [governedService, GovernedDatabase.empty, RelyingDatabase.empty] at hrow
  · intro history db request hadmits hreached honce
    rw [Machine.countSteps, hreached.stateAfter_eq]
    apply redeemedOnce_effect (GovernedEffect.of_step world db request) honce
      (soundJobs_of_run hreached) hadmits.2
    · intro clock hclock
      have hle := hadmits.1
      rw [hclock, Option.all_some] at hle
      exact of_decide_eq_true hle
    · exact latestInstant_le_cons _ history

/-- A pass is redeemed at most once in every run, whatever retention forgets meanwhile, and no
action has two redemptions nor an Action Reference two accounts. -/
theorem governedService_redeemsPassOnce {world : GovernanceWorld} {expiry : String × String → ℕ}
    {history : List (GovernedRequest × GovernedReply)} {db : GovernedDatabase}
    (hrun : (governedService world expiry).Run history db) :
    (∀ pass, (governedService world expiry).countSteps (redeemsPass pass) history ≤ 1) ∧
      RelyingDatabase.UniqueActions db.store :=
  ⟨fun pass => (redeemedOnce_of_run hrun pass).once,
    (redeemedOnce_of_run hrun ("", "")).unique⟩

/-- The second item is applied, and then the pass is presented once more. -/
def retiredRequests : List GovernedRequest :=
  plannedRequests ++
    [.applyRetention exampleBatch (exampleDraws "second" 2592202),
      .store (.redeem (exampleRedemption "pass_a" "proof_b" 2592300) "redemption_b")]

theorem retiredRequests_redeemsPassOnce :
    (exampleService.replay retiredRequests).2.store.passConsumptions = ∅ ∧
      exampleService.countSteps (redeemsPass ("https://authority.example", "pass_a"))
        (exampleService.replay retiredRequests).1 ≤ 1 := by
  have hrun := Machine.run_replay (M := exampleService) retiredRequests (by decide +kernel)
  exact ⟨by decide +kernel, (governedService_redeemsPassOnce hrun).1 _⟩

end WorkGate.Governance
