/-
# What retention leaves of the tables

A transition of one record, and with it a batch of them, removes rows only where every window and
every protocol expiry that applies to them is over at the planning instant.  What is said of one
step here is closed under composition, so a batch is no more than its steps.
-/

import WorkGate.Governance.Retention
import WorkGate.Library.Pruning

namespace WorkGate.Governance

open WorkGate.Library
open WorkGate.Library.Rows

namespace GovernedDatabase

variable {asOf : ℕ} {policy : RetentionPolicy}

/-! ## Retired states -/

/-- A redemption that is over: its outcome is terminal, public lookup has ended, and the window
after each of them, as after each of its passes, has too. -/
def RedemptionOver (store : RelyingDatabase) (asOf : ℕ) (policy : RetentionPolicy)
    (redemptionId : String) (record : RedemptionRow) : Prop :=
  (∃ outcome terminal, store.outcomes.lookup redemptionId = some outcome ∧
      terminalAt outcome = some terminal ∧ terminal + policy.operationalRetentionSeconds ≤ asOf) ∧
    record.publicLookupExpiresAtUnixSeconds ≤ asOf ∧
    ∀ pass row, store.passConsumptions.lookup pass = some row → row.redemptionId = redemptionId →
      passFloor row policy.operationalRetentionSeconds ≤ asOf

/-- What is over at an instant is over later, and under the hosted windows. -/
theorem RedemptionOver.later {store : RelyingDatabase} {redemptionId : String}
    {record : RedemptionRow} {now : ℕ}
    (h : RedemptionOver store asOf policy redemptionId record) (hvalid : policy.Valid)
    (hpast : asOf ≤ now) : RedemptionOver store now .hostedDefault redemptionId record := by
  obtain ⟨⟨outcome, terminal, houtcome, hterminal, hwindow⟩, hlookup, hpasses⟩ := h
  have hoperational := hvalid.operational
  refine ⟨⟨outcome, terminal, houtcome, hterminal, ?_⟩, Nat.le_trans hlookup hpast, ?_⟩
  · simp only [RetentionPolicy.hostedDefault]
    omega
  · intro pass row hrow hredemption
    have hover := hpasses pass row hrow hredemption
    simp only [RetentionPolicy.hostedDefault]
    rw [passFloor] at hover ⊢
    omega

/-- A tombstone that a plan sets: its record's window was over then, and the tombstone stays for
the longer one. -/
structure Buries (asOf : ℕ) (policy : RetentionPolicy) (tombstone : TombstoneRow) : Prop where
  window : tombstone.terminalAtUnixSeconds + policy.operationalRetentionSeconds ≤
    tombstone.pseudonymizedAtUnixSeconds
  kept : tombstone.terminalAtUnixSeconds + policy.tombstoneRetentionSeconds ≤
    tombstone.deleteAfterUnixSeconds
  pseudonymized : tombstone.pseudonymizedAtUnixSeconds ≤ asOf

theorem Buries.later {tombstone : TombstoneRow} {now : ℕ} (h : Buries asOf policy tombstone)
    (hvalid : policy.Valid) (hpast : asOf ≤ now) : Buries now .hostedDefault tombstone where
  window := Nat.le_trans (Nat.add_le_add_left hvalid.operational _) h.window
  kept := Nat.le_trans (Nat.add_le_add_left hvalid.tombstone _) h.kept
  pseudonymized := Nat.le_trans h.pseudonymized hpast

/-- What a retention step may do. -/
structure Retired (asOf : ℕ) (policy : RetentionPolicy) (before after : GovernedDatabase) :
    Prop where
  passes : Pruned (fun _ row => passFloor row policy.operationalRetentionSeconds ≤ asOf)
    before.store.passConsumptions after.store.passConsumptions
  redemptions : Pruned (RedemptionOver before.store asOf policy) before.store.redemptions
    after.store.redemptions
  outcomes : Pruned (fun redemptionId _ => redemptionId ∉ after.store.redemptions)
    before.store.outcomes after.store.outcomes
  dpopProofs : Pruned (fun _ expiresAt => expiresAt < asOf) before.store.dpopProofs
    after.store.dpopProofs
  outcomeProofs : Pruned (fun _ expiresAt => expiresAt < asOf) before.store.outcomeProofs
    after.store.outcomeProofs
  accounts : after.store.accounts = before.store.accounts
  tombstonesGone : ∀ tombstoneId row, before.tombstones.lookup tombstoneId = some row →
    after.tombstones.lookup tombstoneId = some row ∨ row.deleteAfterUnixSeconds ≤ asOf
  tombstonesSet : ∀ tombstoneId row, after.tombstones.lookup tombstoneId = some row →
    before.tombstones.lookup tombstoneId = some row ∨ Buries asOf policy row
  auditEvents : Pruned (fun _ event =>
    event.occurredAtUnixSeconds + policy.tombstoneRetentionSeconds ≤ asOf) before.auditEvents
    after.auditEvents
  exportJobs : Pruned (fun _ row =>
    row.createdAtUnixSeconds + policy.tombstoneRetentionSeconds ≤ asOf) before.exportJobs
    after.exportJobs
  retentionJobs : after.retentionJobs = before.retentionJobs

namespace Retired

variable {first second third : GovernedDatabase}

theorem refl (db : GovernedDatabase) : Retired asOf policy db db where
  passes := Pruned.refl _ _
  redemptions := Pruned.refl _ _
  outcomes := Pruned.refl _ _
  dpopProofs := Pruned.refl _ _
  outcomeProofs := Pruned.refl _ _
  accounts := rfl
  tombstonesGone _ _ h := Or.inl h
  tombstonesSet _ _ h := Or.inl h
  auditEvents := Pruned.refl _ _
  exportJobs := Pruned.refl _ _
  retentionJobs := rfl

/-- What is over after a step was over before it. -/
theorem redemptionOver_of_after (h : Retired asOf policy first second) {redemptionId : String}
    {record : RedemptionRow}
    (hover : RedemptionOver second.store asOf policy redemptionId record) :
    RedemptionOver first.store asOf policy redemptionId record := by
  obtain ⟨⟨outcome, terminal, houtcome, hterminal, hwindow⟩, hlookup, hpasses⟩ := hover
  refine ⟨⟨outcome, terminal, h.outcomes.lookup_of_after houtcome, hterminal, hwindow⟩, hlookup, ?_⟩
  intro pass row hrow hredemption
  cases hafter : second.store.passConsumptions.lookup pass with
  | none => exact h.passes.mayGo_of_gone hrow hafter
  | some found =>
      cases Option.some.inj (hrow.symm.trans (h.passes.lookup_of_after hafter))
      exact hpasses pass row hafter hredemption

theorem trans (h₁ : Retired asOf policy first second) (h₂ : Retired asOf policy second third) :
    Retired asOf policy first third where
  passes := h₁.passes.trans h₂.passes
  redemptions := h₁.redemptions.trans
    (h₂.redemptions.mono fun _ _ _ hover => h₁.redemptionOver_of_after hover)
  outcomes := by
    refine (h₁.outcomes.mono fun redemptionId _ _ hgone hmem => ?_).trans h₂.outcomes
    obtain ⟨record, hrecord⟩ := exists_lookup_of_mem hmem
    exact hgone (mem_of_lookup (h₂.redemptions.lookup_of_after hrecord))
  dpopProofs := h₁.dpopProofs.trans h₂.dpopProofs
  outcomeProofs := h₁.outcomeProofs.trans h₂.outcomeProofs
  accounts := h₂.accounts.trans h₁.accounts
  tombstonesGone tombstoneId row h := by
    rcases h₁.tombstonesGone tombstoneId row h with hkept | hover
    · exact h₂.tombstonesGone tombstoneId row hkept
    · exact Or.inr hover
  tombstonesSet tombstoneId row h := by
    rcases h₂.tombstonesSet tombstoneId row h with hkept | hset
    · exact h₁.tombstonesSet tombstoneId row hkept
    · exact Or.inr hset
  auditEvents := h₁.auditEvents.trans h₂.auditEvents
  exportJobs := h₁.exportJobs.trans h₂.exportJobs
  retentionJobs := h₂.retentionJobs.trans h₁.retentionJobs

end Retired

/-! ## Single rows -/

/-- A conditional deletion removes a row that passes its test, or none. -/
theorem pruned_deleteWhere {ρ : Type} {rows : Rows String ρ} {name : String} {test : ρ → Bool}
    {mayGo : String → ρ → Prop}
    (h : ∀ row, rows.lookup name = some row → test row = true → mayGo name row) :
    Pruned mayGo rows (deleteWhere rows name test).1 := by
  rw [deleteWhere]
  split
  · next hany =>
      obtain ⟨row, hrow, htest⟩ := (Option.any_eq_true _ _).mp hany
      apply Pruned.erase
      intro found hfound
      cases Option.some.inj (hrow.symm.trans hfound)
      exact h row hrow htest
  · exact Pruned.refl _ _

theorem pruned_deleteProof {proofs : Rows String ℕ} {item : PlannedItem}
    {deleted : Rows String ℕ × ℕ} (h : deleteProof proofs item asOf = .ok deleted) :
    Pruned (fun _ expiresAt => expiresAt < asOf) proofs deleted.1 := by
  simp only [deleteProof, bind_eq_ok, pure_eq_ok] at h
  obtain ⟨_, -, expected, -, bound, hbound, proofId, -, rfl⟩ := h
  have hequal := (toI64_eq_ok.mp hbound).2
  subst hequal
  apply pruned_deleteWhere
  intro expiresAt _ htest
  rw [Bool.and_eq_true, decide_eq_true_eq, decide_eq_true_eq] at htest
  exact htest.2

theorem pruned_deleteAged {ρ : Type} {rows : Rows String ρ} {instant : ρ → ℕ} {item : PlannedItem}
    {deleted : Rows String ρ × ℕ} (hfloor : item.retentionFloorUnixSeconds ≤ asOf)
    (h : deleteAged rows instant item asOf policy = .ok deleted) :
    Pruned (fun _ row => instant row + policy.tombstoneRetentionSeconds ≤ asOf) rows
      deleted.1 := by
  simp only [deleteAged, bind_eq_ok, pure_eq_ok] at h
  obtain ⟨name, -, created, hcreated, bound, hbound, _, -, rfl⟩ := h
  have hequal := (toI64_eq_ok.mp hbound).2
  subst hequal
  have hsum := checkedSub_eq_ok.mp hcreated
  apply pruned_deleteWhere
  intro row _ htest
  rw [Bool.and_eq_true, decide_eq_true_eq, decide_eq_true_eq] at htest
  omega

/-- The arms that delete protocol material. -/
theorem retired_deleteProtocolMaterial {db after : GovernedDatabase} {item : PlannedItem}
    {affected : ℕ} (hfloor : item.retentionFloorUnixSeconds ≤ asOf)
    (h : db.deleteProtocolMaterial item asOf policy = .ok (after, affected)) :
    Retired asOf policy db after := by
  rw [deleteProtocolMaterial, throwIf_bind_eq_ok] at h
  obtain ⟨-, h⟩ := h
  split at h
  · obtain ⟨deleted, hdeleted, hpure⟩ := bind_eq_ok.mp h
    cases pure_eq_ok.mp hpure
    exact { Retired.refl db with exportJobs := pruned_deleteAged hfloor hdeleted }
  · obtain ⟨deleted, hdeleted, hpure⟩ := bind_eq_ok.mp h
    cases pure_eq_ok.mp hpure
    exact { Retired.refl db with auditEvents := pruned_deleteAged hfloor hdeleted }
  · obtain ⟨deleted, hdeleted, hpure⟩ := bind_eq_ok.mp h
    cases pure_eq_ok.mp hpure
    exact { Retired.refl db with dpopProofs := pruned_deleteProof hdeleted }
  · obtain ⟨deleted, hdeleted, hpure⟩ := bind_eq_ok.mp h
    cases pure_eq_ok.mp hpure
    exact { Retired.refl db with outcomeProofs := pruned_deleteProof hdeleted }
  · cases h

theorem retired_deleteReferenceTombstone {db after : GovernedDatabase} {item : PlannedItem}
    {affected : ℕ} (h : db.deleteReferenceTombstone item asOf = .ok (after, affected)) :
    Retired asOf policy db after := by
  rw [deleteReferenceTombstone, throwIf_bind_eq_ok] at h
  obtain ⟨-, h⟩ := h
  simp only [bind_eq_ok, pure_eq_ok] at h
  obtain ⟨tombstoneId, -, floor, -, bound, hbound, hafter⟩ := h
  have hequal := (toI64_eq_ok.mp hbound).2
  subst bound
  obtain ⟨rfl, -⟩ := Prod.mk.inj hafter
  have hpruned : Pruned (fun _ row => row.deleteAfterUnixSeconds ≤ asOf) db.tombstones
      (deleteWhere db.tombstones tombstoneId fun row =>
        row.recordClass == item.recordClass && decide (row.deleteAfterUnixSeconds = floor) &&
          decide (row.deleteAfterUnixSeconds ≤ asOf)).1 := by
    apply pruned_deleteWhere
    intro row _ htest
    rw [Bool.and_eq_true, decide_eq_true_eq] at htest
    exact htest.2
  refine { Retired.refl db with tombstonesGone := ?_, tombstonesSet := ?_ }
  · intro name row hrow
    rcases hpruned name with hsame | ⟨found, hfound, -, hgo⟩
    · exact Or.inl (hsame.trans hrow)
    · cases Option.some.inj (hrow.symm.trans hfound)
      exact Or.inr hgo
  · intro name row hrow
    exact Or.inl (hpruned.lookup_of_after hrow)

/-! ## Tombstones -/

/-- A tombstone is set and nothing else. -/
theorem retired_insertTombstone {db after : GovernedDatabase} {draws : Draws}
    {recordKey : RecordKey} {tombstone : TombstoneRow} (hburies : Buries asOf policy tombstone)
    (h : db.insertTombstone draws recordKey tombstone = .ok after) :
    after.store = db.store ∧ Retired asOf policy db after := by
  simp only [insertTombstone, bind_eq_ok, throwIf_eq_ok, pure_eq_ok] at h
  obtain ⟨-, -, -, -, -, -, -, hfree, -, -, rfl⟩ := h
  have hfresh := (not_or.mp hfree).1
  refine ⟨rfl, { Retired.refl db with tombstonesGone := ?_, tombstonesSet := ?_ }⟩
  · intro name row hrow
    have hne : name ≠ draws.tombstoneId tombstone.recordClass recordKey := by
      rintro rfl
      exact hfresh (mem_of_lookup hrow)
    exact Or.inl ((AList.lookup_insert_ne hne).trans hrow)
  · intro name row hrow
    by_cases hname : name = draws.tombstoneId tombstone.recordClass recordKey
    · subst hname
      cases Option.some.inj ((AList.lookup_insert _).symm.trans hrow)
      exact Or.inr hburies
    · exact Or.inl ((AList.lookup_insert_ne hname).symm.trans hrow)

theorem retired_insertPassTombstone {world : GovernanceWorld} {db after : GovernedDatabase}
    {draws : Draws} {pass : String × String} {row : PassConsumptionRow} {key : String}
    (hover : passFloor row policy.operationalRetentionSeconds ≤ asOf)
    (h : db.insertPassTombstone world draws pass (markerOf row) asOf policy key = .ok after) :
    after.store = db.store ∧ Retired asOf policy db after := by
  rw [insertPassTombstone, bind_eq_ok] at h
  obtain ⟨floors, hfloors, h⟩ := h
  apply retired_insertTombstone _ h
  have hfinal := (passRetentionFloors_eq_ok hfloors).2
  rw [passFloor] at hover
  simp only [markerOf] at hfinal
  exact ⟨by simp only [markerOf]; omega, by simp only [markerOf]; omega, Nat.le_refl _⟩

theorem retired_insertPassTombstones {world : GovernanceWorld} {draws : Draws} {key : String}
    {passMarkers : List ((_ : String × String) × PassConsumptionRow)}
    {db after : GovernedDatabase}
    (hover : ∀ entry ∈ passMarkers,
      passFloor entry.2 policy.operationalRetentionSeconds ≤ asOf)
    (h : passMarkers.foldlM (fun (found : GovernedDatabase) entry =>
      found.insertPassTombstone world draws entry.1 (markerOf entry.2) asOf policy key) db =
        .ok after) : after.store = db.store ∧ Retired asOf policy db after := by
  induction passMarkers generalizing db with
  | nil =>
      cases h
      exact ⟨rfl, Retired.refl _⟩
  | cons entry passMarkers ih =>
      rw [List.foldlM_cons, bind_eq_ok] at h
      obtain ⟨next, hnext, hrest⟩ := h
      obtain ⟨hfirst, hlater⟩ := List.forall_mem_cons.mp hover
      obtain ⟨hstore, hretired⟩ := retired_insertPassTombstone hfirst hnext
      obtain ⟨hstore', hretired'⟩ := ih hlater hrest
      exact ⟨hstore'.trans hstore, hretired.trans hretired'⟩

/-! ## Passes -/

theorem retired_deletePassConsumption {db : GovernedDatabase} {pass : String × String}
    {row : PassConsumptionRow} (hrow : db.store.passConsumptions.lookup pass = some row)
    (hover : passFloor row policy.operationalRetentionSeconds ≤ asOf) :
    Retired asOf policy db (db.deletePassConsumption pass) := by
  refine { Retired.refl db with passes := ?_, redemptions := ?_, outcomes := ?_ }
  · apply Pruned.erase
    intro found hfound
    cases Option.some.inj (hrow.symm.trans hfound)
    exact hover
  · exact Pruned.refl _ _
  · exact Pruned.refl _ _

theorem retired_pseudonymizePassConsumption {world : GovernanceWorld}
    {db after : GovernedDatabase} {draws : Draws} {item : PlannedItem} {key : String}
    {affected : ℕ}
    (h : db.pseudonymizePassConsumption world draws item asOf policy key =
      .ok (after, affected)) : Retired asOf policy db after := by
  rw [pseudonymizePassConsumption, bind_eq_ok] at h
  obtain ⟨pass, -, h⟩ := h
  split at h
  · cases h
    exact Retired.refl _
  · next row hrow =>
      obtain ⟨floors, hfloors, h⟩ := bind_eq_ok.mp h
      split at h
      · cases h
        exact Retired.refl _
      · next hdue =>
          obtain ⟨marked, hmarked, hpure⟩ := bind_eq_ok.mp h
          cases pure_eq_ok.mp hpure
          have hover : passFloor row policy.operationalRetentionSeconds ≤ asOf := by
            have hfloor := (passRetentionFloors_eq_ok hfloors).1
            simp only [markerOf] at hfloor
            rw [passFloor, ← hfloor]
            exact Nat.not_lt.mp (not_or.mp hdue).2
          obtain ⟨hstore, hretired⟩ := retired_insertPassTombstone hover hmarked
          apply hretired.trans (retired_deletePassConsumption _ hover)
          rw [hstore]
          exact hrow

theorem retired_deleteOverduePassConsumption {db after : GovernedDatabase} {item : PlannedItem}
    {affected : ℕ} (hpolicy : policy.Valid)
    (h : db.deleteOverduePassConsumption item asOf policy = .ok (after, affected)) :
    Retired asOf policy db after := by
  rw [deleteOverduePassConsumption, bind_eq_ok] at h
  obtain ⟨pass, -, h⟩ := h
  split at h
  · cases h
    exact Retired.refl _
  · next row hrow =>
      obtain ⟨floors, hfloors, h⟩ := bind_eq_ok.mp h
      split at h
      · cases h
        exact Retired.refl _
      · next hdue =>
          cases pure_eq_ok.mp h
          apply retired_deletePassConsumption hrow
          have hfloor := (passRetentionFloors_eq_ok hfloors).2
          have hordered := hpolicy.ordered
          have hreached := Nat.not_lt.mp (not_or.mp hdue).2
          simp only [markerOf] at hfloor
          rw [passFloor]
          omega

/-! ## Aggregates -/

/-- The passes of an aggregate are those that name its redemption. -/
theorem mem_aggregatePassConsumptions {store : RelyingDatabase} {redemptionId : String}
    {pass : String × String} {row : PassConsumptionRow} :
    ⟨pass, row⟩ ∈ aggregatePassConsumptions store redemptionId ↔
      store.passConsumptions.lookup pass = some row ∧ row.redemptionId = redemptionId := by
  rw [aggregatePassConsumptions, List.mem_filter, AList.mem_lookup_iff.symm, Option.mem_def,
    beq_iff_eq]

theorem maybeRelyingAggregate_eq_some {store : RelyingDatabase} {redemptionId : String}
    {aggregate : RelyingAggregate}
    (h : maybeRelyingAggregate store redemptionId = some aggregate) :
    store.redemptions.lookup redemptionId = some aggregate.record ∧
      (∃ outcome, store.outcomes.lookup redemptionId = some outcome ∧
        terminalAt outcome = some aggregate.terminalAt) ∧
      aggregate.passMarkers = aggregatePassConsumptions store redemptionId := by
  rw [maybeRelyingAggregate] at h
  split at h
  · next record outcome hrecord houtcome =>
      obtain ⟨terminal, hterminal, rfl⟩ := Option.map_eq_some_iff.mp h
      exact ⟨hrecord, ⟨outcome, houtcome, hterminal⟩, rfl⟩
  · cases h

/-- An aggregate whose operational floor is reached is over. -/
theorem redemptionOver_of_floors {store : RelyingDatabase} {redemptionId : String}
    {aggregate : RelyingAggregate} {floors : RetentionFloors}
    (haggregate : maybeRelyingAggregate store redemptionId = some aggregate)
    (hfloors : aggregate.floors policy = .ok floors) (hreached : floors.operational ≤ asOf) :
    RedemptionOver store asOf policy redemptionId aggregate.record := by
  obtain ⟨-, ⟨outcome, houtcome, hterminal⟩, hmarkers⟩ :=
    maybeRelyingAggregate_eq_some haggregate
  have hcover := relyingRetentionFloors_eq_ok hfloors
  refine ⟨⟨outcome, aggregate.terminalAt, houtcome, hterminal, ?_⟩, ?_, ?_⟩
  · exact Nat.le_trans hcover.operational hreached
  · exact Nat.le_trans hcover.lookup.1 hreached
  · intro pass row hrow hredemption
    have hmem : (⟨pass, row⟩ : (_ : String × String) × PassConsumptionRow) ∈
        aggregate.passMarkers := by
      rw [hmarkers]
      exact mem_aggregatePassConsumptions.mpr ⟨hrow, hredemption⟩
    exact Nat.le_trans (hcover.markers _ (List.mem_map_of_mem hmem)).1 hreached

/-- The final floor is no earlier than the operational one. -/
theorem redemptionOver_of_finalFloor {store : RelyingDatabase} {redemptionId : String}
    {aggregate : RelyingAggregate} {floors : RetentionFloors} (hpolicy : policy.Valid)
    (haggregate : maybeRelyingAggregate store redemptionId = some aggregate)
    (hfloors : aggregate.floors policy = .ok floors) (hreached : floors.finalDeletion ≤ asOf) :
    RedemptionOver store asOf policy redemptionId aggregate.record := by
  obtain ⟨-, ⟨outcome, houtcome, hterminal⟩, hmarkers⟩ :=
    maybeRelyingAggregate_eq_some haggregate
  have hcover := relyingRetentionFloors_eq_ok hfloors
  have hordered := hpolicy.ordered
  refine ⟨⟨outcome, aggregate.terminalAt, houtcome, hterminal, ?_⟩, ?_, ?_⟩
  · have hterminalFloor := hcover.finalDeletion
    omega
  · exact Nat.le_trans hcover.lookup.2 hreached
  · intro pass row hrow hredemption
    have hmem : (⟨pass, row⟩ : (_ : String × String) × PassConsumptionRow) ∈
        aggregate.passMarkers := by
      rw [hmarkers]
      exact mem_aggregatePassConsumptions.mpr ⟨hrow, hredemption⟩
    have hmarker := (hcover.markers _ (List.mem_map_of_mem hmem)).2
    simp only [markerOf] at hmarker
    rw [passFloor]
    omega

theorem retired_deleteRelyingAggregate {db : GovernedDatabase} {redemptionId : String}
    {record : RedemptionRow} (hrecord : db.store.redemptions.lookup redemptionId = some record)
    (hover : RedemptionOver db.store asOf policy redemptionId record) :
    Retired asOf policy db (db.deleteRelyingAggregate redemptionId record).1 := by
  refine { Retired.refl db with passes := ?_, redemptions := ?_, outcomes := ?_ }
  · apply Pruned.keepRows
    intro pass row hrow hkeep
    rw [bne_eq_false_iff_eq] at hkeep
    exact hover.2.2 pass row hrow hkeep
  · apply Pruned.erase
    intro found hfound
    cases Option.some.inj (hrecord.symm.trans hfound)
    exact hover
  · apply Pruned.erase
    intro _ _ hmem
    obtain ⟨found, hfound⟩ := exists_lookup_of_mem hmem
    rw [deleteRelyingAggregate, AList.lookup_erase] at hfound
    cases hfound

theorem retired_pseudonymizeRelyingAggregate {world : GovernanceWorld}
    {db after : GovernedDatabase} {draws : Draws} {item : PlannedItem} {key : String}
    {affected : ℕ}
    (h : db.pseudonymizeRelyingAggregate world draws item asOf policy key =
      .ok (after, affected)) : Retired asOf policy db after := by
  rw [pseudonymizeRelyingAggregate, bind_eq_ok] at h
  obtain ⟨redemptionId, -, h⟩ := h
  split at h
  · cases h
    exact Retired.refl _
  · next aggregate haggregate =>
      obtain ⟨floors, hfloors, h⟩ := bind_eq_ok.mp h
      split at h
      · cases h
        exact Retired.refl _
      · next hdue =>
          obtain ⟨marked, hmarked, h⟩ := bind_eq_ok.mp h
          obtain ⟨buried, hburied, hpure⟩ := bind_eq_ok.mp h
          have hreached := Nat.not_lt.mp (not_or.mp hdue).2
          have hover := redemptionOver_of_floors haggregate hfloors hreached
          have hcover := relyingRetentionFloors_eq_ok hfloors
          obtain ⟨hrecord, -, hmarkers⟩ := maybeRelyingAggregate_eq_some haggregate
          have hpasses : ∀ entry ∈ aggregate.passMarkers,
              passFloor entry.2 policy.operationalRetentionSeconds ≤ asOf := by
            intro entry hentry
            rw [hmarkers] at hentry
            obtain ⟨hrow, hredemption⟩ := mem_aggregatePassConsumptions.mp hentry
            exact hover.2.2 entry.1 entry.2 hrow hredemption
          obtain ⟨hstore, hretired⟩ := retired_insertPassTombstones hpasses hmarked
          obtain ⟨hstore', hretired'⟩ := retired_insertTombstone
            ⟨Nat.le_trans hcover.operational hreached, hcover.finalDeletion, Nat.le_refl _⟩ hburied
          have hsame : buried.store = db.store := hstore'.trans hstore
          have hdeleted : Retired asOf policy buried
              (buried.deleteRelyingAggregate redemptionId aggregate.record).1 := by
            apply retired_deleteRelyingAggregate
            · rw [hsame]
              exact hrecord
            · rw [hsame]
              exact hover
          rw [pure_eq_ok] at hpure
          rw [hpure] at hdeleted
          exact (hretired.trans hretired').trans hdeleted

theorem retired_deleteOverdueReferenceRecord {db after : GovernedDatabase} {item : PlannedItem}
    {affected : ℕ} (hpolicy : policy.Valid)
    (h : db.deleteOverdueReferenceRecord item asOf policy = .ok (after, affected)) :
    Retired asOf policy db after := by
  rw [deleteOverdueReferenceRecord] at h
  split at h
  · exact retired_deleteOverduePassConsumption hpolicy h
  · rw [throwIf_bind_eq_ok, bind_eq_ok] at h
    obtain ⟨-, redemptionId, -, h⟩ := h
    split at h
    · cases h
      exact Retired.refl _
    · next aggregate haggregate =>
        obtain ⟨floors, hfloors, h⟩ := bind_eq_ok.mp h
        split at h
        · cases h
          exact Retired.refl _
        · next hdue =>
            have hreached := Nat.not_lt.mp (not_or.mp hdue).2
            have hdeleted := retired_deleteRelyingAggregate
              (maybeRelyingAggregate_eq_some haggregate).1
              (redemptionOver_of_finalFloor hpolicy haggregate hfloors hreached)
            rw [pure_eq_ok] at h
            rw [h] at hdeleted
            exact hdeleted

/-! ## Batches -/

/-- Every transition of an item whose floor is reached retires only what is over. -/
theorem retired_applyTransition {world : GovernanceWorld} {db after : GovernedDatabase}
    {draws : Draws} {item : PlannedItem} {maybeKey : Option String} {affected : ℕ}
    (hpolicy : policy.Valid) (hfloor : item.retentionFloorUnixSeconds ≤ asOf)
    (h : db.applyTransition world draws item asOf policy maybeKey = .ok (after, affected)) :
    Retired asOf policy db after := by
  rw [applyTransition] at h
  split at h
  · exact retired_deleteProtocolMaterial hfloor h
  · obtain ⟨key, -, h⟩ := bind_eq_ok.mp h
    rw [pseudonymizeReferenceRecord] at h
    split at h
    · exact retired_pseudonymizePassConsumption h
    · exact retired_pseudonymizeRelyingAggregate h
    · cases h
  · exact retired_deleteReferenceTombstone h
  · exact retired_deleteOverdueReferenceRecord hpolicy h
  · cases h

theorem applyItem_eq_ok {world : GovernanceWorld} {draws : Draws} {maybeKey : Option String}
    {progress next : BatchProgress} {item : PlannedItem}
    (h : applyItem world draws asOf policy maybeKey progress item = .ok next) :
    progress.db.applyTransition world draws item asOf policy maybeKey = .ok (next.db, 1) ∧
      next.nextCursor = item.sequence := by
  rw [applyItem, bind_eq_ok] at h
  obtain ⟨⟨after, affected⟩, hafter, h⟩ := h
  obtain ⟨hone, hnext⟩ := throwIf_bind_eq_ok.mp h
  cases of_not_not hone
  split at hnext
  · cases pure_eq_ok.mp hnext
    exact ⟨hafter, rfl⟩
  · cases pure_eq_ok.mp hnext
    exact ⟨hafter, rfl⟩

theorem retired_applyItems {world : GovernanceWorld} {draws : Draws} {maybeKey : Option String}
    {items : List PlannedItem} {progress next : BatchProgress} (hpolicy : policy.Valid)
    (hfloors : ∀ item ∈ items, item.retentionFloorUnixSeconds ≤ asOf)
    (h : items.foldlM (applyItem world draws asOf policy maybeKey) progress = .ok next) :
    Retired asOf policy progress.db next.db := by
  induction items generalizing progress with
  | nil =>
      cases h
      exact Retired.refl _
  | cons item items ih =>
      rw [List.foldlM_cons, bind_eq_ok] at h
      obtain ⟨middle, hmiddle, hrest⟩ := h
      obtain ⟨hfirst, hlater⟩ := List.forall_mem_cons.mp hfloors
      exact (retired_applyTransition hpolicy hfirst (applyItem_eq_ok hmiddle).1).trans
        (ih hlater hrest)

end GovernedDatabase

end WorkGate.Governance
