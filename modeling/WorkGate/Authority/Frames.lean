/-
# What transactions leave alone

A pool selection is written by the two transactions that are about it and by no other.
And whatever a transaction does to a challenge, it keeps the deadline the challenge was
issued with, and does not open again what was closed.
-/

import WorkGate.Library.Results
import WorkGate.Authority.Effects
import WorkGate.Authority.Fencing

namespace WorkGate

open WorkGate.Library

/-- Whether a transaction proposes or confirms the pool selection of a challenge. -/
def AuthorityRequest.selectsPool (challengeId : ChallengeId) : AuthorityRequest → Bool
  | .proposePoolSelection selected _ _ _ => selected == challengeId
  | .confirmPoolSelection selected _ _ => selected == challengeId
  | _ => false

/-- Whether a transaction is about pool selections, claimant proofs or one of the tables that
consent and failover write. -/
def AuthorityRequest.isSide : AuthorityRequest → Bool
  | .proposePoolSelection _ _ _ _ | .confirmPoolSelection _ _ _ | .consumeIssuanceProof _ _ _ _
  | .maybeClaimIssuance _ _ _ _ | .consentTables _ _ => true
  | _ => false

namespace AuthorityDatabase

variable {db after : AuthorityDatabase} {challengeId : ChallengeId} {now : ℕ}

/-! ## Side tables -/

/-- The tables that only the transactions about them write. -/
def sideTables (db : AuthorityDatabase) : Rows ChallengeId SelectionRow × Rows String ProofRow ×
    Rows String CeremonyRow × Rows WorkSessionId ReplacementRow :=
  (db.poolSelections, db.claimantProofs, db.ceremonies, db.replacements)

theorem sideTables_terminalizeExpired (h : db.terminalizeExpired challengeId now = .ok after) :
    after.sideTables = db.sideTables := by
  simp only [terminalizeExpired] at h
  repeat' split at h
  all_goals first
    | cases h; rfl
    | cases h

theorem sideTables_commitSelected {written : AuthorityDatabase}
    (h : written.sideTables = db.sideTables) :
    (commitSelected db written challengeId).1.sideTables = db.sideTables := by
  simp only [commitSelected]
  split
  · rfl
  · exact h

theorem sideTables_challengeLifecycle :
    (db.challengeLifecycle challengeId now).1.sideTables = db.sideTables := by
  simp only [challengeLifecycle]
  split
  · rfl
  · next current hcurrent =>
      exact sideTables_commitSelected (sideTables_terminalizeExpired hcurrent)

theorem sideTables_pauseChallenge {reason : PauseReason} :
    (db.pauseChallenge challengeId reason now).1.sideTables = db.sideTables := by
  simp only [pauseChallenge]
  split
  · rfl
  · next current hcurrent =>
      have hkept := sideTables_terminalizeExpired hcurrent
      split
      · rfl
      · split
        · exact hkept
        · apply sideTables_commitSelected
          exact hkept

theorem sideTables_cancelChallenge :
    (db.cancelChallenge challengeId now).1.sideTables = db.sideTables := by
  simp only [cancelChallenge]
  split
  · rfl
  · next current hcurrent =>
      have hkept := sideTables_terminalizeExpired hcurrent
      split
      · rfl
      · split
        · exact hkept
        · split
          · exact sideTables_commitSelected hkept
          · split
            · rfl
            · apply sideTables_commitSelected
              exact hkept

theorem sideTables_admitTrustedConsent {sessionId : WorkSessionId}
    {locked : LockedLeaseContext} {maybeAdmission : Option TrustedConsentLeaseAdmission}
    (h : db.admitTrustedConsent sessionId locked maybeAdmission now = .ok after) :
    after.sideTables = db.sideTables := by
  simp only [admitTrustedConsent, bind, Except.bind] at h
  repeat' split at h
  all_goals first
    | cases h; rfl
    | cases h

theorem sideTables_startWorkLease {input : StartWorkLeaseInput} :
    (db.startWorkLease input).1.sideTables = db.sideTables := by
  simp only [startWorkLease]
  split
  · rfl
  · split
    · rfl
    · next current hcurrent =>
        have hkept := sideTables_terminalizeExpired hcurrent
        split
        · rfl
        · split
          · exact hkept
          · split
            · split
              · rfl
              · next admitted hadmitted =>
                  have hadmits := (sideTables_admitTrustedConsent hadmitted).trans hkept
                  split
                  · rfl
                  · rfl
                  · rfl
                  · next started leaseId last renewAt expiresAt hstarted huuid hreadings =>
                      show started.sideTables = db.sideTables
                      split at hstarted
                      · obtain ⟨instant, -, rfl⟩ := map_eq_ok.mp hstarted
                        exact hadmits
                      · cases hstarted
                        exact hadmits
            · exact hkept

theorem sideTables_renewWorkLease {input : RenewWorkLeaseInput} :
    (db.renewWorkLease input).1.sideTables = db.sideTables := by
  simp only [renewWorkLease]
  split
  · rfl
  · split
    · rfl
    · next current hcurrent =>
        have hkept := sideTables_terminalizeExpired hcurrent
        repeat' split
        all_goals first
          | rfl
          | exact hkept

theorem sideTables_applyToSession {sessionId : WorkSessionId}
    {command : SessionLifecycleCommand} {write : SessionRow → SessionRow} :
    (db.applyToSession sessionId command write).1.sideTables = db.sideTables := by
  simp only [applyToSession]
  repeat' split
  all_goals rfl

theorem sideTables_replaceWorkSessionInTransaction {replacedSessionId sessionId : WorkSessionId}
    {allowMaterialPending : Bool} {replacement : SessionReplacement}
    (h : db.replaceWorkSessionInTransaction replacedSessionId sessionId now allowMaterialPending =
      .ok (after, replacement)) : after.sideTables = db.sideTables := by
  simp only [replaceWorkSessionInTransaction, bind, Except.bind, pure, Except.pure] at h
  repeat' split at h
  all_goals first
    | cases h; rfl
    | cases h

theorem sideTables_recordAcceptance {event : AcceptedWorkEvent} {challenge : ChallengeRow}
    {transition : AcceptedWorkTransition} {passUuid : String}
    (h : db.recordAcceptance event challengeId challenge transition passUuid = .ok after) :
    after.sideTables = db.sideTables := by
  rw [recordAcceptance, bind_eq_ok] at h
  obtain ⟨receivedAt, -, h⟩ := h
  cases hcreated : transition.issuanceIntentCreated with
  | false =>
      rw [hcreated] at h
      cases h
      rfl
  | true =>
      simp only [hcreated, if_true, bind_eq_ok, map_eq_ok] at h
      obtain ⟨_, ⟨inserted, hinserted, rfl⟩, hwritten⟩ := h
      cases hwritten
      obtain ⟨-, rfl⟩ := insertIssuanceIntent_eq_ok hinserted
      rfl

theorem sideTables_acceptWork {event : AcceptedWorkEvent} {leaseId : String}
    {clock : WorkerClock} {passUuid : String} :
    (db.acceptWork event leaseId clock now passUuid).1.sideTables = db.sideTables := by
  simp only [acceptWork]
  repeat' split
  all_goals first
    | rfl
    | exact sideTables_recordAcceptance ‹_›

/-- A claim of an issuance also drops the proofs that have expired by then. -/
theorem sideTables_maybeClaimIssuance (db : AuthorityDatabase) (workerId : String)
    (now leaseExpiresAt : ℕ) (locked : List ChallengeId) :
    (db.maybeClaimIssuance workerId now leaseExpiresAt locked).1.sideTables = db.sideTables ∨
      (db.maybeClaimIssuance workerId now leaseExpiresAt locked).1.sideTables =
        (db.deleteExpiredProofs now).sideTables := by
  simp only [maybeClaimIssuance]
  split
  · exact .inl rfl
  · exact .inl rfl
  · next hnow _ =>
      obtain ⟨rfl, -⟩ := unixSecondsToI64_eq_ok hnow
      split
      · exact .inr rfl
      · exact .inr rfl

theorem sideTables_completeIssuance {workerId : String} {completed : CompletedIssuance} :
    (db.completeIssuance workerId completed now).1.sideTables = db.sideTables := by
  simp only [completeIssuance]
  repeat' split
  all_goals rfl

theorem sideTables_step (db : AuthorityDatabase) {request : AuthorityRequest}
    (hother : request.isSide = false) :
    (authorityStep db request).1.sideTables = db.sideTables := by
  cases request with
  | proposePoolSelection => cases hother
  | confirmPoolSelection => cases hother
  | insertChallenge new =>
      simp only [authorityStep, answer, insertChallenge]
      repeat' split
      all_goals rfl
  | insertWorkSession selected sessionId now =>
      simp only [authorityStep, answer, insertWorkSession]
      repeat' split
      all_goals rfl
  | replaceWorkSession replacedSessionId sessionId now =>
      simp only [authorityStep, answer, replaceWorkSession]
      split
      · rfl
      · next written replacement hreplaced =>
          exact sideTables_replaceWorkSessionInTransaction hreplaced
  | releaseMaterialPoolOfferReplacement replacedSessionId candidateSessionId now =>
      simp only [authorityStep, answer, releaseMaterialPoolOfferReplacement]
      split
      · rfl
      · next written replacement hreplaced =>
          show written.sideTables = db.sideTables
          exact sideTables_replaceWorkSessionInTransaction hreplaced
  | challengeLifecycle selected now => exact sideTables_challengeLifecycle
  | pauseChallenge selected reason now => exact sideTables_pauseChallenge
  | cancelChallenge selected now => exact sideTables_cancelChallenge
  | startWorkLease input => exact sideTables_startWorkLease
  | renewWorkLease input => exact sideTables_renewWorkLease
  | interruptWorkSession sessionId interruption => exact sideTables_applyToSession
  | confirmWorkSessionRestored sessionId => exact sideTables_applyToSession
  | failWorkSession sessionId => exact sideTables_applyToSession
  | consumeIssuanceProof => cases hother
  | consentTables => cases hother
  | acceptWork event leaseId clock now passUuid => exact sideTables_acceptWork
  | maybeClaimIssuance => cases hother
  | completeIssuance workerId completed clock => exact sideTables_completeIssuance

/-- No other transaction writes the pool selection of a challenge. -/
theorem lookup_poolSelections_step (db : AuthorityDatabase) {request : AuthorityRequest}
    (hother : request.selectsPool challengeId = false) :
    (authorityStep db request).1.poolSelections.lookup challengeId =
      db.poolSelections.lookup challengeId := by
  by_cases hside : request.isSide = false
  · exact congrArg (fun side => side.1.lookup challengeId) (sideTables_step db hside)
  · cases request with
    | proposePoolSelection selected poolOfferId payoutCommitment now =>
        have hne : challengeId ≠ selected := by
          rintro rfl
          simp [AuthorityRequest.selectsPool] at hother
        simp only [authorityStep, answer, proposePoolSelection]
        repeat' split
        all_goals first
          | rfl
          | exact AList.lookup_insert_ne hne
          | exact Rows.lookup_updateRow_ne hne _ _
    | confirmPoolSelection selected payoutCommitment now =>
        have hne : challengeId ≠ selected := by
          rintro rfl
          simp [AuthorityRequest.selectsPool] at hother
        simp only [authorityStep, answer, confirmPoolSelection]
        repeat' split
        all_goals first
          | rfl
          | exact Rows.lookup_updateRow_ne hne _ _
    | consumeIssuanceProof selected proofId expiresAt now =>
        simp only [authorityStep, answer, consumeIssuanceProof]
        repeat' split
        all_goals rfl
    | maybeClaimIssuance workerId now leaseExpiresAt locked =>
        rcases sideTables_maybeClaimIssuance db workerId now leaseExpiresAt locked with
          hkept | hexpired
        · exact congrArg (fun side => side.1.lookup challengeId) hkept
        · exact congrArg (fun side => side.1.lookup challengeId) hexpired
    | consentTables ceremonies replacements => rfl
    | _ => exact absurd rfl hside

/-! ## Closed challenges -/

/-- Every challenge is still there with its deadline, and those that were closed are. -/
def NeverReopens (db after : AuthorityDatabase) : Prop :=
  ∀ challengeId row, db.challenges.lookup challengeId = some row →
    ∃ later, after.challenges.lookup challengeId = some later ∧
      later.expiresAtUnixSeconds = row.expiresAtUnixSeconds ∧
      (challengeAcceptsWorkControl later.lifecycleState = true →
        challengeAcceptsWorkControl row.lifecycleState = true)

theorem NeverReopens.of_eq (h : after.challenges = db.challenges) : NeverReopens db after :=
  fun challengeId row hrow => ⟨row, by rw [h, hrow], rfl, id⟩

theorem NeverReopens.trans {later : AuthorityDatabase} (hfirst : NeverReopens db after)
    (hsecond : NeverReopens after later) : NeverReopens db later := by
  intro challengeId row hrow
  obtain ⟨middle, hmiddle, hdeadline, hkept⟩ := hfirst challengeId row hrow
  obtain ⟨last, hlast, hlastDeadline, hlastKept⟩ := hsecond challengeId middle hmiddle
  exact ⟨last, hlast, hlastDeadline.trans hdeadline, hkept ∘ hlastKept⟩

/-- A challenge moved to a closed state, or moved while it was open. -/
theorem neverReopens_setLifecycle {row : ChallengeRow}
    (hrow : db.challenges.lookup challengeId = some row) {state : ChallengeLifecycleState}
    (changedAt : ℕ) (terminalAt : Option ℕ → Option ℕ)
    (hopen : challengeAcceptsWorkControl state = true →
      challengeAcceptsWorkControl row.lifecycleState = true) :
    NeverReopens db (db.setLifecycle challengeId state changedAt terminalAt) := by
  intro other found hfound
  rw [AuthorityDatabase.setLifecycle, Rows.lookup_updateRow_eq]
  by_cases heq : other = challengeId
  · subst heq
    rw [hrow, Option.some.injEq] at hfound
    subst hfound
    rw [if_pos rfl, hrow, Option.map_some]
    exact ⟨_, rfl, rfl, hopen⟩
  · rw [if_neg heq]
    exact ⟨found, hfound, rfl, id⟩

theorem neverReopens_statement (h : LifecycleStatement now db after) : NeverReopens db after := by
  cases h with
  | elsewhere hchallenges hfingerprints hevents hintents => exact .of_eq hchallenges
  | expire hrow hopen hdue changedAt terminalAt =>
      exact neverReopens_setLifecycle hrow changedAt terminalAt fun h => by cases h
  | cancel hrow hopen changedAt terminalAt =>
      exact neverReopens_setLifecycle hrow changedAt terminalAt fun h => by cases h
  | activate hrow hissued changedAt terminalAt =>
      apply neverReopens_setLifecycle hrow changedAt terminalAt
      intro
      rw [hissued]
      rfl

theorem neverReopens_moves (h : LifecycleMoves now db after) : NeverReopens db after := by
  induction h with
  | refl => exact .of_eq rfl
  | tail _ hstatement ih => exact ih.trans (neverReopens_statement hstatement)

/-- A transaction that at most closes challenges, or leaves their states alone. -/
theorem neverReopens_of_closes
    (h : ∀ challengeId row, db.challenges.lookup challengeId = some row →
      ∃ later, after.challenges.lookup challengeId = some later ∧
        later.expiresAtUnixSeconds = row.expiresAtUnixSeconds ∧
        (challengeAcceptsWorkControl later.lifecycleState = false ∨
          later.lifecycleState = row.lifecycleState)) :
    NeverReopens db after := by
  intro challengeId row hrow
  obtain ⟨later, hlater, hdeadline, hclosed | hsame⟩ := h challengeId row hrow
  · exact ⟨later, hlater, hdeadline, fun hopen => by rw [hclosed] at hopen; cases hopen⟩
  · exact ⟨later, hlater, hdeadline, fun hopen => hsame ▸ hopen⟩

theorem neverReopens_fails :
    NeverReopens db ((db.failExpiredIssuance now).deleteExpiredProofs now) := by
  apply neverReopens_of_closes
  intro challengeId row hrow
  obtain ⟨later, hlater, hdeadline, hstate⟩ := lookup_failExpiredIssuance_challenges now hrow
  refine ⟨later, hlater, hdeadline, ?_⟩
  split at hstate
  · exact .inl (by rw [hstate]; rfl)
  · exact .inr hstate

theorem neverReopens_accepts {event : AcceptedWorkEvent} {challenge : ChallengeRow}
    {transition : AcceptedWorkTransition}
    (haccepts : AcceptsWork db event now after challengeId challenge transition) :
    NeverReopens db after := by
  apply neverReopens_of_closes
  intro other row hrow
  obtain ⟨later, hlater, hdeadline, hstate⟩ := lookup_accepts_challenges haccepts hrow
  refine ⟨later, hlater, hdeadline, ?_⟩
  split at hstate
  · exact .inl (by rw [hstate]; rfl)
  · exact .inr hstate

theorem neverReopens_completes (completed : CompletedIssuance) :
    NeverReopens db (db.issuePass completed) := by
  apply neverReopens_of_closes
  intro other row hrow
  obtain ⟨later, hlater, hdeadline, hstate⟩ := lookup_issuePass_challenges completed hrow
  refine ⟨later, hlater, hdeadline, ?_⟩
  split at hstate
  · exact .inl (by rw [hstate]; rfl)
  · exact .inr hstate

/-- No transaction reopens a challenge or moves its deadline. -/
theorem neverReopens_step (db : AuthorityDatabase) (request : AuthorityRequest) :
    NeverReopens db (authorityStep db request).1 := by
  have heffect := authorityEffect_of_step db request
  generalize (authorityStep db request).1 = after at heffect ⊢
  cases heffect with
  | moves hmoves => exact neverReopens_moves hmoves
  | @issues new hfresh =>
      intro challengeId row hrow
      rw [Rows.lookup_insert_eq]
      by_cases heq : challengeId = new.challengeId
      · exact absurd (heq ▸ Rows.mem_of_lookup hrow) hfresh
      · rw [if_neg heq]
        exact ⟨row, hrow, rfl, id⟩
  | accepts haccepts => exact neverReopens_accepts haccepts
  | fails => exact neverReopens_fails
  | claims hintent hclaimable => exact neverReopens_fails
  | completes hholds => exact neverReopens_completes _

end AuthorityDatabase

end WorkGate
