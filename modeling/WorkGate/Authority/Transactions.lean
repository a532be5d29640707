/-
# The Authority store as a machine

Every committed transaction is one request answered by the store.  What a
transaction can do to the tables the accounting and the issuance rest on is said
once here: most transactions only move challenges through their lifecycle
(`LifecycleMoves`), and the four that do more (creating a challenge, accepting
work, claiming and completing an issuance) are cases of their own.
-/

import WorkGate.Library.Machine
import WorkGate.Authority.Acceptance
import WorkGate.Authority.Issuance

namespace WorkGate

open WorkGate.Library

/-- The transactions of the store.  Those of trusted consent and of pool offer
replacement write only their own two tables, and here they may write anything there. -/
inductive AuthorityRequest
  | insertChallenge (new : NewChallenge)
  | proposePoolSelection (challengeId : ChallengeId) (poolOfferId payoutCommitment : String)
      (now : ℕ)
  | confirmPoolSelection (challengeId : ChallengeId) (payoutCommitment : String) (now : ℕ)
  | insertWorkSession (challengeId : ChallengeId) (sessionId : WorkSessionId) (now : ℕ)
  | replaceWorkSession (replacedSessionId sessionId : WorkSessionId) (now : ℕ)
  | releaseMaterialPoolOfferReplacement (replacedSessionId candidateSessionId : WorkSessionId)
      (now : ℕ)
  | challengeLifecycle (challengeId : ChallengeId) (now : ℕ)
  | pauseChallenge (challengeId : ChallengeId) (reason : PauseReason) (now : ℕ)
  | cancelChallenge (challengeId : ChallengeId) (now : ℕ)
  | startWorkLease (input : AuthorityDatabase.StartWorkLeaseInput)
  | renewWorkLease (input : AuthorityDatabase.RenewWorkLeaseInput)
  | interruptWorkSession (sessionId : WorkSessionId) (interruption : WorkerInterruption)
  | confirmWorkSessionRestored (sessionId : WorkSessionId)
  | failWorkSession (sessionId : WorkSessionId)
  | consumeIssuanceProof (challengeId : ChallengeId) (proofId : String) (expiresAt now : ℕ)
  | consentTables (ceremonies : Rows String CeremonyRow)
      (replacements : Rows WorkSessionId ReplacementRow)
  | acceptWork (event : AcceptedWorkEvent) (leaseId : String) (clock : WorkerClock) (now : ℕ)
      (passUuid : String)
  | maybeClaimIssuance (workerId : String) (now leaseExpiresAt : ℕ) (locked : List ChallengeId)
  | completeIssuance (workerId : String) (completed : AuthorityDatabase.CompletedIssuance)
      (clock : ℕ)

/-- When a transaction runs, where that matters to it. -/
def AuthorityRequest.maybeNow : AuthorityRequest → Option ℕ
  | .proposePoolSelection _ _ _ now | .confirmPoolSelection _ _ now | .insertWorkSession _ _ now
  | .replaceWorkSession _ _ now | .releaseMaterialPoolOfferReplacement _ _ now
  | .challengeLifecycle _ now | .pauseChallenge _ _ now | .cancelChallenge _ now
  | .consumeIssuanceProof _ _ _ now | .acceptWork _ _ _ now _ | .maybeClaimIssuance _ now _ _
  | .completeIssuance _ _ now => some now
  | .startWorkLease input => some input.nowUnixSeconds
  | .renewWorkLease input => some input.now
  | _ => none

/-- What a transaction answers. -/
inductive AuthorityReply
  | refused (error : AuthorityPersistenceError)
  | done
  | selection (selection : PoolSelectionCommitment)
  | replacement (replacement : SessionReplacement)
  | lifecycle (lifecycle : ChallengeLifecycle)
  | lease (lease : WorkLease)
  | accepted (acceptance : PersistedAcceptance)
  | claimed (maybeClaimed : Option ClaimedIssuance)
  deriving DecidableEq

/-- A transaction's result as the store's answer. -/
def answer {α : Type} (reply : α → AuthorityReply) (result : TransactionResult α) :
    AuthorityDatabase × AuthorityReply :=
  (result.1, match result.2 with
    | .ok value => reply value
    | .error error => .refused error)

/-- One committed transaction. -/
def authorityStep (db : AuthorityDatabase) :
    AuthorityRequest → AuthorityDatabase × AuthorityReply
  | .insertChallenge new => answer (fun _ => .done) (db.insertChallenge new)
  | .proposePoolSelection challengeId poolOfferId payoutCommitment now =>
      answer .selection (db.proposePoolSelection challengeId poolOfferId payoutCommitment now)
  | .confirmPoolSelection challengeId payoutCommitment now =>
      answer .selection (db.confirmPoolSelection challengeId payoutCommitment now)
  | .insertWorkSession challengeId sessionId now =>
      answer (fun _ => .done) (db.insertWorkSession challengeId sessionId now)
  | .replaceWorkSession replacedSessionId sessionId now =>
      answer .replacement (db.replaceWorkSession replacedSessionId sessionId now)
  | .releaseMaterialPoolOfferReplacement replacedSessionId candidateSessionId now =>
      answer .replacement
        (db.releaseMaterialPoolOfferReplacement replacedSessionId candidateSessionId now)
  | .challengeLifecycle challengeId now =>
      answer .lifecycle (db.challengeLifecycle challengeId now)
  | .pauseChallenge challengeId reason now =>
      answer .lifecycle (db.pauseChallenge challengeId reason now)
  | .cancelChallenge challengeId now => answer .lifecycle (db.cancelChallenge challengeId now)
  | .startWorkLease input => answer .lease (db.startWorkLease input)
  | .renewWorkLease input => answer .lease (db.renewWorkLease input)
  | .interruptWorkSession sessionId interruption =>
      answer (fun _ => .done) (db.interruptWorkSession sessionId interruption)
  | .confirmWorkSessionRestored sessionId =>
      answer (fun _ => .done) (db.confirmWorkSessionRestored sessionId)
  | .failWorkSession sessionId => answer (fun _ => .done) (db.failWorkSession sessionId)
  | .consumeIssuanceProof challengeId proofId expiresAt now =>
      answer (fun _ => .done) (db.consumeIssuanceProof challengeId proofId expiresAt now)
  | .consentTables ceremonies replacements => ({ db with ceremonies, replacements }, .done)
  | .acceptWork event leaseId clock now passUuid =>
      answer .accepted (db.acceptWork event leaseId clock now passUuid)
  | .maybeClaimIssuance workerId now leaseExpiresAt locked =>
      answer .claimed (db.maybeClaimIssuance workerId now leaseExpiresAt locked)
  | .completeIssuance workerId completed clock =>
      answer (fun _ => .done) (db.completeIssuance workerId completed clock)

/-- The Authority's store: any transaction may come at any time. -/
def authorityStore : Machine AuthorityDatabase AuthorityRequest AuthorityReply where
  init := AuthorityDatabase.empty
  admits := fun _ _ _ => True
  step := authorityStep

namespace AuthorityDatabase

/-- One statement of a lifecycle transaction, as the accounting and the issuance see
it: it leaves their tables alone, or moves one challenge. -/
inductive LifecycleStatement (now : ℕ) (db : AuthorityDatabase) : AuthorityDatabase → Prop
  | elsewhere {after : AuthorityDatabase} (hchallenges : after.challenges = db.challenges)
      (hfingerprints : after.shareFingerprints = db.shareFingerprints)
      (hevents : after.events = db.events) (hintents : after.intents = db.intents) :
      LifecycleStatement now db after
  | expire {challengeId : ChallengeId} {row : ChallengeRow}
      (hrow : db.challenges.lookup challengeId = some row)
      (hopen : row.lifecycleState ≠ .cancelled)
      (hdue : row.lifecycleState = .active ∨
        ∃ deadline, db.lifecycleDeadline challengeId row = .ok deadline ∧ deadline ≤ now)
      (changedAt : ℕ) (terminalAt : Option ℕ → Option ℕ) :
      LifecycleStatement now db (db.setLifecycle challengeId .expired changedAt terminalAt)
  | cancel {challengeId : ChallengeId} {row : ChallengeRow}
      (hrow : db.challenges.lookup challengeId = some row)
      (hopen : row.lifecycleState = .issued ∨ row.lifecycleState = .active)
      (changedAt : ℕ) (terminalAt : Option ℕ → Option ℕ) :
      LifecycleStatement now db (db.setLifecycle challengeId .cancelled changedAt terminalAt)
  | activate {challengeId : ChallengeId} {row : ChallengeRow}
      (hrow : db.challenges.lookup challengeId = some row)
      (hissued : row.lifecycleState = .issued) (changedAt : ℕ)
      (terminalAt : Option ℕ → Option ℕ) :
      LifecycleStatement now db (db.setLifecycle challengeId .active changedAt terminalAt)

/-- What a lifecycle transaction does, statement by statement. -/
def LifecycleMoves (now : ℕ) : AuthorityDatabase → AuthorityDatabase → Prop :=
  Relation.ReflTransGen (LifecycleStatement now)

namespace LifecycleMoves

variable {now : ℕ} {db after : AuthorityDatabase} {challengeId : ChallengeId}

theorem refl : LifecycleMoves now db db := Relation.ReflTransGen.refl

/-- What is due now stays due. -/
theorem mono {later : ℕ} (hmoves : LifecycleMoves now db after) (hle : now ≤ later) :
    LifecycleMoves later db after := by
  induction hmoves with
  | refl => exact refl
  | tail _ hstatement ih =>
      refine ih.tail ?_
      cases hstatement with
      | elsewhere hchallenges hfingerprints hevents hintents =>
          exact .elsewhere hchallenges hfingerprints hevents hintents
      | expire hrow hopen hdue changedAt terminalAt =>
          refine .expire hrow hopen (hdue.imp_right ?_) changedAt terminalAt
          rintro ⟨deadline, hread, hdue⟩
          exact ⟨deadline, hread, hdue.trans hle⟩
      | cancel hrow hopen changedAt terminalAt => exact .cancel hrow hopen changedAt terminalAt
      | activate hrow hissued changedAt terminalAt =>
          exact .activate hrow hissued changedAt terminalAt

/-- A statement that writes none of the four tables. -/
theorem elsewhere (hmoves : LifecycleMoves now db after) {written : AuthorityDatabase}
    (hchallenges : written.challenges = after.challenges)
    (hfingerprints : written.shareFingerprints = after.shareFingerprints)
    (hevents : written.events = after.events) (hintents : written.intents = after.intents) :
    LifecycleMoves now db written :=
  hmoves.tail (.elsewhere hchallenges hfingerprints hevents hintents)

theorem of_terminalizeExpired (h : db.terminalizeExpired challengeId now = .ok after) :
    LifecycleMoves now db after := by
  simp only [terminalizeExpired] at h
  split at h
  · cases h
  · next row hrow =>
      split at h
      · cases h
      · next deadline hdeadline =>
          split at h
          · cases h
            exact refl
          · next hdue =>
              split at h
              · cases h
                exact refl
              · cases h
              · next target htarget =>
                  split at h
                  · cases h
                    exact refl
                  · split at h
                    · cases h
                    · next instant _ =>
                        cases h
                        have hopen := (applyChallengeCommand_expire htarget).2
                        have hexpired : LifecycleStatement now db _ :=
                          .expire hrow hopen (.inr ⟨deadline, hdeadline, not_lt.mp hdue⟩) instant
                            fun terminalAt => terminalAt.or (some instant)
                        exact elsewhere (refl.tail hexpired) rfl rfl rfl rfl

theorem of_commitSelected {written : AuthorityDatabase} (hwritten : LifecycleMoves now db written) :
    LifecycleMoves now db (commitSelected db written challengeId).1 := by
  simp only [commitSelected]
  split
  · exact refl
  · exact hwritten

theorem of_challengeLifecycle :
    LifecycleMoves now db (db.challengeLifecycle challengeId now).1 := by
  simp only [challengeLifecycle]
  split
  · exact refl
  · next current hcurrent => exact of_commitSelected (of_terminalizeExpired hcurrent)

theorem of_pauseChallenge {reason : PauseReason} :
    LifecycleMoves now db (db.pauseChallenge challengeId reason now).1 := by
  simp only [pauseChallenge]
  split
  · exact refl
  · next current hcurrent =>
      have hmoves := of_terminalizeExpired hcurrent
      split
      · exact refl
      · split
        · exact hmoves
        · exact of_commitSelected (elsewhere hmoves rfl rfl rfl rfl)

theorem of_cancelChallenge :
    LifecycleMoves now db (db.cancelChallenge challengeId now).1 := by
  simp only [cancelChallenge]
  split
  · exact refl
  · next current hcurrent =>
      have hmoves := of_terminalizeExpired hcurrent
      split
      · exact refl
      · next row hrow =>
          split
          · exact hmoves
          · next target htarget =>
              split
              · exact of_commitSelected hmoves
              · next hchanged =>
                  split
                  · exact refl
                  · next instant _ =>
                      apply of_commitSelected
                      obtain ⟨rfl, hstate⟩ := applyChallengeCommand_cancel htarget
                      have hopen : row.lifecycleState = .issued ∨ row.lifecycleState = .active := by
                        rcases hstate with hissued | hactive | hcancelled
                        · exact .inl hissued
                        · exact .inr hactive
                        · exact absurd hcancelled.symm hchanged
                      have hcancelled : LifecycleStatement now current _ :=
                        .cancel hrow hopen instant fun _ => some instant
                      exact elsewhere (hmoves.tail hcancelled) rfl rfl rfl rfl

/-- Binding a ceremony to a session writes sessions only. -/
theorem of_admitTrustedConsent {sessionId : WorkSessionId} {locked : LockedLeaseContext}
    {maybeAdmission : Option TrustedConsentLeaseAdmission} {instant : ℕ}
    (h : db.admitTrustedConsent sessionId locked maybeAdmission instant = .ok after) :
    after.challenges = db.challenges ∧ after.shareFingerprints = db.shareFingerprints ∧
      after.events = db.events ∧ after.intents = db.intents := by
  simp only [admitTrustedConsent, bind, Except.bind] at h
  repeat' split at h
  all_goals first
    | cases h; exact ⟨rfl, rfl, rfl, rfl⟩
    | cases h

/-- Stopping sessions leaves each with its challenge. -/
theorem challengeId_stopSessions (db : AuthorityDatabase) (stopped : ChallengeId)
    (reason : SessionStopReason) (fromStates : List SessionLifecycleState)
    (sessionId : WorkSessionId) :
    ((db.stopSessions stopped reason fromStates).sessions.lookup sessionId).map
        (fun row => row.challengeId) =
      (db.sessions.lookup sessionId).map fun row => row.challengeId := by
  rw [stopSessions, Rows.lookup_mapRows, Option.map_map]
  congr 1
  funext row
  simp only [Function.comp_apply]
  split
  · rfl
  · rfl

theorem challengeId_terminalizeExpired
    (h : db.terminalizeExpired challengeId now = .ok after) (sessionId : WorkSessionId) :
    (after.sessions.lookup sessionId).map (fun row => row.challengeId) =
      (db.sessions.lookup sessionId).map fun row => row.challengeId := by
  simp only [terminalizeExpired] at h
  repeat' split at h
  all_goals first
    | cases h; rfl
    | cases h; exact challengeId_stopSessions _ _ _ _ _
    | cases h

theorem lockChallengeAndSession_eq_ok {sessionId : WorkSessionId} {locked : LockedLeaseContext}
    (h : db.lockChallengeAndSession sessionId = .ok locked) :
    ∃ session challenge, db.sessions.lookup sessionId = some session ∧
      db.challenges.lookup session.challengeId = some challenge ∧
      locked.challengeState = challenge.lifecycleState := by
  simp only [lockChallengeAndSession] at h
  split at h
  · cases h
  · next session hsession =>
      split at h
      · cases h
      · next challenge hchallenge =>
          cases h
          exact ⟨session, challenge, hsession, hchallenge, rfl⟩

theorem of_startWorkLease {input : StartWorkLeaseInput} :
    LifecycleMoves input.nowUnixSeconds db (db.startWorkLease input).1 := by
  simp only [startWorkLease]
  split
  · exact refl
  · next found hfound =>
      split
      · exact refl
      · next current hcurrent =>
          have hmoves := of_terminalizeExpired hcurrent
          split
          · exact refl
          · next locked hlocked =>
              split
              · exact hmoves
              · split
                · next target _ htarget _ =>
                    split
                    · exact refl
                    · next admitted hadmitted =>
                        -- The admission leaves challenges alone, so the row locked is still there.
                        obtain ⟨hchallenges, hfingerprints, hevents, hintents⟩ :=
                          of_admitTrustedConsent hadmitted
                        have hadmitted :=
                          elsewhere hmoves hchallenges hfingerprints hevents hintents
                        split
                        · exact refl
                        · exact refl
                        · exact refl
                        · next started _ _ _ _ hstarted _ _ =>
                            suffices hmoved : LifecycleMoves input.nowUnixSeconds db started from
                              elsewhere hmoved rfl rfl rfl rfl
                            split at hstarted
                            · next hchanged =>
                                cases hinstant : checkedInstant input.nowUnixSeconds with
                                | error error =>
                                    rw [hinstant] at hstarted
                                    cases hstarted
                                | ok instant =>
                                    rw [hinstant] at hstarted
                                    cases hstarted
                                    obtain ⟨session, challenge, hsession, hchallenge, hstate⟩ :=
                                      lockChallengeAndSession_eq_ok hlocked
                                    have hsame := challengeId_terminalizeExpired hcurrent
                                      input.sessionId
                                    rw [hsession, hfound, Option.map_some, Option.map_some,
                                      Option.some.injEq] at hsame
                                    obtain ⟨rfl, hissued⟩ := applyChallengeCommand_startWork htarget
                                    rw [hsame, ← hchallenges] at hchallenge
                                    rw [hstate] at hissued hchanged
                                    have hactive : LifecycleStatement input.nowUnixSeconds admitted
                                        _ := .activate hchallenge
                                      (hissued.resolve_right fun h => hchanged h.symm) instant id
                                    exact hadmitted.tail hactive
                            · cases hstarted
                              exact hadmitted
                · exact hmoves

theorem of_renewWorkLease {input : RenewWorkLeaseInput} :
    LifecycleMoves input.now db (db.renewWorkLease input).1 := by
  simp only [renewWorkLease]
  split
  · exact refl
  · next found hfound =>
      split
      · exact refl
      · next current hcurrent =>
          have hmoves := of_terminalizeExpired hcurrent
          repeat' split
          all_goals first
            | exact refl
            | exact hmoves
            | exact elsewhere hmoves rfl rfl rfl rfl

theorem of_applyToSession {sessionId : WorkSessionId} {command : SessionLifecycleCommand}
    {write : SessionRow → SessionRow} :
    LifecycleMoves now db (db.applyToSession sessionId command write).1 := by
  simp only [applyToSession]
  repeat' split
  all_goals first
    | exact refl
    | exact elsewhere refl rfl rfl rfl rfl

theorem of_replaceWorkSessionInTransaction {replacedSessionId sessionId : WorkSessionId}
    {allowMaterialPending : Bool} {instant : ℕ} {replacement : SessionReplacement}
    (h : db.replaceWorkSessionInTransaction replacedSessionId sessionId instant
      allowMaterialPending = .ok (after, replacement)) : LifecycleMoves now db after := by
  simp only [replaceWorkSessionInTransaction, bind, Except.bind, pure, Except.pure] at h
  repeat' split at h
  all_goals first
    | cases h; exact refl
    | cases h; exact elsewhere refl rfl rfl rfl rfl
    | cases h

end LifecycleMoves

/-- The row of a challenge nobody has worked on. -/
def issuedChallenge (new : NewChallenge) : ChallengeRow where
  workRequirement := new.requiredWork
  verifiedProgress := VerifiedProgress.zero
  satisfied := false
  lifecycleState := .issued
  lifecycleChangedAtUnixSeconds := none
  expiresAtUnixSeconds := new.expiresAtUnixSeconds
  terminalAtUnixSeconds := some new.expiresAtUnixSeconds
  gatePassClaimsSeed := new.claimsSeed
  trustedConfirmationRequired := new.requiresTrustedConfirmation

theorem insertChallenge_cases (db : AuthorityDatabase) (new : NewChallenge) :
    (db.insertChallenge new).1 = db ∨ (new.challengeId ∉ db.challenges ∧
      (db.insertChallenge new).1 = { db with
        challenges := db.challenges.insert new.challengeId (issuedChallenge new) }) := by
  simp only [insertChallenge, checkedInstant, bind, Except.bind]
  split
  · exact .inl rfl
  · next instant hinstant =>
      split at hinstant
      · cases hinstant
      · next converted hconverted =>
          split at hinstant
          · cases hinstant
          · cases hinstant
            obtain ⟨rfl, -⟩ := unixSecondsToI64_eq_ok hconverted
            split
            · exact .inl rfl
            · next hfresh => exact .inr ⟨hfresh, rfl⟩

/-- Everything `maybe_claim_issuance` can do. -/
theorem maybeClaimIssuance_cases (db : AuthorityDatabase) (workerId : String)
    (now leaseExpiresAt : ℕ) (locked : List ChallengeId) :
    (∃ error, db.maybeClaimIssuance workerId now leaseExpiresAt locked = (db, .error error)) ∨
    db.maybeClaimIssuance workerId now leaseExpiresAt locked =
      ((db.failExpiredIssuance now).deleteExpiredProofs now, .ok none) ∨
    ∃ challengeId intent, (db.failExpiredIssuance now).intents.lookup challengeId = some intent ∧
      intent.claimable now = true ∧
      db.maybeClaimIssuance workerId now leaseExpiresAt locked =
        (((db.failExpiredIssuance now).deleteExpiredProofs now).markIssuanceSigning challengeId
          workerId leaseExpiresAt,
          .ok (some ⟨challengeId, intent.algorithm, intent.claimsTemplate⟩)) := by
  simp only [maybeClaimIssuance]
  split
  · exact .inl ⟨_, rfl⟩
  · exact .inl ⟨_, rfl⟩
  · next now' lease' hnow hlease =>
      obtain ⟨rfl, -⟩ := unixSecondsToI64_eq_ok hnow
      obtain ⟨rfl, -⟩ := unixSecondsToI64_eq_ok hlease
      split
      · exact .inr (.inl rfl)
      · next challengeId intent hclaim =>
          have hmem := List.argmin_mem hclaim
          rw [List.mem_filter, Rows.mem_entries_iff, Bool.and_eq_true, Bool.and_eq_true] at hmem
          exact .inr (.inr ⟨challengeId, intent, hmem.1, hmem.2.1.1, rfl⟩)

/-- The pass written by a completed issuance. -/
def issuePass (db : AuthorityDatabase) (completed : CompletedIssuance) : AuthorityDatabase :=
  setLifecycle { db with
    intents := db.intents.updateRow completed.challengeId fun intent => { intent with
      status := .issued
      signingLeaseOwner := none
      signingLeaseExpiresAtUnixSeconds := none
      authorityKid := some completed.authorityKid
      gatePass := some completed.gatePass
      issuedAtUnixSeconds := some completed.issuedAt
      expiresAtUnixSeconds := some completed.expiresAt }
    outbox := db.outbox.updateRow completed.challengeId fun row =>
      { row with status := .completed } }
    completed.challengeId .passIssued completed.issuedAt fun _ => some completed.issuedAt

/-- Everything `complete_issuance` can do. -/
theorem completeIssuance_cases (db : AuthorityDatabase) (workerId : String)
    (completed : CompletedIssuance) (clock : ℕ) :
    (∃ error, db.completeIssuance workerId completed clock = (db, .error error)) ∨
    (db.holdsClaim completed.challengeId workerId clock = true ∧
      db.completeIssuance workerId completed clock = (db.issuePass completed, .ok ())) := by
  simp only [completeIssuance]
  split
  · exact .inl ⟨_, rfl⟩
  · exact .inl ⟨_, rfl⟩
  · next issuedAt expiresAt hissued hexpires =>
      obtain ⟨rfl, -⟩ := unixSecondsToI64_eq_ok hissued
      obtain ⟨rfl, -⟩ := unixSecondsToI64_eq_ok hexpires
      split
      · exact .inl ⟨_, rfl⟩
      · next hholds =>
          split
          · exact .inl ⟨_, rfl⟩
          · exact .inr ⟨by simpa using hholds, rfl⟩

/-- What one committed transaction does to the tables of accounting and issuance. -/
inductive AuthorityEffect (db : AuthorityDatabase) :
    AuthorityRequest → AuthorityDatabase → Prop
  | moves {request : AuthorityRequest} {after : AuthorityDatabase}
      (hmoves : LifecycleMoves (request.maybeNow.getD 0) db after) :
      AuthorityEffect db request after
  | issues {new : NewChallenge} (hfresh : new.challengeId ∉ db.challenges) :
      AuthorityEffect db (.insertChallenge new) { db with
        challenges := db.challenges.insert new.challengeId (issuedChallenge new) }
  | accepts {event : AcceptedWorkEvent} {leaseId : String} {clock : WorkerClock} {now : ℕ}
      {passUuid : String} {after : AuthorityDatabase} {challengeId : ChallengeId}
      {challenge : ChallengeRow} {transition : AcceptedWorkTransition}
      (haccepts : AcceptsWork db event now after challengeId challenge transition) :
      AuthorityEffect db (.acceptWork event leaseId clock now passUuid) after
  | fails {workerId : String} {now leaseExpiresAt : ℕ} {locked : List ChallengeId} :
      AuthorityEffect db (.maybeClaimIssuance workerId now leaseExpiresAt locked)
        ((db.failExpiredIssuance now).deleteExpiredProofs now)
  | claims {workerId : String} {now leaseExpiresAt : ℕ} {locked : List ChallengeId}
      {challengeId : ChallengeId} {intent : IntentRow}
      (hintent : (db.failExpiredIssuance now).intents.lookup challengeId = some intent)
      (hclaimable : intent.claimable now = true) :
      AuthorityEffect db (.maybeClaimIssuance workerId now leaseExpiresAt locked)
        (((db.failExpiredIssuance now).deleteExpiredProofs now).markIssuanceSigning challengeId
          workerId leaseExpiresAt)
  | completes {workerId : String} {completed : CompletedIssuance} {clock : ℕ}
      (hholds : db.holdsClaim completed.challengeId workerId clock = true) :
      AuthorityEffect db (.completeIssuance workerId completed clock) (db.issuePass completed)

theorem authorityEffect_acceptWork (db : AuthorityDatabase) (event : AcceptedWorkEvent)
    (leaseId : String) (clock : WorkerClock) (now : ℕ) (passUuid : String) :
    AuthorityEffect db (.acceptWork event leaseId clock now passUuid)
      (db.acceptWork event leaseId clock now passUuid).1 := by
  rcases acceptWork_cases (Prod.mk.eta
      (p := db.acceptWork event leaseId clock now passUuid)).symm with
    ⟨hsame, -⟩ | ⟨hsame, -⟩ | ⟨challengeId, challenge, hchallenge, hactive, -, hexpired, -⟩ |
      ⟨reason, -, hstopped, -⟩ | ⟨challengeId, challenge, transition, haccepts, -⟩
  · rw [hsame]
    exact .moves .refl
  · rw [hsame]
    exact .moves .refl
  · rw [hexpired]
    have hstatement : LifecycleStatement now db _ := .expire hchallenge (by simp [hactive])
      (.inl hactive) challenge.expiresAtUnixSeconds fun _ => some challenge.expiresAtUnixSeconds
    exact .moves (.elsewhere (.tail .refl hstatement) rfl rfl rfl rfl)
  · rw [hstopped]
    exact .moves (.elsewhere .refl rfl rfl rfl rfl)
  · exact .accepts haccepts

/-- Every request has one of the effects above. -/
theorem authorityEffect_of_step (db : AuthorityDatabase) (request : AuthorityRequest) :
    AuthorityEffect db request (authorityStep db request).1 := by
  cases request with
  | insertChallenge new =>
      rcases insertChallenge_cases db new with hsame | ⟨hfresh, hinserted⟩
      · simp only [authorityStep, answer, hsame]
        exact .moves .refl
      · simp only [authorityStep, answer, hinserted]
        exact .issues hfresh
  | proposePoolSelection challengeId poolOfferId payoutCommitment now =>
      simp only [authorityStep, answer, proposePoolSelection]
      repeat' split
      all_goals exact .moves (.elsewhere .refl rfl rfl rfl rfl)
  | confirmPoolSelection challengeId payoutCommitment now =>
      simp only [authorityStep, answer, confirmPoolSelection]
      repeat' split
      all_goals exact .moves (.elsewhere .refl rfl rfl rfl rfl)
  | insertWorkSession challengeId sessionId now =>
      simp only [authorityStep, answer, insertWorkSession]
      repeat' split
      all_goals exact .moves (.elsewhere .refl rfl rfl rfl rfl)
  | replaceWorkSession replacedSessionId sessionId now =>
      simp only [authorityStep, answer, replaceWorkSession]
      split
      · exact .moves .refl
      · next hreplaced => exact .moves (.of_replaceWorkSessionInTransaction hreplaced)
  | releaseMaterialPoolOfferReplacement replacedSessionId candidateSessionId now =>
      simp only [authorityStep, answer, releaseMaterialPoolOfferReplacement]
      split
      · exact .moves .refl
      · next hreplaced =>
          exact .moves (.elsewhere (.of_replaceWorkSessionInTransaction hreplaced) rfl rfl rfl rfl)
  | challengeLifecycle challengeId now => exact .moves .of_challengeLifecycle
  | pauseChallenge challengeId reason now => exact .moves .of_pauseChallenge
  | cancelChallenge challengeId now => exact .moves .of_cancelChallenge
  | startWorkLease input => exact .moves .of_startWorkLease
  | renewWorkLease input => exact .moves .of_renewWorkLease
  | interruptWorkSession sessionId interruption => exact .moves .of_applyToSession
  | confirmWorkSessionRestored sessionId => exact .moves .of_applyToSession
  | failWorkSession sessionId => exact .moves .of_applyToSession
  | consumeIssuanceProof challengeId proofId expiresAt now =>
      simp only [authorityStep, answer, consumeIssuanceProof]
      repeat' split
      all_goals exact .moves (.elsewhere .refl rfl rfl rfl rfl)
  | consentTables ceremonies replacements => exact .moves (.elsewhere .refl rfl rfl rfl rfl)
  | acceptWork event leaseId clock now passUuid =>
      exact authorityEffect_acceptWork db event leaseId clock now passUuid
  | maybeClaimIssuance workerId now leaseExpiresAt locked =>
      rcases maybeClaimIssuance_cases db workerId now leaseExpiresAt locked with
        ⟨error, hsame⟩ | hfailed | ⟨challengeId, intent, hintent, hclaimable, hclaimed⟩
      · simp only [authorityStep, answer, hsame]
        exact .moves .refl
      · simp only [authorityStep, answer, hfailed]
        exact .fails
      · simp only [authorityStep, answer, hclaimed]
        exact .claims hintent hclaimable
  | completeIssuance workerId completed clock =>
      rcases completeIssuance_cases db workerId completed clock with
        ⟨error, hsame⟩ | ⟨hholds, hcompleted⟩
      · simp only [authorityStep, answer, hsame]
        exact .moves .refl
      · simp only [authorityStep, answer, hcompleted]
        exact .completes hholds

end AuthorityDatabase

end WorkGate
