/-
# Leases as the Authority stores them

The lease of a session is the columns of a leased row.  One transaction writes them anew,
one moves their window on, and everything else a transaction does to a session either
leaves them as they are or ends the lease.
-/

import WorkGate.Library.Results
import WorkGate.Authority.Effects

namespace WorkGate

open WorkGate.Library

/-- The columns an observation of a lease reads. -/
structure LeaseColumns where
  leaseId : Option String
  continuityId : Option String
  startedAt : Option ℕ
  last : Option ℕ
  expiresAt : Option ℕ

def SessionRow.columns (row : SessionRow) : LeaseColumns where
  leaseId := row.leaseId
  continuityId := row.continuityId
  startedAt := row.leaseStartedAtMonotonicMilliseconds
  last := row.lastMonotonicMilliseconds
  expiresAt := row.expiresAtMonotonicMilliseconds

/-- The lease of a session, if it has one. -/
def SessionRow.maybeLease (row : SessionRow) : Option LeaseColumns :=
  if row.lifecycleState = .leased then some row.columns else none

theorem SessionRow.maybeLease_of_leased {row : SessionRow} (h : row.lifecycleState = .leased) :
    row.maybeLease = some row.columns := if_pos h

/-- An observation is accepted inside the window of its own lease and boot. -/
theorem observeWorkLease_eq_accepted {input : LeaseObservationInput} :
    observeWorkLease input = .ok .accepted ↔ input.state = .leased ∧
      input.expectedLeaseId = input.presentedLeaseId ∧
      input.expectedContinuityId = input.clock.continuityId ∧
      input.lastMonotonicMilliseconds ≤ input.clock.monotonicMilliseconds ∧
      input.clock.monotonicMilliseconds < input.expiresAtMonotonicMilliseconds := by
  rw [observeWorkLease]
  constructor
  · intro h
    obtain ⟨target, hobserve, h⟩ := bind_eq_ok.mp h
    have hleased := AuthorityDatabase.SessionEffect.applySessionCommand_observeLease hobserve
    obtain ⟨hlease, h⟩ := guard_eq_ok h
    rw [not_not] at hlease
    split at h
    · cases h
    · next hboot =>
        split at h
        · cases h
        · next hreset =>
            split at h
            · cases h
            · next hexpired =>
                exact ⟨hleased, hlease, not_not.mp hboot, not_lt.mp hreset, not_le.mp hexpired⟩
  · rintro ⟨hleased, hlease, hboot, hreading, hopen⟩
    rw [hleased, if_neg (not_not.mpr hlease), if_neg (not_not.mpr hboot),
      if_neg (not_lt.mpr hreading), if_neg (not_le.mpr hopen)]
    rfl

namespace AuthorityDatabase

/-- The lease a session is worked under. -/
def maybeLease (db : AuthorityDatabase) (sessionId : WorkSessionId) : Option LeaseColumns :=
  (db.sessions.lookup sessionId).bind SessionRow.maybeLease

/-- No session has another lease than it had, though it may have lost the one it had. -/
def KeepsLeases (db after : AuthorityDatabase) : Prop :=
  ∀ sessionId lease, after.maybeLease sessionId = some lease → db.maybeLease sessionId = some lease

/-- One session is worked under `lease`, and the others are kept. -/
structure SetsLease (db after : AuthorityDatabase) (sessionId : WorkSessionId)
    (lease : LeaseColumns) : Prop where
  leased : after.maybeLease sessionId = some lease
  others : ∀ other, other ≠ sessionId → ∀ found, after.maybeLease other = some found →
    db.maybeLease other = some found

namespace KeepsLeases

variable {db written after : AuthorityDatabase}

theorem refl : KeepsLeases db db := fun _ _ h => h

theorem trans (hfirst : KeepsLeases db written) (hsecond : KeepsLeases written after) :
    KeepsLeases db after :=
  fun sessionId lease h => hfirst sessionId lease (hsecond sessionId lease h)

theorem of_eq (h : after.sessions = db.sessions) : KeepsLeases db after := by
  intro sessionId lease hlease
  rw [maybeLease, h] at hlease
  exact hlease

/-- Rewriting rows one by one, where no row gets a lease it did not have. -/
theorem of_mapRows (write : WorkSessionId → SessionRow → SessionRow)
    (hsessions : after.sessions = db.sessions.mapRows write)
    (hwrite : ∀ sessionId row lease, (write sessionId row).maybeLease = some lease →
      row.maybeLease = some lease) : KeepsLeases db after := by
  intro sessionId lease hlease
  rw [maybeLease, hsessions, Rows.lookup_mapRows] at hlease
  rw [maybeLease]
  cases hrow : db.sessions.lookup sessionId with
  | none =>
      rw [hrow] at hlease
      cases hlease
  | some row =>
      rw [hrow] at hlease
      exact hwrite sessionId row lease hlease

theorem of_updateRow {sessionId : WorkSessionId} (write : SessionRow → SessionRow)
    (hsessions : after.sessions = db.sessions.updateRow sessionId write)
    (hwrite : ∀ row lease, (write row).maybeLease = some lease → row.maybeLease = some lease) :
    KeepsLeases db after := by
  refine of_mapRows _ hsessions ?_
  intro other row lease hlease
  split at hlease
  · exact hwrite row lease hlease
  · exact hlease

/-- A stopped session has no lease. -/
theorem of_stopSessions {challengeId : ChallengeId} {reason : SessionStopReason}
    {fromStates : List SessionLifecycleState}
    (hsessions : after.sessions = (db.stopSessions challengeId reason fromStates).sessions) :
    KeepsLeases db after := by
  refine of_mapRows (fun _ row => if row.challengeId = challengeId ∧
    row.lifecycleState ∈ fromStates then stoppedSession reason row else row) hsessions ?_
  intro sessionId row lease hlease
  split at hlease
  · simp [SessionRow.maybeLease, stoppedSession] at hlease
  · exact hlease

/-- A new session has no lease. -/
theorem of_insert {sessionId : WorkSessionId} {row : SessionRow}
    (hsessions : after.sessions = db.sessions.insert sessionId row) (hready : IsReadySession row) :
    KeepsLeases db after := by
  obtain ⟨material, replaces, generation, reason, hshape⟩ := hready
  intro other lease hlease
  rw [maybeLease, hsessions, Rows.lookup_insert_eq] at hlease
  split at hlease
  · rw [hshape] at hlease
    simp [SessionRow.maybeLease, readySession] at hlease
  · exact hlease

theorem of_terminalizeExpired {challengeId : ChallengeId} {now : ℕ}
    (h : db.terminalizeExpired challengeId now = .ok after) : KeepsLeases db after := by
  simp only [terminalizeExpired] at h
  repeat' split at h
  all_goals first
    | cases h; exact refl
    | cases h; exact of_stopSessions rfl
    | cases h

theorem of_commitSelected {challengeId : ChallengeId} (h : KeepsLeases db written) :
    KeepsLeases db (commitSelected db written challengeId).1 := by
  simp only [commitSelected]
  split
  · exact refl
  · exact h

end KeepsLeases

/-! ## Transactions that grant nothing -/

section

variable {db after : AuthorityDatabase} {challengeId : ChallengeId} {now : ℕ}

theorem keepsLeases_pauseChallenge {reason : PauseReason} :
    KeepsLeases db (db.pauseChallenge challengeId reason now).1 := by
  simp only [pauseChallenge]
  split
  · exact .refl
  · next current hcurrent =>
      have hkept := KeepsLeases.of_terminalizeExpired hcurrent
      split
      · exact .refl
      · split
        · exact hkept
        · exact .of_commitSelected (hkept.trans (.of_stopSessions rfl))

theorem keepsLeases_cancelChallenge :
    KeepsLeases db (db.cancelChallenge challengeId now).1 := by
  simp only [cancelChallenge]
  split
  · exact .refl
  · next current hcurrent =>
      have hkept := KeepsLeases.of_terminalizeExpired hcurrent
      split
      · exact .refl
      · split
        · exact hkept
        · split
          · exact .of_commitSelected hkept
          · split
            · exact .refl
            · exact .of_commitSelected (hkept.trans (.of_stopSessions rfl))

/-- A session command that leaves no session leased ends a lease at most. -/
theorem keepsLeases_applyToSession {sessionId : WorkSessionId} {command : SessionLifecycleCommand}
    {write : SessionRow → SessionRow} (hwrite : ∀ row, (write row).lifecycleState ≠ .leased) :
    KeepsLeases db (db.applyToSession sessionId command write).1 := by
  simp only [applyToSession]
  split
  · exact .refl
  · split
    · exact .refl
    · split
      · exact .refl
      · refine .of_updateRow write rfl ?_
        intro row lease hlease
        simp [SessionRow.maybeLease, hwrite row] at hlease

theorem keepsLeases_replace {replacedSessionId sessionId : WorkSessionId}
    {allowMaterialPending : Bool} {replacement : SessionReplacement}
    (h : db.replaceWorkSessionInTransaction replacedSessionId sessionId now allowMaterialPending =
      .ok (after, replacement)) : KeepsLeases db after := by
  rcases SessionEffect.replaceWorkSessionInTransaction_cases h with
    ⟨rfl, -⟩ | ⟨row, challenge, rfl, -, hready, -⟩
  · exact .refl
  · exact .of_insert rfl hready

theorem keepsLeases_releaseMaterial {replacedSessionId candidateSessionId : WorkSessionId} :
    KeepsLeases db
      (db.releaseMaterialPoolOfferReplacement replacedSessionId candidateSessionId now).1 := by
  simp only [releaseMaterialPoolOfferReplacement]
  split
  · exact .refl
  · next hreplaced =>
      exact (keepsLeases_replace hreplaced).trans (.of_updateRow (fun row =>
        { row with materialTrustedConfirmationRequired := true }) rfl fun _ _ h => h)

theorem keepsLeases_insertWorkSession {sessionId : WorkSessionId} :
    KeepsLeases db (db.insertWorkSession challengeId sessionId now).1 := by
  simp only [insertWorkSession]
  repeat' split
  all_goals first
    | exact .refl
    | exact .of_insert rfl ⟨_, _, _, _, rfl⟩

theorem keepsLeases_acceptWork {event : AcceptedWorkEvent} {leaseId : String} {clock : WorkerClock}
    {passUuid : String} :
    KeepsLeases db (db.acceptWork event leaseId clock now passUuid).1 := by
  simp only [acceptWork]
  split
  · split
    · exact .refl
    · exact .refl
  · split
    · exact .refl
    · split
      · exact .refl
      · split
        · exact .refl
        · split
          · exact .refl
          · split
            · exact .of_stopSessions rfl
            · split
              · exact .refl
              · next reason _ =>
                  refine .of_updateRow (stoppedSession reason) rfl ?_
                  intro row lease hlease
                  simp [SessionRow.maybeLease, stoppedSession] at hlease
              · split
                · exact .refl
                · split
                  · exact .refl
                  · split
                    · exact .refl
                    · next written hwritten =>
                        obtain ⟨-, ⟨-, hsessions⟩ | ⟨-, hsessions⟩⟩ :=
                          SessionEffect.recordAcceptance_sessions hwritten
                        · exact .of_stopSessions hsessions
                        · exact .of_eq hsessions

theorem keepsLeases_maybeClaimIssuance {workerId : String} {leaseExpiresAt : ℕ}
    {locked : List ChallengeId} :
    KeepsLeases db (db.maybeClaimIssuance workerId now leaseExpiresAt locked).1 := by
  rcases maybeClaimIssuance_cases db workerId now leaseExpiresAt locked with
    ⟨error, h⟩ | h | ⟨claimed, intent, -, -, h⟩
  · rw [h]
    exact .refl
  · rw [h]
    exact .of_eq rfl
  · rw [h]
    exact .of_eq rfl

theorem keepsLeases_completeIssuance {workerId : String} {completed : CompletedIssuance}
    {clock : ℕ} : KeepsLeases db (db.completeIssuance workerId completed clock).1 := by
  rcases completeIssuance_cases db workerId completed clock with ⟨error, h⟩ | ⟨-, h⟩
  · rw [h]
    exact .refl
  · rw [h]
    exact .of_eq rfl

end

end AuthorityDatabase

/-- Whether a transaction grants a lease or renews one. -/
def AuthorityRequest.grantsLease : AuthorityRequest → Bool
  | .startWorkLease _ => true
  | .renewWorkLease _ => true
  | _ => false

namespace AuthorityDatabase

/-- Every other transaction keeps the leases. -/
theorem keepsLeases_step {db : AuthorityDatabase} {request : AuthorityRequest}
    (hgrants : request.grantsLease = false) : KeepsLeases db (authorityStep db request).1 := by
  cases request with
  | startWorkLease => cases hgrants
  | renewWorkLease => cases hgrants
  | insertChallenge new =>
      rcases insertChallenge_cases db new with h | ⟨-, h⟩
      · exact .of_eq (by simp only [authorityStep, answer, h])
      · exact .of_eq (by simp only [authorityStep, answer, h])
  | proposePoolSelection =>
      simp only [authorityStep, answer, proposePoolSelection]
      repeat' split
      all_goals exact .of_eq rfl
  | confirmPoolSelection =>
      simp only [authorityStep, answer, confirmPoolSelection]
      repeat' split
      all_goals exact .of_eq rfl
  | insertWorkSession => exact keepsLeases_insertWorkSession
  | replaceWorkSession =>
      simp only [authorityStep, answer, replaceWorkSession]
      split
      · exact .refl
      · next hreplaced => exact keepsLeases_replace hreplaced
  | releaseMaterialPoolOfferReplacement => exact keepsLeases_releaseMaterial
  | challengeLifecycle =>
      simp only [authorityStep, answer, challengeLifecycle]
      split
      · exact .refl
      · next hcurrent => exact .of_commitSelected (.of_terminalizeExpired hcurrent)
  | pauseChallenge => exact keepsLeases_pauseChallenge
  | cancelChallenge => exact keepsLeases_cancelChallenge
  | interruptWorkSession =>
      exact keepsLeases_applyToSession (by simp [stoppedSession])
  | confirmWorkSessionRestored => exact keepsLeases_applyToSession (by simp)
  | failWorkSession => exact keepsLeases_applyToSession (by simp)
  | consumeIssuanceProof =>
      simp only [authorityStep, answer, consumeIssuanceProof]
      repeat' split
      all_goals exact .of_eq rfl
  | consentTables => exact .of_eq rfl
  | acceptWork => exact keepsLeases_acceptWork
  | maybeClaimIssuance => exact keepsLeases_maybeClaimIssuance
  | completeIssuance => exact keepsLeases_completeIssuance

/-! ## The two that grant and renew -/

theorem leaseColumns_eq_ok {session : SessionRow} {lastReading : Option ℕ}
    {leaseId continuityId : String} {last expiresAt : ℕ}
    (h : leaseColumns session lastReading = .ok (leaseId, continuityId, last, expiresAt)) :
    session.leaseId = some leaseId ∧ session.continuityId = some continuityId ∧
      lastReading = some last ∧ session.expiresAtMonotonicMilliseconds = some expiresAt := by
  simp only [leaseColumns] at h
  split at h
  · next hleaseId hcontinuityId hexpiresAt =>
      cases h
      exact ⟨hleaseId, hcontinuityId, rfl, hexpiresAt⟩
  · cases h

/-- The lease a start leaves. -/
def startedLease (leaseId : String) (clock : WorkerClock) (expiresAt : ℕ) : LeaseColumns where
  leaseId := some leaseId
  continuityId := some clock.continuityId
  startedAt := some clock.monotonicMilliseconds
  last := some clock.monotonicMilliseconds
  expiresAt := some expiresAt

/-- The lease a renewal leaves of `lease`. -/
def renewedLease (lease : LeaseColumns) (clock : WorkerClock) (expiresAt : ℕ) : LeaseColumns :=
  { lease with
    last := some clock.monotonicMilliseconds
    expiresAt := some expiresAt }

/-- Writing the lease columns of one session that is there. -/
theorem setsLease_updateRow {db written after : AuthorityDatabase} {sessionId : WorkSessionId}
    {row : SessionRow} {lease : LeaseColumns} (hkept : KeepsLeases db written)
    (hrow : written.sessions.lookup sessionId = some row) (write : SessionRow → SessionRow)
    (hafter : after.sessions = written.sessions.updateRow sessionId write)
    (hlease : (write row).maybeLease = some lease) : SetsLease db after sessionId lease where
  leased := by
    rw [maybeLease, hafter, Rows.lookup_updateRow, hrow]
    exact hlease
  others := by
    intro other hne found hfound
    rw [maybeLease, hafter, Rows.lookup_updateRow_ne hne] at hfound
    exact hkept other found hfound

theorem keepsLeases_admitTrustedConsent {db after : AuthorityDatabase} {sessionId : WorkSessionId}
    {locked : LockedLeaseContext} {maybeAdmission : Option TrustedConsentLeaseAdmission} {now : ℕ}
    (h : db.admitTrustedConsent sessionId locked maybeAdmission now = .ok after) :
    KeepsLeases db after := by
  simp only [admitTrustedConsent, bind, Except.bind] at h
  repeat' split at h
  all_goals first
    | cases h; exact .refl
    | cases h; exact .of_updateRow (fun row =>
        { row with trustedConsentCeremonyId := some _ }) rfl fun _ _ h => h
    | cases h

/-- A start that is refused grants nothing; one that is answered has written what it was asked
for. -/
theorem startWorkLease_cases (db : AuthorityDatabase) (input : StartWorkLeaseInput) :
    (KeepsLeases db (db.startWorkLease input).1 ∧
      ∃ error, (db.startWorkLease input).2 = .error error) ∨
    ∃ leaseId, castUuid input.leaseId = some leaseId ∧
      (db.startWorkLease input).2 = .ok ⟨input.leaseId, input.renewAtMonotonicMilliseconds,
        input.expiresAtMonotonicMilliseconds⟩ ∧
      SetsLease db (db.startWorkLease input).1 input.sessionId
        (startedLease leaseId input.clock input.expiresAtMonotonicMilliseconds) := by
  simp only [startWorkLease]
  split
  · exact .inl ⟨.refl, _, rfl⟩
  · split
    · exact .inl ⟨.refl, _, rfl⟩
    · next current hcurrent =>
        have hkept := KeepsLeases.of_terminalizeExpired hcurrent
        split
        · exact .inl ⟨.refl, _, rfl⟩
        · next locked hlocked =>
            split
            · exact .inl ⟨hkept, _, rfl⟩
            · split
              · obtain ⟨session, challenge, hsession, -⟩ :=
                  SessionEffect.lockChallengeAndSession_cases hlocked
                split
                · exact .inl ⟨.refl, _, rfl⟩
                · next admitted hadmitted =>
                    obtain ⟨-, -, ceremonyId, hbound⟩ :=
                      SessionEffect.admitTrustedConsent_sessions hsession hadmitted
                    have hadmits := hkept.trans (keepsLeases_admitTrustedConsent hadmitted)
                    split
                    · exact .inl ⟨.refl, _, rfl⟩
                    · exact .inl ⟨.refl, _, rfl⟩
                    · exact .inl ⟨.refl, _, rfl⟩
                    · next started leaseId last renewAt expiresAt hstarted huuid hreadings =>
                        obtain ⟨heq, -, -⟩ := SessionEffect.leaseReadings_eq_ok hreadings
                        cases heq
                        have hsame : started.sessions = admitted.sessions := by
                          split at hstarted
                          · obtain ⟨instant, -, rfl⟩ := map_eq_ok.mp hstarted
                            rfl
                          · cases hstarted
                            rfl
                        have hrow := hbound input.sessionId
                        rw [if_pos rfl, ← hsame] at hrow
                        refine .inr ⟨leaseId, huuid, rfl, ?_⟩
                        exact setsLease_updateRow (hadmits.trans (.of_eq hsame)) hrow
                          (fun row => leaseSession leaseId input.clock.continuityId _ _ _ row) rfl
                          rfl
              · exact .inl ⟨hkept, _, rfl⟩

/-- A renewal that is refused grants nothing.  One that is answered has found its own lease, last
read no later, and moved its end. -/
theorem renewWorkLease_cases (db : AuthorityDatabase) (input : RenewWorkLeaseInput) :
    (KeepsLeases db (db.renewWorkLease input).1 ∧
      ∃ error, (db.renewWorkLease input).2 = .error error) ∨
    ∃ lease last, db.maybeLease input.sessionId = some lease ∧
      lease.leaseId = some input.leaseId ∧ lease.continuityId = some input.clock.continuityId ∧
      lease.last = some last ∧ last ≤ input.clock.monotonicMilliseconds ∧
      (db.renewWorkLease input).2 = .ok ⟨input.leaseId, input.renewAtMonotonicMilliseconds,
        input.expiresAtMonotonicMilliseconds⟩ ∧
      SetsLease db (db.renewWorkLease input).1 input.sessionId
        (renewedLease lease input.clock input.expiresAtMonotonicMilliseconds) := by
  simp only [renewWorkLease]
  split
  · exact .inl ⟨.refl, _, rfl⟩
  · split
    · exact .inl ⟨.refl, _, rfl⟩
    · next current hcurrent =>
        have hkept := KeepsLeases.of_terminalizeExpired hcurrent
        split
        · exact .inl ⟨.refl, _, rfl⟩
        · exact .inl ⟨.refl, _, rfl⟩
        · exact .inl ⟨.refl, _, rfl⟩
        · next session challenge now hsession _ _ =>
            split
            · exact .inl ⟨hkept, _, rfl⟩
            · split
              · exact .inl ⟨hkept, _, rfl⟩
              · next hobserve =>
                  have hleased := SessionEffect.applySessionCommand_observeLease hobserve
                  split
                  · exact .inl ⟨.refl, _, rfl⟩
                  · next leaseId continuityId last expiresAt hcolumns =>
                      split
                      · exact .inl ⟨.refl, _, rfl⟩
                      · next reason _ =>
                          refine .inl ⟨hkept.trans (.of_updateRow (stoppedSession reason) rfl ?_),
                            _, rfl⟩
                          intro row lease hlease
                          simp [SessionRow.maybeLease, stoppedSession] at hlease
                      · next haccepted =>
                          split
                          · exact .inl ⟨.refl, _, rfl⟩
                          · next hreadings =>
                              obtain ⟨heq, -, -⟩ := SessionEffect.leaseReadings_eq_ok hreadings
                              cases heq
                              obtain ⟨hleaseId, hcontinuityId, hlast, -⟩ :=
                                leaseColumns_eq_ok hcolumns
                              obtain ⟨-, hsameLease, hsameBoot, hreading, -⟩ :=
                                observeWorkLease_eq_accepted.mp haccepted
                              refine .inr ⟨session.columns, last, hkept input.sessionId _ ?_, ?_,
                                ?_, ?_, hreading, rfl, ?_⟩
                              · rw [maybeLease, hsession]
                                exact SessionRow.maybeLease_of_leased hleased
                              · exact hleaseId.trans (congrArg some hsameLease)
                              · exact hcontinuityId.trans (congrArg some hsameBoot)
                              · exact hlast
                              · exact setsLease_updateRow hkept hsession
                                  (renewSession _ _ _) rfl
                                  (SessionRow.maybeLease_of_leased hleased)

end AuthorityDatabase

end WorkGate
