/-
# Where sessions come from

A session is registered with a challenge, a pool selection and perhaps a predecessor, and
nothing that happens to it later touches these columns.  Seen through them the sessions are
nodes that succeed one another.
-/

import WorkGate.Authority.Effects
import WorkGate.Failover.Store

namespace WorkGate

open WorkGate.Library

/-- A session as it was registered: the columns that leases and stops do not write. -/
def SessionRow.origin (row : SessionRow) : SessionRow :=
  { AuthorityDatabase.readySession row.challengeId row.poolOfferId row.payoutCommitment with
    materialTrustedConfirmationRequired := row.materialTrustedConfirmationRequired
    replacesSessionId := row.replacesSessionId
    replacementGeneration := row.replacementGeneration
    replacementReason := row.replacementReason }

/-- The columns a session keeps for ever, those of its registration. -/
def SessionRow.registration (row : SessionRow) : SessionRow :=
  { AuthorityDatabase.readySession row.challengeId row.poolOfferId row.payoutCommitment with
    replacesSessionId := row.replacesSessionId
    replacementGeneration := row.replacementGeneration
    replacementReason := row.replacementReason }

/-- A session as a node: it succeeds the session it replaces. -/
def SessionRow.node (row : SessionRow) : Node WorkSessionId ChallengeId where
  group := row.challengeId
  maybePredecessor := row.replacesSessionId
  generation := row.replacementGeneration

/-- Whether a transaction may register a session or ask for its confirmation. -/
def AuthorityRequest.registers : AuthorityRequest → Bool
  | .insertWorkSession _ _ _ | .replaceWorkSession _ _ _
  | .releaseMaterialPoolOfferReplacement _ _ _ => true
  | _ => false

namespace AuthorityDatabase

variable {db after : AuthorityDatabase} {challengeId : ChallengeId} {now : ℕ}

/-- The sessions as they were registered. -/
def origins (db : AuthorityDatabase) (sessionId : WorkSessionId) : Option SessionRow :=
  (db.sessions.lookup sessionId).map SessionRow.origin

/-- The registrations of the sessions. -/
def registrations (db : AuthorityDatabase) (sessionId : WorkSessionId) : Option SessionRow :=
  (db.sessions.lookup sessionId).map SessionRow.registration

/-- Which sessions need a confirmation of their own. -/
def flags (db : AuthorityDatabase) (sessionId : WorkSessionId) : Option Bool :=
  (db.sessions.lookup sessionId).map (·.materialTrustedConfirmationRequired)

/-- The sessions as nodes. -/
def nodes (db : AuthorityDatabase) (sessionId : WorkSessionId) :
    Option (Node WorkSessionId ChallengeId) :=
  (db.sessions.lookup sessionId).map SessionRow.node

theorem registrations_of_origins (h : after.origins = db.origins) :
    after.registrations = db.registrations := by
  funext sessionId
  have hsame := congrArg (Option.map SessionRow.registration) (congrFun h sessionId)
  simp only [origins, Option.map_map] at hsame
  exact hsame

theorem flags_of_origins (h : after.origins = db.origins) : after.flags = db.flags := by
  funext sessionId
  have hsame := congrArg (Option.map SessionRow.materialTrustedConfirmationRequired)
    (congrFun h sessionId)
  simp only [origins, Option.map_map] at hsame
  exact hsame

theorem nodes_eq_map_registrations (db : AuthorityDatabase) (sessionId : WorkSessionId) :
    db.nodes sessionId = (db.registrations sessionId).map SessionRow.node := by
  rw [registrations, Option.map_map]
  rfl

theorem registrations_of_lookup {sessionId : WorkSessionId} {row : SessionRow}
    (hrow : db.sessions.lookup sessionId = some row) :
    db.registrations sessionId = some row.registration := by
  rw [registrations, hrow, Option.map_some]

theorem nodes_of_lookup {sessionId : WorkSessionId} {row : SessionRow}
    (hrow : db.sessions.lookup sessionId = some row) : db.nodes sessionId = some row.node := by
  rw [nodes, hrow, Option.map_some]

theorem registrations_eq_none {sessionId : WorkSessionId} :
    db.registrations sessionId = none ↔ sessionId ∉ db.sessions := by
  rw [registrations, Option.map_eq_none_iff, AList.lookup_eq_none]

theorem mem_sessions_of_registrations (h : after.registrations = db.registrations)
    {sessionId : WorkSessionId} : sessionId ∈ after.sessions ↔ sessionId ∈ db.sessions := by
  rw [← not_iff_not, ← registrations_eq_none, ← registrations_eq_none, h]

/-- A session that is still there, with its registration. -/
theorem lookup_of_registrations {sessionId : WorkSessionId} {row : SessionRow}
    (h : after.registrations sessionId = db.registrations sessionId)
    (hrow : db.sessions.lookup sessionId = some row) :
    ∃ later, after.sessions.lookup sessionId = some later ∧
      later.registration = row.registration := by
  rw [registrations_of_lookup hrow, registrations, Option.map_eq_some_iff] at h
  exact h

/-! ## Transactions that register nothing -/

theorem origins_of_sessions (h : after.sessions = db.sessions) : after.origins = db.origins := by
  funext sessionId
  rw [origins, origins, h]

theorem origins_stopSessions (db : AuthorityDatabase) (challengeId : ChallengeId)
    (reason : SessionStopReason) (fromStates : List SessionLifecycleState) :
    (db.stopSessions challengeId reason fromStates).origins = db.origins := by
  funext sessionId
  rw [origins, origins, lookup_stopSessions, Option.map_map]
  apply congrArg (fun origin => (db.sessions.lookup sessionId).map origin)
  funext row
  show SessionRow.origin (if _ then _ else _) = _
  split
  · rfl
  · rfl

/-- A write that leaves a session's origin alone leaves all of them alone. -/
theorem origins_updateRow (db : AuthorityDatabase) (sessionId : WorkSessionId)
    {write : SessionRow → SessionRow} (hwrite : ∀ row, (write row).origin = row.origin) :
    ({ db with sessions := db.sessions.updateRow sessionId write } : AuthorityDatabase).origins =
      db.origins := by
  funext other
  simp only [origins, Rows.lookup_updateRow_eq]
  split
  · rw [Option.map_map]
    exact congrArg (fun origin => (db.sessions.lookup other).map origin) (funext hwrite)
  · rfl

theorem origins_terminalizeExpired (h : db.terminalizeExpired challengeId now = .ok after) :
    after.origins = db.origins := by
  simp only [terminalizeExpired] at h
  repeat' split at h
  all_goals first
    | cases h; rfl
    | cases h; exact origins_stopSessions _ _ _ _
    | cases h

theorem origins_commitSelected {written : AuthorityDatabase}
    (h : written.origins = db.origins) :
    (commitSelected db written challengeId).1.origins = db.origins := by
  simp only [commitSelected]
  split
  · rfl
  · exact h

theorem origins_challengeLifecycle :
    (db.challengeLifecycle challengeId now).1.origins = db.origins := by
  simp only [challengeLifecycle]
  split
  · rfl
  · next current hcurrent => exact origins_commitSelected (origins_terminalizeExpired hcurrent)

theorem origins_pauseChallenge {reason : PauseReason} :
    (db.pauseChallenge challengeId reason now).1.origins = db.origins := by
  simp only [pauseChallenge]
  split
  · rfl
  · next current hcurrent =>
      have hkept := origins_terminalizeExpired hcurrent
      split
      · rfl
      · split
        · exact hkept
        · apply origins_commitSelected
          exact (origins_stopSessions _ _ _ _).trans hkept

theorem origins_cancelChallenge :
    (db.cancelChallenge challengeId now).1.origins = db.origins := by
  simp only [cancelChallenge]
  split
  · rfl
  · next current hcurrent =>
      have hkept := origins_terminalizeExpired hcurrent
      split
      · rfl
      · split
        · exact hkept
        · split
          · exact origins_commitSelected hkept
          · split
            · rfl
            · apply origins_commitSelected
              exact (origins_stopSessions _ _ _ _).trans hkept

theorem origins_admitTrustedConsent {sessionId : WorkSessionId} {locked : LockedLeaseContext}
    {maybeAdmission : Option TrustedConsentLeaseAdmission}
    (h : db.admitTrustedConsent sessionId locked maybeAdmission now = .ok after) :
    after.origins = db.origins := by
  simp only [admitTrustedConsent, bind, Except.bind] at h
  repeat' split at h
  all_goals first
    | cases h; rfl
    | cases h; exact origins_updateRow _ _ fun _ => rfl
    | cases h

theorem origins_startWorkLease {input : StartWorkLeaseInput} :
    (db.startWorkLease input).1.origins = db.origins := by
  simp only [startWorkLease]
  split
  · rfl
  · split
    · rfl
    · next current hcurrent =>
        have hkept := origins_terminalizeExpired hcurrent
        split
        · rfl
        · split
          · exact hkept
          · split
            · split
              · rfl
              · next admitted hadmitted =>
                  have hadmits := (origins_admitTrustedConsent hadmitted).trans hkept
                  split
                  · rfl
                  · rfl
                  · rfl
                  · next started leaseId last renewAt expiresAt hstarted huuid hreadings =>
                      have hstarts : started.sessions = admitted.sessions := by
                        split at hstarted
                        · obtain ⟨instant, -, rfl⟩ := map_eq_ok.mp hstarted
                          rfl
                        · cases hstarted
                          rfl
                      rw [← hadmits, ← origins_of_sessions hstarts]
                      exact origins_updateRow _ _ fun _ => rfl
            · exact hkept

theorem origins_renewWorkLease {input : RenewWorkLeaseInput} :
    (db.renewWorkLease input).1.origins = db.origins := by
  simp only [renewWorkLease]
  split
  · rfl
  · split
    · rfl
    · next current hcurrent =>
        have hkept := origins_terminalizeExpired hcurrent
        repeat' split
        all_goals first
          | rfl
          | exact hkept
          | rw [← hkept]; exact origins_updateRow _ _ fun _ => rfl

theorem origins_applyToSession {sessionId : WorkSessionId} {command : SessionLifecycleCommand}
    {write : SessionRow → SessionRow} (hwrite : ∀ row, (write row).origin = row.origin) :
    (db.applyToSession sessionId command write).1.origins = db.origins := by
  simp only [applyToSession]
  repeat' split
  all_goals first
    | rfl
    | exact origins_updateRow _ _ hwrite

theorem origins_recordAcceptance {event : AcceptedWorkEvent} {challenge : ChallengeRow}
    {transition : AcceptedWorkTransition} {passUuid : String}
    (h : db.recordAcceptance event challengeId challenge transition passUuid = .ok after) :
    after.origins = db.origins := by
  obtain ⟨-, ⟨-, hsessions⟩ | ⟨-, hsessions⟩⟩ := SessionEffect.recordAcceptance_sessions h
  · exact (origins_of_sessions hsessions).trans (origins_stopSessions _ _ _ _)
  · exact origins_of_sessions hsessions

theorem origins_acceptWork {event : AcceptedWorkEvent} {leaseId : String} {clock : WorkerClock}
    {passUuid : String} : (db.acceptWork event leaseId clock now passUuid).1.origins =
      db.origins := by
  simp only [acceptWork]
  repeat' split
  all_goals first
    | rfl
    | exact origins_stopSessions _ _ _ _
    | exact origins_updateRow _ _ fun _ => rfl
    | exact origins_recordAcceptance ‹_›

/-- Only a registration or a release writes the origin of a session. -/
theorem origins_step (db : AuthorityDatabase) {request : AuthorityRequest}
    (hother : request.registers = false) : (authorityStep db request).1.origins = db.origins := by
  cases request with
  | insertWorkSession => cases hother
  | replaceWorkSession => cases hother
  | releaseMaterialPoolOfferReplacement => cases hother
  | insertChallenge new =>
      simp only [authorityStep, answer, insertChallenge]
      repeat' split
      all_goals rfl
  | proposePoolSelection selected poolOfferId payoutCommitment now =>
      simp only [authorityStep, answer, proposePoolSelection]
      repeat' split
      all_goals rfl
  | confirmPoolSelection selected payoutCommitment now =>
      simp only [authorityStep, answer, confirmPoolSelection]
      repeat' split
      all_goals rfl
  | challengeLifecycle selected now => exact origins_challengeLifecycle
  | pauseChallenge selected reason now => exact origins_pauseChallenge
  | cancelChallenge selected now => exact origins_cancelChallenge
  | startWorkLease input => exact origins_startWorkLease
  | renewWorkLease input => exact origins_renewWorkLease
  | interruptWorkSession sessionId interruption =>
      exact origins_applyToSession fun _ => rfl
  | confirmWorkSessionRestored sessionId => exact origins_applyToSession fun _ => rfl
  | failWorkSession sessionId => exact origins_applyToSession fun _ => rfl
  | consumeIssuanceProof selected proofId expiresAt now =>
      simp only [authorityStep, answer, consumeIssuanceProof]
      repeat' split
      all_goals rfl
  | consentTables ceremonies replacements => rfl
  | acceptWork event leaseId clock now passUuid => exact origins_acceptWork
  | maybeClaimIssuance workerId now leaseExpiresAt locked =>
      simp only [authorityStep, answer, maybeClaimIssuance]
      repeat' split
      all_goals rfl
  | completeIssuance workerId completed clock =>
      simp only [authorityStep, answer, completeIssuance]
      repeat' split
      all_goals rfl

end AuthorityDatabase

end WorkGate
