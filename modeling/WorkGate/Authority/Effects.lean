/-
# What a transaction does to the sessions

A dozen transactions write sessions, challenges or both.  `SessionEffect` says once
what each can do to a session, to the pool selections and to whether a challenge is
still worked on; every invariant of the sessions is read off it.  The point that
needs care is expiry: a transaction that finds the deadline passed ends the
challenge, and then does nothing else.
-/

import WorkGate.Library.Results
import WorkGate.Authority.Accounting

namespace WorkGate

open WorkGate.Library

namespace AuthorityDatabase

/-! ## Challenges a session may be worked under -/

/-- No challenge that was worked on stops being so. -/
def KeepsWork (db after : AuthorityDatabase) : Prop :=
  ∀ challengeId row, db.challenges.lookup challengeId = some row →
    ∃ later, after.challenges.lookup challengeId = some later ∧
      (challengeAcceptsWork row.lifecycleState = true →
        challengeAcceptsWork later.lifecycleState = true) ∧
      (challengeAcceptsWorkControl row.lifecycleState = true →
        challengeAcceptsWorkControl later.lifecycleState = true)

theorem KeepsWork.refl (db : AuthorityDatabase) : KeepsWork db db :=
  fun _ row hrow => ⟨row, hrow, id, id⟩

theorem KeepsWork.of_eq {db after : AuthorityDatabase} (h : after.challenges = db.challenges) :
    KeepsWork db after :=
  fun _ row hrow => ⟨row, by rw [h, hrow], id, id⟩

/-- A challenge that reached its requirement is no longer worked on. -/
def ClosedWhenSatisfied (db : AuthorityDatabase) : Prop :=
  ∀ challengeId row, db.challenges.lookup challengeId = some row → row.satisfied = true →
    challengeAcceptsWorkControl row.lifecycleState = false

/-! ## Writes of one session -/

/-- The columns a started lease writes. -/
def leaseSession (leaseId continuityId : String) (last renewAt expiresAt : ℕ) (row : SessionRow) :
    SessionRow :=
  { row with
    lifecycleState := .leased
    leaseId := some leaseId
    continuityId := some continuityId
    lastMonotonicMilliseconds := some last
    leaseStartedAtMonotonicMilliseconds := some last
    renewAtMonotonicMilliseconds := some renewAt
    expiresAtMonotonicMilliseconds := some expiresAt
    stopReason := none }

/-- The columns a renewal writes. -/
def renewSession (last renewAt expiresAt : ℕ) (row : SessionRow) : SessionRow :=
  { row with
    lastMonotonicMilliseconds := some last
    renewAtMonotonicMilliseconds := some renewAt
    expiresAtMonotonicMilliseconds := some expiresAt }

/-- What one transaction writes into a session that exists, except the start of a lease. -/
inductive SessionWrite (row : SessionRow) : SessionRow → Prop
  | stop (reason : SessionStopReason)
      (hstate : row.lifecycleState = .ready ∨ row.lifecycleState = .leased) :
      SessionWrite row (stoppedSession reason row)
  | renew (hstate : row.lifecycleState = .leased) {last renewAt expiresAt : ℕ}
      (hlast : last < renewAt) (hrenew : renewAt < expiresAt) :
      SessionWrite row (renewSession last renewAt expiresAt row)
  | restore (hstate : row.lifecycleState = .stopping) :
      SessionWrite row { row with lifecycleState := .restored }
  | fail : SessionWrite row { stoppedSession .sessionFailed row with lifecycleState := .failed }
  | reconfirm : SessionWrite row { row with materialTrustedConfirmationRequired := true }

/-- A session nobody has leased yet: only its replacement columns, and whether it must be
confirmed again, are left open. -/
def IsReadySession (row : SessionRow) : Prop :=
  ∃ material replaces generation reason, row =
    { readySession row.challengeId row.poolOfferId row.payoutCommitment with
      materialTrustedConfirmationRequired := material
      replacesSessionId := replaces
      replacementGeneration := generation
      replacementReason := reason }

/-- Where a new session has its pool selection from: the consented one of its challenge,
or the session it replaces. -/
def RegisteredUnder (db : AuthorityDatabase) (row : SessionRow) : Prop :=
  (∃ selection, db.poolSelections.lookup row.challengeId = some selection ∧
    selection.status = .consented ∧ row.poolOfferId = selection.poolOfferId ∧
    row.payoutCommitment = selection.payoutCommitment) ∨
  ∃ replacedId replaced, db.sessions.lookup replacedId = some replaced ∧
    row.challengeId = replaced.challengeId ∧ row.poolOfferId = replaced.poolOfferId ∧
    row.payoutCommitment = replaced.payoutCommitment

/-- A statement that leaves one session as `row` and the others alone. -/
def SetsSession (db after : AuthorityDatabase) (sessionId : WorkSessionId) (row : SessionRow) :
    Prop :=
  ∀ other, after.sessions.lookup other =
    if other = sessionId then some row else db.sessions.lookup other

/-- Updating the row of a session sets it. -/
theorem setsSession_updateRow {db after : AuthorityDatabase} {sessionId : WorkSessionId}
    {row : SessionRow} (hrow : db.sessions.lookup sessionId = some row)
    (write : SessionRow → SessionRow) (hafter : after.sessions = db.sessions.updateRow sessionId
      write) : SetsSession db after sessionId (write row) := by
  intro other
  rw [hafter, Rows.lookup_updateRow_eq]
  split
  · next heq =>
      subst heq
      rw [hrow, Option.map_some]
  · rfl

/-! ## Transactions -/

/-- What one committed transaction does to sessions, pool selections and the challenges
they are worked under. -/
inductive SessionEffect (db : AuthorityDatabase) : AuthorityDatabase → Prop
  | keeps {after : AuthorityDatabase} (hsessions : after.sessions = db.sessions)
      (hselections : after.poolSelections = db.poolSelections) (hwork : KeepsWork db after) :
      SessionEffect db after
  | proposes {after : AuthorityDatabase} (challengeId : ChallengeId) (selection : SelectionRow)
      (hfree : ∀ old, db.poolSelections.lookup challengeId = some old → old.status = .proposed)
      (hproposed : selection.status = .proposed)
      (hselections : ∀ other, after.poolSelections.lookup other =
        if other = challengeId then some selection else db.poolSelections.lookup other)
      (hsessions : after.sessions = db.sessions) (hchallenges : after.challenges = db.challenges) :
      SessionEffect db after
  | consents {after : AuthorityDatabase} {challengeId : ChallengeId} {old : SelectionRow}
      (selection : SelectionRow) (hold : db.poolSelections.lookup challengeId = some old)
      (hproposed : old.status = .proposed)
      (hconsented : selection.status = .consented) (hoffer : selection.poolOfferId =
        old.poolOfferId) (hpayout : selection.payoutCommitment = old.payoutCommitment)
      (hselections : ∀ other, after.poolSelections.lookup other =
        if other = challengeId then some selection else db.poolSelections.lookup other)
      (hsessions : after.sessions = db.sessions) (hchallenges : after.challenges = db.challenges) :
      SessionEffect db after
  | closes {after : AuthorityDatabase} {challengeId : ChallengeId} {reason : SessionStopReason}
      (hsessions : after.sessions =
        (db.stopSessions challengeId reason [.ready, .leased]).sessions)
      (hselections : after.poolSelections = db.poolSelections)
      (hothers : ∀ other, other ≠ challengeId →
        after.challenges.lookup other = db.challenges.lookup other)
      (hkept : challengeId ∈ after.challenges) : SessionEffect db after
  | pauses {challengeId : ChallengeId} (reason : SessionStopReason) :
      SessionEffect db (db.stopSessions challengeId reason [.leased])
  | registers {after : AuthorityDatabase} {sessionId : WorkSessionId} {challenge : ChallengeRow}
      (row : SessionRow) (hfresh : sessionId ∉ db.sessions) (hready : IsReadySession row)
      (hchallenge : db.challenges.lookup row.challengeId = some challenge)
      (hopen : challengeAcceptsWorkControl challenge.lifecycleState = true)
      (hunder : RegisteredUnder db row) (hsets : SetsSession db after sessionId row)
      (hselections : after.poolSelections = db.poolSelections)
      (hchallenges : after.challenges = db.challenges) : SessionEffect db after
  | leases {after : AuthorityDatabase} {sessionId : WorkSessionId} {row : SessionRow}
      {challenge : ChallengeRow} {last renewAt expiresAt : ℕ} (leaseId continuityId : String)
      (maybeCeremonyId : Option String) (hrow : db.sessions.lookup sessionId = some row)
      (hstart : row.lifecycleState = .ready ∨ row.lifecycleState = .restored)
      (hlast : last < renewAt) (hrenew : renewAt < expiresAt)
      (hactive : after.challenges.lookup row.challengeId = some challenge ∧
        challenge.lifecycleState = .active)
      (hsets : SetsSession db after sessionId (leaseSession leaseId continuityId last renewAt
        expiresAt { row with trustedConsentCeremonyId := maybeCeremonyId }))
      (hselections : after.poolSelections = db.poolSelections) (hwork : KeepsWork db after) :
      SessionEffect db after
  | writes {after : AuthorityDatabase} {sessionId : WorkSessionId} {row written : SessionRow}
      (hrow : db.sessions.lookup sessionId = some row) (hwrite : SessionWrite row written)
      (hsets : SetsSession db after sessionId written)
      (hselections : after.poolSelections = db.poolSelections)
      (hchallenges : after.challenges = db.challenges) : SessionEffect db after

/-! ## Expiry -/

/-- Ending a challenge together with its ready and leased sessions. -/
theorem SessionEffect.of_setLifecycle {db : AuthorityDatabase} {challengeId : ChallengeId}
    {row : ChallengeRow} (hrow : db.challenges.lookup challengeId = some row)
    (state : ChallengeLifecycleState) (changedAt : ℕ) (terminalAt : Option ℕ → Option ℕ)
    (reason : SessionStopReason) :
    SessionEffect db ((db.setLifecycle challengeId state changedAt terminalAt).stopSessions
      challengeId reason [.ready, .leased]) := by
  refine .closes rfl rfl (fun other hne => Rows.lookup_updateRow_ne hne _ _) ?_
  exact Rows.mem_updateRow.mpr (Rows.mem_of_lookup hrow)

theorem lookup_stopSessions (db : AuthorityDatabase) (challengeId : ChallengeId)
    (reason : SessionStopReason) (fromStates : List SessionLifecycleState)
    (sessionId : WorkSessionId) :
    (db.stopSessions challengeId reason fromStates).sessions.lookup sessionId =
      (db.sessions.lookup sessionId).map fun row =>
        if row.challengeId = challengeId ∧ row.lifecycleState ∈ fromStates then
          stoppedSession reason row
        else row :=
  Rows.lookup_mapRows _ _ _

/-- What a transaction finds after it expired the challenge: nothing left to work on. -/
structure ExpiresChallenge (db after : AuthorityDatabase) (challengeId : ChallengeId) : Prop where
  effect : SessionEffect db after
  challenge : ∀ row, after.challenges.lookup challengeId = some row →
    row.lifecycleState = .expired
  sessions : ∀ sessionId row, after.sessions.lookup sessionId = some row →
    row.challengeId = challengeId → row.lifecycleState ≠ .ready ∧ row.lifecycleState ≠ .leased

theorem terminalizeExpired_cases {db after : AuthorityDatabase} {challengeId : ChallengeId}
    {now : ℕ} (h : db.terminalizeExpired challengeId now = .ok after) :
    after = db ∨ ExpiresChallenge db after challengeId := by
  simp only [terminalizeExpired] at h
  split at h
  · cases h
  · next row hrow =>
      split at h
      · cases h
      · split at h
        · cases h
          exact .inl rfl
        · split at h
          · cases h
            exact .inl rfl
          · cases h
          · split at h
            · cases h
              exact .inl rfl
            · split at h
              · cases h
              · next instant hinstant =>
                  cases h
                  refine .inr ⟨.of_setLifecycle hrow _ _ _ _, ?_, ?_⟩
                  · intro found hfound
                    simp only [stopSessions, setLifecycle, Rows.lookup_updateRow, hrow,
                      Option.map_some, Option.some.injEq] at hfound
                    rw [← hfound]
                  · intro sessionId found hfound hsame
                    rw [lookup_stopSessions, Option.map_eq_some_iff] at hfound
                    obtain ⟨old, -, rfl⟩ := hfound
                    split
                    · simp [stoppedSession]
                    · next hkept =>
                        rw [if_neg hkept] at hsame
                        simpa [hsame] using hkept

namespace SessionEffect

variable {db : AuthorityDatabase} {challengeId : ChallengeId} {now : ℕ}

theorem refl : SessionEffect db db := .keeps rfl rfl (.refl db)

theorem of_commitSelected {written : AuthorityDatabase} (hwritten : SessionEffect db written) :
    SessionEffect db (commitSelected db written challengeId).1 := by
  simp only [commitSelected]
  split
  · exact refl
  · exact hwritten

/-- Expiry alone. -/
theorem of_terminalizeExpired {after : AuthorityDatabase}
    (h : db.terminalizeExpired challengeId now = .ok after) : SessionEffect db after := by
  rcases terminalizeExpired_cases h with rfl | hexpires
  · exact refl
  · exact hexpires.effect

theorem of_challengeLifecycle : SessionEffect db (db.challengeLifecycle challengeId now).1 := by
  simp only [challengeLifecycle]
  split
  · exact refl
  · next current hcurrent => exact of_commitSelected (of_terminalizeExpired hcurrent)

theorem of_pauseChallenge {reason : PauseReason} :
    SessionEffect db (db.pauseChallenge challengeId reason now).1 := by
  simp only [pauseChallenge]
  split
  · exact refl
  · next current hcurrent =>
      split
      · exact refl
      · next row hrow =>
          split
          · exact of_terminalizeExpired hcurrent
          · next target htarget =>
              rcases terminalizeExpired_cases hcurrent with rfl | hexpires
              · exact of_commitSelected (.pauses reason.stopReason)
              · rw [hexpires.challenge row hrow] at htarget
                cases htarget

theorem of_cancelChallenge : SessionEffect db (db.cancelChallenge challengeId now).1 := by
  simp only [cancelChallenge]
  split
  · exact refl
  · next current hcurrent =>
      split
      · exact refl
      · next row hrow =>
          split
          · exact of_terminalizeExpired hcurrent
          · next target htarget =>
              split
              · exact of_commitSelected (of_terminalizeExpired hcurrent)
              · split
                · exact refl
                · rcases terminalizeExpired_cases hcurrent with rfl | hexpires
                  · exact of_commitSelected (.of_setLifecycle hrow _ _ _ _)
                  · rw [hexpires.challenge row hrow] at htarget
                    cases htarget

/-! ## Leases -/

theorem leaseReadings_eq_ok {last renewAt expiresAt : ℕ} {readings : ℕ × ℕ × ℕ}
    (h : leaseReadings last renewAt expiresAt = .ok readings) :
    readings = (last, renewAt, expiresAt) ∧ last < renewAt ∧ renewAt < expiresAt := by
  simp only [leaseReadings, bind, Except.bind] at h
  split at h
  · cases h
  · next last' hlast =>
      split at h
      · cases h
      · next renewAt' hrenewAt =>
          split at h
          · cases h
          · next expiresAt' hexpiresAt =>
              obtain ⟨rfl, -⟩ := unixSecondsToI64_eq_ok hlast
              obtain ⟨rfl, -⟩ := unixSecondsToI64_eq_ok hrenewAt
              obtain ⟨rfl, -⟩ := unixSecondsToI64_eq_ok hexpiresAt
              split at h
              · next hordered =>
                  cases h
                  exact ⟨rfl, hordered⟩
              · cases h

/-- Admitting a receipt binds its ceremony to the session, and nothing else. -/
theorem admitTrustedConsent_sessions {after : AuthorityDatabase} {sessionId : WorkSessionId}
    {row : SessionRow} (hrow : db.sessions.lookup sessionId = some row)
    {locked : LockedLeaseContext} {maybeAdmission : Option TrustedConsentLeaseAdmission}
    (h : db.admitTrustedConsent sessionId locked maybeAdmission now = .ok after) :
    after.poolSelections = db.poolSelections ∧ after.challenges = db.challenges ∧
      ∃ maybeCeremonyId, SetsSession db after sessionId
        { row with trustedConsentCeremonyId := maybeCeremonyId } := by
  have hunbound : SetsSession db db sessionId row := by
    intro other
    split
    · next heq =>
        subst heq
        exact hrow
    · rfl
  simp only [admitTrustedConsent, bind, Except.bind] at h
  repeat' split at h
  all_goals first
    | cases h; exact ⟨rfl, rfl, _, hunbound⟩
    | cases h; exact ⟨rfl, rfl, some _, setsSession_updateRow hrow
        (fun row => { row with trustedConsentCeremonyId := some _ }) rfl⟩
    | cases h

theorem lockChallengeAndSession_cases {sessionId : WorkSessionId} {locked : LockedLeaseContext}
    (h : db.lockChallengeAndSession sessionId = .ok locked) :
    ∃ session challenge, db.sessions.lookup sessionId = some session ∧
      db.challenges.lookup session.challengeId = some challenge ∧
      locked.challengeState = challenge.lifecycleState ∧
      locked.sessionState = session.lifecycleState := by
  simp only [lockChallengeAndSession] at h
  split at h
  · cases h
  · next session hsession =>
      split at h
      · cases h
      · next challenge hchallenge =>
          cases h
          exact ⟨session, challenge, hsession, hchallenge, rfl, rfl⟩

theorem applySessionCommand_startLease {state target : SessionLifecycleState}
    (h : applySessionCommand state .startLease = .ok target) :
    state = .ready ∨ state = .restored := by
  cases state <;> simp_all [applySessionCommand]

theorem applySessionCommand_observeLease {state target : SessionLifecycleState}
    (h : applySessionCommand state .observeLease = .ok target) : state = .leased := by
  cases state <;> simp_all [applySessionCommand]

/-- Activating a challenge keeps every challenge worked on. -/
theorem keepsWork_activate {written : AuthorityDatabase} (challengeId : ChallengeId)
    (changedAt : ℕ) (hwritten : written.challenges =
      (db.setLifecycle challengeId .active changedAt id).challenges) : KeepsWork db written := by
  intro other row hrow
  rw [hwritten, setLifecycle, Rows.lookup_updateRow_eq]
  split
  · next heq =>
      subst heq
      rw [hrow, Option.map_some]
      exact ⟨_, rfl, fun _ => rfl, fun _ => rfl⟩
  · exact ⟨row, hrow, id, id⟩

theorem of_startWorkLease {input : StartWorkLeaseInput} :
    SessionEffect db (db.startWorkLease input).1 := by
  simp only [startWorkLease]
  split
  · exact refl
  · next found hfound =>
      split
      · exact refl
      · next current hcurrent =>
          have hexpiry := of_terminalizeExpired hcurrent
          split
          · exact refl
          · next locked hlocked =>
              split
              · exact hexpiry
              · split
                · next target _ htarget hsessionTarget =>
                    obtain ⟨session, challenge, hsession, hchallenge, hstate, hsessionState⟩ :=
                      lockChallengeAndSession_cases hlocked
                    rw [hstate] at htarget
                    rw [hsessionState] at hsessionTarget
                    obtain ⟨rfl, -⟩ := applyChallengeCommand_startWork htarget
                    have hstart := applySessionCommand_startLease hsessionTarget
                    rcases terminalizeExpired_cases hcurrent with rfl | hexpires
                    · rw [hsession, Option.some.injEq] at hfound
                      subst hfound
                      split
                      · exact refl
                      · next admitted hadmitted =>
                          obtain ⟨hselections, hchallenges, ceremonyId, hbound⟩ :=
                            admitTrustedConsent_sessions hsession hadmitted
                          split
                          · exact refl
                          · exact refl
                          · exact refl
                          · next started leaseId last renewAt expiresAt hstarted _ hreadings =>
                              obtain ⟨heq, hlast, hrenew⟩ := leaseReadings_eq_ok hreadings
                              cases heq
                              obtain ⟨hsame, hselected, hactive, hwork⟩ :
                                  started.sessions = admitted.sessions ∧
                                  started.poolSelections = admitted.poolSelections ∧
                                  (∃ later, started.challenges.lookup session.challengeId =
                                    some later ∧ later.lifecycleState = .active) ∧
                                  KeepsWork current started := by
                                split at hstarted
                                · next hchanged =>
                                    cases hinstant : checkedInstant input.nowUnixSeconds with
                                    | error error =>
                                        rw [hinstant] at hstarted
                                        cases hstarted
                                    | ok instant =>
                                        rw [hinstant] at hstarted
                                        cases hstarted
                                        rw [hstate] at hchanged
                                        refine ⟨rfl, rfl, ?_, keepsWork_activate
                                          session.challengeId instant
                                          (by simp only [setLifecycle, hchallenges])⟩
                                        simp only [setLifecycle, Rows.lookup_updateRow,
                                          hchallenges, hchallenge, Option.map_some]
                                        exact ⟨_, rfl, rfl⟩
                                · next hkept =>
                                    cases hstarted
                                    rw [not_not, hstate] at hkept
                                    exact ⟨rfl, rfl,
                                      ⟨challenge, by rw [hchallenges, hchallenge], hkept.symm⟩,
                                      .of_eq hchallenges⟩
                              obtain ⟨later, hlater, hlaterActive⟩ := hactive
                              refine .leases leaseId input.clock.continuityId ceremonyId hsession
                                hstart hlast hrenew ⟨hlater, hlaterActive⟩ ?_
                                (hselected.trans hselections) hwork
                              intro other
                              simp only [hsame, commit, Rows.lookup_updateRow_eq]
                              rw [hbound other]
                              split
                              · rfl
                              · rfl
                    · have hsame :=
                        LifecycleMoves.challengeId_terminalizeExpired hcurrent input.sessionId
                      rw [hsession, hfound, Option.map_some, Option.map_some,
                        Option.some.injEq] at hsame
                      rw [hexpires.challenge challenge (hsame ▸ hchallenge)] at htarget
                      cases htarget
                · exact hexpiry

theorem of_renewWorkLease {input : RenewWorkLeaseInput} :
    SessionEffect db (db.renewWorkLease input).1 := by
  simp only [renewWorkLease]
  split
  · exact refl
  · next found hfound =>
      split
      · exact refl
      · next current hcurrent =>
          have hexpiry := of_terminalizeExpired hcurrent
          split
          · exact refl
          · exact refl
          · exact refl
          · next session challenge now hsession hchallenge _ =>
              split
              · exact hexpiry
              · split
                · exact hexpiry
                · next hobserve =>
                    have hleased := applySessionCommand_observeLease hobserve
                    rcases terminalizeExpired_cases hcurrent with rfl | hexpires
                    · split
                      · exact refl
                      · split
                        · exact refl
                        · next reason _ =>
                            exact .writes hsession (.stop reason (.inr hleased))
                              (setsSession_updateRow hsession (stoppedSession reason) rfl) rfl rfl
                        · split
                          · exact refl
                          · next last renewAt expiresAt hreadings =>
                              obtain ⟨heq, hlast, hrenew⟩ := leaseReadings_eq_ok hreadings
                              cases heq
                              exact .writes hsession (.renew hleased hlast hrenew)
                                (setsSession_updateRow hsession (renewSession _ _ _) rfl) rfl rfl
                    · have hsame :=
                        LifecycleMoves.challengeId_terminalizeExpired hcurrent input.sessionId
                      rw [hsession, hfound, Option.map_some, Option.map_some,
                        Option.some.injEq] at hsame
                      exact absurd hleased (hexpires.sessions _ session hsession hsame).2

theorem of_interruptWorkSession {sessionId : WorkSessionId} {interruption : WorkerInterruption} :
    SessionEffect db (db.interruptWorkSession sessionId interruption).1 := by
  simp only [interruptWorkSession, applyToSession]
  split
  · exact refl
  · next session hsession =>
      split
      · exact refl
      · next target htarget =>
          split
          · exact refl
          · next hchanged =>
              refine .writes hsession (.stop interruption.stopReason ?_)
                (setsSession_updateRow hsession (stoppedSession _) rfl) rfl rfl
              revert htarget hchanged
              cases session.lifecycleState <;> simp [applySessionCommand]
              rintro rfl
              simp

theorem of_confirmWorkSessionRestored {sessionId : WorkSessionId} :
    SessionEffect db (db.confirmWorkSessionRestored sessionId).1 := by
  simp only [confirmWorkSessionRestored, applyToSession]
  split
  · exact refl
  · next session hsession =>
      split
      · exact refl
      · next target htarget =>
          split
          · exact refl
          · next hchanged =>
              refine .writes hsession (.restore ?_) (setsSession_updateRow hsession
                (fun row => { row with lifecycleState := .restored }) rfl) rfl rfl
              revert htarget hchanged
              cases session.lifecycleState <;> simp [applySessionCommand]
              rintro rfl
              simp

theorem of_failWorkSession {sessionId : WorkSessionId} :
    SessionEffect db (db.failWorkSession sessionId).1 := by
  simp only [failWorkSession, applyToSession]
  split
  · exact refl
  · next session hsession =>
      split
      · exact refl
      · split
        · exact refl
        · exact .writes hsession .fail (setsSession_updateRow hsession (fun row =>
            { stoppedSession .sessionFailed row with lifecycleState := .failed }) rfl) rfl rfl

/-! ## Selections and registrations -/

theorem of_proposePoolSelection {poolOfferId payoutCommitment : String} :
    SessionEffect db (db.proposePoolSelection challengeId poolOfferId payoutCommitment now).1 := by
  simp only [proposePoolSelection]
  split
  · exact refl
  · next instant _ =>
      split
      · exact refl
      · split
        · next hnone =>
            refine .proposes challengeId _ ?_ rfl (Rows.lookup_insert_eq challengeId · _ _) rfl rfl
            intro old hold
            rw [hnone] at hold
            cases hold
        · next existing hexisting =>
            split
            · next hproposed =>
                refine .proposes challengeId { existing with
                  poolOfferId := poolOfferId
                  payoutCommitment := payoutCommitment
                  selectedAtUnixSeconds := instant } ?_ hproposed ?_ rfl rfl
                · intro old hold
                  rw [hexisting] at hold
                  cases hold
                  exact hproposed
                · intro other
                  simp only [commit, Rows.lookup_updateRow_eq]
                  split
                  · next heq =>
                      subst heq
                      rw [hexisting, Option.map_some]
                  · rfl
            · split
              · exact refl
              · exact refl

theorem of_confirmPoolSelection {payoutCommitment : String} :
    SessionEffect db (db.confirmPoolSelection challengeId payoutCommitment now).1 := by
  simp only [confirmPoolSelection]
  split
  · exact refl
  · next instant _ =>
      split
      · exact refl
      · next existing hexisting =>
          split
          · exact refl
          · split
            · exact refl
            · next hstatus =>
                split
                · exact refl
                · have hproposed : existing.status = .proposed := by
                    revert hstatus
                    cases existing.status <;> simp
                  refine .consents { existing with
                    status := .consented
                    consentedAtUnixSeconds := some instant } hexisting hproposed rfl rfl rfl ?_
                    rfl rfl
                  intro other
                  simp only [commit, Rows.lookup_updateRow_eq]
                  split
                  · next heq =>
                      subst heq
                      rw [hexisting, Option.map_some]
                  · rfl

/-- Lifecycle control takes a session exactly while it still takes work. -/
theorem applyChallengeCommand_registerSession {state target : ChallengeLifecycleState}
    (h : applyChallengeCommand state .registerSession = .ok target) :
    challengeAcceptsWorkControl state = true := by
  cases state <;> simp_all [applyChallengeCommand, challengeAcceptsWorkControl]

theorem lockOpenChallenge_eq_ok {command : ChallengeLifecycleCommand} {instant : ℕ}
    (h : db.lockOpenChallenge challengeId now command = .ok instant) :
    ∃ challenge target, db.challenges.lookup challengeId = some challenge ∧
      applyChallengeCommand challenge.lifecycleState command = .ok target := by
  simp only [lockOpenChallenge] at h
  split at h
  · cases h
  · next challenge hchallenge =>
      split at h
      · cases h
      · next target htarget => exact ⟨challenge, target, hchallenge, htarget⟩

theorem of_insertWorkSession {sessionId : WorkSessionId} :
    SessionEffect db (db.insertWorkSession challengeId sessionId now).1 := by
  simp only [insertWorkSession]
  split
  · exact refl
  · next instant hlocked =>
      obtain ⟨challenge, target, hchallenge, htarget⟩ := lockOpenChallenge_eq_ok hlocked
      split
      · exact refl
      · next selection hselection =>
          split
          · exact refl
          · next hconsented =>
              rw [not_not] at hconsented
              split
              · exact refl
              · split
                · exact refl
                · next hfresh =>
                    exact .registers _ hfresh ⟨_, _, _, _, rfl⟩ hchallenge
                      (applyChallengeCommand_registerSession htarget)
                      (.inl ⟨selection, hselection, hconsented, rfl, rfl⟩)
                      (Rows.lookup_insert_eq sessionId · _ _) rfl rfl

theorem replacementFromRow_sessionId {sessionId : WorkSessionId} {row : SessionRow}
    {replacement : SessionReplacement} (h : replacementFromRow sessionId row = .ok replacement) :
    replacement.sessionId = sessionId := by
  simp only [replacementFromRow, SessionReplacement.persisted] at h
  split at h
  · split at h
    · cases h
    · cases h
      rfl
  · cases h

/-- A replacement either finds the session it registered before, or registers one with the
selection of the session it replaces. -/
theorem replaceWorkSessionInTransaction_cases {after : AuthorityDatabase}
    {replacedSessionId sessionId : WorkSessionId} {allowMaterialPending : Bool}
    {replacement : SessionReplacement}
    (h : db.replaceWorkSessionInTransaction replacedSessionId sessionId now allowMaterialPending =
      .ok (after, replacement)) :
    (after = db ∧ sessionId ∈ db.sessions) ∨
    ∃ row challenge, after = { db with sessions := db.sessions.insert sessionId row } ∧
      sessionId ∉ db.sessions ∧ IsReadySession row ∧
      db.challenges.lookup row.challengeId = some challenge ∧
      challengeAcceptsWorkControl challenge.lifecycleState = true ∧ RegisteredUnder db row := by
  simp only [replaceWorkSessionInTransaction, bind, Except.bind, pure, Except.pure] at h
  split at h
  · cases h
  · next replaced hreplaced =>
      split at h
      · cases h
      · next challenge hchallenge =>
          obtain ⟨-, h⟩ := guard_eq_ok h
          obtain ⟨-, h⟩ := guard_eq_ok h
          split at h
          · next existing hexisting =>
              split at h
              · cases h
              · next found hfound =>
                  obtain ⟨hsame, h⟩ := guard_eq_ok h
                  cases h
                  rw [not_not] at hsame
                  refine .inl ⟨rfl, ?_⟩
                  rw [← hsame, replacementFromRow_sessionId hfound]
                  exact Rows.mem_of_lookup
                    (Rows.mem_entries_iff.mp (List.mem_of_find?_eq_some hexisting))
          · split at h
            · cases h
            · next reason _ =>
                obtain ⟨-, h⟩ := guard_eq_ok h
                split at h
                · cases h
                · next target htarget =>
                    split at h
                    · cases h
                    · obtain ⟨-, h⟩ := guard_eq_ok h
                      obtain ⟨hfresh, h⟩ := guard_eq_ok h
                      split at h
                      · cases h
                      · cases h
                        exact .inr ⟨_, challenge, rfl, hfresh, ⟨_, _, _, _, rfl⟩, hchallenge,
                          applyChallengeCommand_registerSession htarget,
                          .inr ⟨_, replaced, hreplaced, rfl, rfl, rfl⟩⟩

theorem of_replaceWorkSession {replacedSessionId sessionId : WorkSessionId} :
    SessionEffect db (db.replaceWorkSession replacedSessionId sessionId now).1 := by
  simp only [replaceWorkSession]
  split
  · exact refl
  · next written replacement hreplaced =>
      rcases replaceWorkSessionInTransaction_cases hreplaced with
        ⟨rfl, -⟩ | ⟨row, challenge, rfl, hfresh, hready, hchallenge, hopen, hunder⟩
      · exact refl
      · exact .registers row hfresh hready hchallenge hopen hunder
          (Rows.lookup_insert_eq sessionId · _ _) rfl rfl

theorem of_releaseMaterialPoolOfferReplacement
    {replacedSessionId candidateSessionId : WorkSessionId} :
    SessionEffect db
      (db.releaseMaterialPoolOfferReplacement replacedSessionId candidateSessionId now).1 := by
  simp only [releaseMaterialPoolOfferReplacement]
  split
  · exact refl
  · next written replacement hreplaced =>
      rcases replaceWorkSessionInTransaction_cases hreplaced with
        ⟨rfl, hknown⟩ | ⟨row, challenge, rfl, hfresh, hready, hchallenge, hopen, hunder⟩
      · obtain ⟨row, hrow⟩ := Rows.exists_lookup_of_mem hknown
        exact .writes hrow .reconfirm (setsSession_updateRow hrow
          (fun row => { row with materialTrustedConfirmationRequired := true }) rfl) rfl rfl
      · obtain ⟨material, replaces, generation, reason, hshape⟩ := hready
        refine .registers { row with materialTrustedConfirmationRequired := true } hfresh
          ⟨true, replaces, generation, reason, ?_⟩ hchallenge hopen hunder ?_ rfl rfl
        · rw [hshape]
          rfl
        · intro other
          simp only [commit, Rows.lookup_updateRow_eq, Rows.lookup_insert_eq]
          split
          · rfl
          · rfl

/-! ## Accepted work and issuance -/

theorem acceptsWorkControl_of_acceptsWork {state : ChallengeLifecycleState}
    (h : challengeAcceptsWork state = true) : challengeAcceptsWorkControl state = true := by
  cases state <;> simp_all [challengeAcceptsWork, challengeAcceptsWorkControl]

/-- When every challenge either keeps its state or was not worked on, work goes on. -/
theorem keepsWork_of_closed {after : AuthorityDatabase}
    (h : ∀ challengeId row, db.challenges.lookup challengeId = some row →
      ∃ later, after.challenges.lookup challengeId = some later ∧
        (later.lifecycleState = row.lifecycleState ∨
          challengeAcceptsWorkControl row.lifecycleState = false)) : KeepsWork db after := by
  intro challengeId row hrow
  obtain ⟨later, hlater, hsame | hclosed⟩ := h challengeId row hrow
  · exact ⟨later, hlater, by rw [hsame]; exact id, by rw [hsame]; exact id⟩
  · refine ⟨later, hlater, ?_, ?_⟩
    · intro hworked
      rw [acceptsWorkControl_of_acceptsWork hworked] at hclosed
      cases hclosed
    · intro hworked
      rw [hworked] at hclosed
      cases hclosed

/-- A challenge with a signing intent is not worked on. -/
theorem closed_of_intent (haccounting : AccountingInvariant db) (hclosed : ClosedWhenSatisfied db)
    {row : ChallengeRow} (hintent : challengeId ∈ db.intents)
    (hrow : db.challenges.lookup challengeId = some row) :
    challengeAcceptsWorkControl row.lifecycleState = false := by
  obtain ⟨found, hfound, hsatisfied⟩ := (haccounting.intents challengeId).mp hintent
  rw [hrow, Option.some.injEq] at hfound
  subst hfound
  exact hclosed challengeId row hrow hsatisfied

theorem recordAcceptance_sessions {written : AuthorityDatabase} {event : AcceptedWorkEvent}
    {challenge : ChallengeRow} {transition : AcceptedWorkTransition} {passUuid : String}
    (h : db.recordAcceptance event challengeId challenge transition passUuid = .ok written) :
    written.poolSelections = db.poolSelections ∧
      ((transition.issuanceIntentCreated = true ∧ written.sessions =
        (db.stopSessions challengeId .challengeSatisfied [.ready, .leased]).sessions) ∨
      (transition.issuanceIntentCreated = false ∧ written.sessions = db.sessions)) := by
  simp only [recordAcceptance, bind, Except.bind, pure, Except.pure] at h
  split at h
  · cases h
  · cases hintent : transition.issuanceIntentCreated with
    | false =>
        simp only [hintent, Bool.false_eq_true, ↓reduceIte, Except.ok.injEq] at h
        subst h
        exact ⟨rfl, .inr ⟨rfl, rfl⟩⟩
    | true =>
        simp only [hintent, ↓reduceIte, Except.map] at h
        split at h
        · cases h
        · next intended hintended =>
            cases h
            split at hintended
            · cases hintended
            · next inserted hinserted =>
                cases hintended
                obtain ⟨-, rfl⟩ := insertIssuanceIntent_eq_ok hinserted
                exact ⟨rfl, .inl ⟨rfl, rfl⟩⟩

/-- An observed lease was leased, also when what was observed ends it. -/
theorem observeSessionLease_leased {session : SessionRow} {leaseId : String} {clock : WorkerClock}
    {observation : LeaseObservation}
    (h : observeSessionLease session leaseId clock = .ok observation) :
    session.lifecycleState = .leased := by
  simp only [observeSessionLease] at h
  split at h
  · cases h
  · next hobserve => exact applySessionCommand_observeLease hobserve

/-- The writes of an accepted event: a challenge it completes ends with its sessions. -/
theorem of_recordAcceptance (hclosed : ClosedWhenSatisfied db) {written : AuthorityDatabase}
    {event : AcceptedWorkEvent} {challenge : ChallengeRow} {transition : AcceptedWorkTransition}
    {passUuid : String} {fresh : Bool}
    (hchallenge : db.challenges.lookup challengeId = some challenge)
    (hactive : challenge.lifecycleState = .active)
    (hflag : challenge.satisfied = challenge.verifiedProgress.meets challenge.workRequirement)
    (hspec : TransitionSpec challenge.verifiedProgress.value.toNat
      challenge.workRequirement.value.toNat event.assignedTarget.creditedWork.value.toNat fresh
      transition)
    (h : db.recordAcceptance event challengeId challenge transition passUuid = .ok written) :
    SessionEffect db written := by
  obtain ⟨-, hchallenges, -, -⟩ := recordAcceptance_spec h
  obtain ⟨hselections, ⟨hcreated, hsessions⟩ | ⟨hcreated, hsessions⟩⟩ :=
    recordAcceptance_sessions h
  · refine .closes hsessions hselections ?_ ?_
    · intro other hne
      rw [hchallenges]
      exact Rows.lookup_updateRow_ne hne _ _
    · rw [hchallenges]
      exact Rows.mem_updateRow.mpr (Rows.mem_of_lookup hchallenge)
  · -- An active challenge was not satisfied before, so without an intent it still is not.
    have hbelow : ¬ challenge.verifiedProgress.meets challenge.workRequirement = true := by
      rw [← hflag]
      intro hsatisfied
      have hnotWorked := hclosed challengeId challenge hchallenge hsatisfied
      rw [hactive] at hnotWorked
      cases hnotWorked
    have hunsatisfied : transition.satisfied = false := by
      rw [VerifiedProgress.meets_iff, not_le] at hbelow
      rw [Bool.eq_false_iff, ne_eq, hspec.satisfied_iff]
      intro hreached
      rw [hspec.intent_iff.mpr ⟨hbelow, hreached⟩] at hcreated
      cases hcreated
    refine .keeps hsessions hselections (keepsWork_of_closed ?_)
    intro other row hrow
    rw [hchallenges, updateProgress, Rows.lookup_updateRow_eq, hrow]
    split
    · exact ⟨_, rfl, .inl (by simp [hunsatisfied])⟩
    · exact ⟨row, rfl, .inl rfl⟩

theorem of_acceptWork (hclosed : ClosedWhenSatisfied db) {event : AcceptedWorkEvent}
    {leaseId : String} {clock : WorkerClock} {passUuid : String} :
    SessionEffect db (db.acceptWork event leaseId clock now passUuid).1 := by
  simp only [acceptWork]
  split
  · split
    · exact refl
    · exact refl
  · split
    · exact refl
    · next session hsession =>
        split
        · exact refl
        · next challenge hchallenge =>
            split
            · exact refl
            · next target hactive =>
                split
                · exact refl
                · next hflag =>
                    rw [not_not] at hflag
                    split
                    · exact .of_setLifecycle hchallenge _ _ _ _
                    · split
                      · exact refl
                      · next reason hobserve =>
                          exact .writes hsession
                            (.stop reason (.inr (observeSessionLease_leased hobserve)))
                            (setsSession_updateRow hsession (stoppedSession reason) rfl) rfl rfl
                      · split
                        · exact refl
                        · next transition htransition =>
                            split
                            · exact refl
                            · split
                              · exact refl
                              · next written hwritten =>
                                  exact of_recordAcceptance hclosed hchallenge
                                    (applyChallengeCommand_acceptWork hactive) hflag
                                    (acceptedWorkTransition_spec htransition) hwritten

theorem keepsWork_failExpiredIssuance (haccounting : AccountingInvariant db)
    (hclosed : ClosedWhenSatisfied db) :
    KeepsWork db ((db.failExpiredIssuance now).deleteExpiredProofs now) := by
  apply keepsWork_of_closed
  intro challengeId row hrow
  simp only [deleteExpiredProofs, failExpiredIssuance, Rows.lookup_mapRows, hrow, Option.map_some]
  refine ⟨_, rfl, ?_⟩
  split
  · next hexpired =>
      refine .inr (closed_of_intent haccounting hclosed ?_ hrow)
      rw [← AList.lookup_isSome]
      revert hexpired
      rw [issuanceExpired]
      cases db.intents.lookup challengeId <;> simp
  · exact .inl rfl

theorem of_maybeClaimIssuance (haccounting : AccountingInvariant db)
    (hclosed : ClosedWhenSatisfied db) {workerId : String} {leaseExpiresAt : ℕ}
    {locked : List ChallengeId} :
    SessionEffect db (db.maybeClaimIssuance workerId now leaseExpiresAt locked).1 := by
  rcases maybeClaimIssuance_cases db workerId now leaseExpiresAt locked with
    ⟨error, hsame⟩ | hfailed | ⟨claimed, intent, -, -, hclaimed⟩
  · rw [hsame]
    exact refl
  · rw [hfailed]
    exact .keeps rfl rfl (keepsWork_failExpiredIssuance haccounting hclosed)
  · rw [hclaimed]
    have hwork : KeepsWork db ((db.failExpiredIssuance now).deleteExpiredProofs now) :=
      keepsWork_failExpiredIssuance haccounting hclosed
    exact .keeps rfl rfl hwork

theorem of_completeIssuance (haccounting : AccountingInvariant db)
    (hclosed : ClosedWhenSatisfied db) {workerId : String} {completed : CompletedIssuance}
    {clock : ℕ} : SessionEffect db (db.completeIssuance workerId completed clock).1 := by
  rcases completeIssuance_cases db workerId completed clock with
    ⟨error, hsame⟩ | ⟨hholds, hcompleted⟩
  · rw [hsame]
    exact refl
  · rw [hcompleted]
    refine .keeps rfl rfl (keepsWork_of_closed ?_)
    intro challengeId row hrow
    rw [issuePass, setLifecycle, Rows.lookup_updateRow_eq, hrow]
    split
    · next heq =>
        refine ⟨_, rfl, .inr (closed_of_intent haccounting hclosed ?_ hrow)⟩
        rw [heq, ← AList.lookup_isSome]
        revert hholds
        rw [holdsClaim]
        cases db.intents.lookup completed.challengeId <;> simp
    · exact ⟨row, rfl, .inl rfl⟩

theorem of_insertChallenge {new : NewChallenge} :
    SessionEffect db (db.insertChallenge new).1 := by
  rcases insertChallenge_cases db new with hsame | ⟨hfresh, hinserted⟩
  · rw [hsame]
    exact refl
  · rw [hinserted]
    refine .keeps rfl rfl (keepsWork_of_closed ?_)
    intro challengeId row hrow
    have hne : challengeId ≠ new.challengeId := by
      rintro rfl
      exact hfresh (Rows.mem_of_lookup hrow)
    exact ⟨row, by rw [AList.lookup_insert_ne hne, hrow], .inl rfl⟩

theorem of_consumeIssuanceProof {proofId : String} {expiresAt : ℕ} :
    SessionEffect db (db.consumeIssuanceProof challengeId proofId expiresAt now).1 := by
  simp only [consumeIssuanceProof]
  repeat' split
  all_goals exact .keeps rfl rfl (.of_eq rfl)

/-- Every request has one of the effects above. -/
theorem of_step (haccounting : AccountingInvariant db) (hclosed : ClosedWhenSatisfied db)
    (request : AuthorityRequest) : SessionEffect db (authorityStep db request).1 := by
  cases request with
  | insertChallenge new => exact of_insertChallenge
  | proposePoolSelection challengeId poolOfferId payoutCommitment now =>
      exact of_proposePoolSelection
  | confirmPoolSelection challengeId payoutCommitment now => exact of_confirmPoolSelection
  | insertWorkSession challengeId sessionId now => exact of_insertWorkSession
  | replaceWorkSession replacedSessionId sessionId now => exact of_replaceWorkSession
  | releaseMaterialPoolOfferReplacement replacedSessionId candidateSessionId now =>
      exact of_releaseMaterialPoolOfferReplacement
  | challengeLifecycle challengeId now => exact of_challengeLifecycle
  | pauseChallenge challengeId reason now => exact of_pauseChallenge
  | cancelChallenge challengeId now => exact of_cancelChallenge
  | startWorkLease input => exact of_startWorkLease
  | renewWorkLease input => exact of_renewWorkLease
  | interruptWorkSession sessionId interruption => exact of_interruptWorkSession
  | confirmWorkSessionRestored sessionId => exact of_confirmWorkSessionRestored
  | failWorkSession sessionId => exact of_failWorkSession
  | consumeIssuanceProof challengeId proofId expiresAt now => exact of_consumeIssuanceProof
  | consentTables ceremonies replacements => exact .keeps rfl rfl (.of_eq rfl)
  | acceptWork event leaseId clock now passUuid => exact of_acceptWork hclosed
  | maybeClaimIssuance workerId now leaseExpiresAt locked =>
      exact of_maybeClaimIssuance haccounting hclosed
  | completeIssuance workerId completed clock => exact of_completeIssuance haccounting hclosed

end SessionEffect

end AuthorityDatabase

end WorkGate
