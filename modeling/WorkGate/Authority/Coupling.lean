/-
# Sessions and the challenges they belong to

A leased session belongs to an active challenge, a ready one to a challenge that is
still worked on, and the lease columns and the stop reason are filled in exactly where
the state asks for them.  Every transaction of the store keeps that, because each that
takes a challenge out of work stops its sessions in the same transaction.
-/

import WorkGate.Authority.Effects
import WorkGate.Authority.Fencing

namespace WorkGate

open WorkGate.Library

namespace AuthorityDatabase

/-! ## Satisfied challenges are closed -/

section Closed

variable {now : ℕ} {db after : AuthorityDatabase}

theorem ClosedWhenSatisfied.setLifecycle (hinv : ClosedWhenSatisfied db)
    {challengeId : ChallengeId} {row : ChallengeRow}
    (hrow : db.challenges.lookup challengeId = some row) {state : ChallengeLifecycleState}
    (changedAt : ℕ) (terminalAt : Option ℕ → Option ℕ)
    (hstate : row.satisfied = true → challengeAcceptsWorkControl state = false) :
    ClosedWhenSatisfied (db.setLifecycle challengeId state changedAt terminalAt) := by
  intro other found hfound hsatisfied
  rw [AuthorityDatabase.setLifecycle, Rows.lookup_updateRow_eq] at hfound
  split at hfound
  · next heq =>
      subst heq
      rw [hrow, Option.map_some, Option.some.injEq] at hfound
      subst hfound
      exact hstate hsatisfied
  · exact hinv other found hfound hsatisfied

theorem closedWhenSatisfied_statement (hinv : ClosedWhenSatisfied db)
    (h : LifecycleStatement now db after) : ClosedWhenSatisfied after := by
  cases h with
  | elsewhere hchallenges hfingerprints hevents hintents =>
      intro challengeId row hrow
      rw [hchallenges] at hrow
      exact hinv challengeId row hrow
  | expire hrow hopen hdue changedAt terminalAt =>
      exact hinv.setLifecycle hrow changedAt terminalAt fun _ => rfl
  | cancel hrow hopen changedAt terminalAt =>
      exact hinv.setLifecycle hrow changedAt terminalAt fun _ => rfl
  | activate hrow hissued changedAt terminalAt =>
      apply hinv.setLifecycle hrow changedAt terminalAt
      intro hsatisfied
      have hnotWorked := hinv _ _ hrow hsatisfied
      rw [hissued] at hnotWorked
      cases hnotWorked

theorem closedWhenSatisfied_fails (hinv : ClosedWhenSatisfied db) :
    ClosedWhenSatisfied ((db.failExpiredIssuance now).deleteExpiredProofs now) := by
  intro challengeId row hrow hsatisfied
  simp only [deleteExpiredProofs, failExpiredIssuance, Rows.lookup_mapRows,
    Option.map_eq_some_iff] at hrow
  obtain ⟨old, hold, rfl⟩ := hrow
  revert hsatisfied
  split
  · exact fun _ => rfl
  · exact hinv challengeId old hold

theorem closedWhenSatisfied_accepts (hinv : ClosedWhenSatisfied db) {event : AcceptedWorkEvent}
    {challengeId : ChallengeId} {challenge : ChallengeRow} {transition : AcceptedWorkTransition}
    (haccepts : AcceptsWork db event now after challengeId challenge transition) :
    ClosedWhenSatisfied after := by
  intro other row hrow hsatisfied
  rw [haccepts.challenges_eq, updateProgress, Rows.lookup_updateRow_eq] at hrow
  split at hrow
  · next heq =>
      subst heq
      rw [haccepts.challenge_eq, Option.map_some, Option.some.injEq] at hrow
      subst hrow
      have htransition : transition.satisfied = true := hsatisfied
      show challengeAcceptsWorkControl
        (if transition.satisfied = true then .satisfied else challenge.lifecycleState) = false
      rw [if_pos htransition]
      rfl
  · exact hinv other row hrow hsatisfied

theorem closedWhenSatisfied_step (hinv : ClosedWhenSatisfied db) (request : AuthorityRequest) :
    ClosedWhenSatisfied (authorityStep db request).1 := by
  have heffect := authorityEffect_of_step db request
  generalize (authorityStep db request).1 = after at heffect ⊢
  cases heffect with
  | moves hmoves =>
      induction hmoves with
      | refl => exact hinv
      | tail _ hstatement ih => exact closedWhenSatisfied_statement ih hstatement
  | issues hfresh =>
      intro challengeId row hrow hsatisfied
      rw [Rows.lookup_insert_eq] at hrow
      split at hrow
      · cases hrow
        cases hsatisfied
      · exact hinv challengeId row hrow hsatisfied
  | accepts haccepts => exact closedWhenSatisfied_accepts hinv haccepts
  | fails => exact closedWhenSatisfied_fails hinv
  | claims hintent hclaimable => exact closedWhenSatisfied_fails hinv
  | completes hholds =>
      intro challengeId row hrow hsatisfied
      rw [issuePass, AuthorityDatabase.setLifecycle, Rows.lookup_updateRow_eq] at hrow
      split at hrow
      · rw [Option.map_eq_some_iff] at hrow
        obtain ⟨old, -, rfl⟩ := hrow
        rfl
      · exact hinv challengeId row hrow hsatisfied

theorem closedWhenSatisfied_of_run {history : List (AuthorityRequest × AuthorityReply)}
    (hrun : authorityStore.Run history db) : ClosedWhenSatisfied db :=
  Machine.Run.invariant (P := fun _ reached => ClosedWhenSatisfied reached)
    (by simp [ClosedWhenSatisfied, authorityStore, AuthorityDatabase.empty])
    (fun _ _ request _ hinv => closedWhenSatisfied_step hinv request) hrun

/-- The effect of a request presented along a run. -/
theorem sessionEffect_of_run {history : List (AuthorityRequest × AuthorityReply)}
    (hrun : authorityStore.Run history db) (request : AuthorityRequest) :
    SessionEffect db (authorityStep db request).1 :=
  .of_step (accountingInvariant_of_run hrun) (closedWhenSatisfied_of_run hrun) request

end Closed

/-! ## What the state of a session asks of its columns -/

/-- The lease columns are filled in exactly while the session is leased, and the stop reason
exactly once it was stopped.  The first reading of a lease only means something while the
session is leased, and nothing takes it back. -/
structure FitsState (row : SessionRow) : Prop where
  leaseId : row.leaseId.isSome = true ↔ row.lifecycleState = .leased
  continuityId : row.continuityId.isSome = true ↔ row.lifecycleState = .leased
  last : row.lastMonotonicMilliseconds.isSome = true ↔ row.lifecycleState = .leased
  renewAt : row.renewAtMonotonicMilliseconds.isSome = true ↔ row.lifecycleState = .leased
  expiresAt : row.expiresAtMonotonicMilliseconds.isSome = true ↔ row.lifecycleState = .leased
  startedAt : row.lifecycleState = .leased →
    row.leaseStartedAtMonotonicMilliseconds.isSome = true
  stopReason : row.stopReason.isSome = true ↔
    row.lifecycleState = .stopping ∨ row.lifecycleState = .restored ∨ row.lifecycleState = .failed

theorem FitsState.stoppedSession (reason : SessionStopReason) (row : SessionRow) :
    FitsState (stoppedSession reason row) := by
  constructor <;> simp [AuthorityDatabase.stoppedSession]

theorem FitsState.leaseSession (leaseId continuityId : String) (last renewAt expiresAt : ℕ)
    (row : SessionRow) :
    FitsState (leaseSession leaseId continuityId last renewAt expiresAt row) := by
  constructor <;> simp [AuthorityDatabase.leaseSession]

theorem FitsState.of_isReadySession {row : SessionRow} (h : IsReadySession row) :
    FitsState row := by
  obtain ⟨material, replaces, generation, reason, hrow⟩ := h
  rw [hrow]
  constructor <;> simp [readySession]

/-- Every write of one session leaves it in order. -/
theorem FitsState.write {row written : SessionRow} (hfits : FitsState row)
    (hwrite : SessionWrite row written) : FitsState written := by
  cases hwrite with
  | stop reason hstate => exact .stoppedSession reason row
  | renew hstate hlast hrenew =>
      exact ⟨hfits.leaseId, hfits.continuityId, by simp [renewSession, hstate],
        by simp [renewSession, hstate], by simp [renewSession, hstate], hfits.startedAt,
        hfits.stopReason⟩
  | restore hstate =>
      have hleased : row.lifecycleState ≠ .leased := by simp [hstate]
      have hstopped := hfits.stopReason.mpr (.inl hstate)
      constructor
      all_goals simp only [reduceCtorEq, iff_false, false_imp_iff, or_true, or_false,
        iff_true]
      · exact fun h => hleased (hfits.leaseId.mp h)
      · exact fun h => hleased (hfits.continuityId.mp h)
      · exact fun h => hleased (hfits.last.mp h)
      · exact fun h => hleased (hfits.renewAt.mp h)
      · exact fun h => hleased (hfits.expiresAt.mp h)
      · exact hstopped
  | fail => constructor <;> simp [AuthorityDatabase.stoppedSession]
  | reconfirm =>
      exact ⟨hfits.leaseId, hfits.continuityId, hfits.last, hfits.renewAt, hfits.expiresAt,
        hfits.startedAt, hfits.stopReason⟩

/-- A row in order is read back as the state it is in. -/
theorem workSessionLifecycle_eq_ok {db : AuthorityDatabase} {sessionId : WorkSessionId}
    {row : SessionRow} (hrow : db.sessions.lookup sessionId = some row) (hfits : FitsState row) :
    ∃ lifecycle, db.workSessionLifecycle sessionId = .ok lifecycle := by
  obtain ⟨hleaseId, -, -, hrenewAt, hexpiresAt, -, hreason⟩ := hfits
  simp only [workSessionLifecycle, hrow, maybeStoredLease, SessionLifecycle.persisted,
    SessionStopReason.parseColumn_asStr, bind, Except.bind]
  cases hstate : row.lifecycleState with
  | leased =>
      simp only [hstate, iff_true, Option.isSome_iff_exists] at hleaseId hrenewAt hexpiresAt
      obtain ⟨leaseId, hleaseId⟩ := hleaseId
      obtain ⟨renewAt, hrenewAt⟩ := hrenewAt
      obtain ⟨expiresAt, hexpiresAt⟩ := hexpiresAt
      have hnone : row.stopReason = none := by simpa [hstate] using hreason
      rw [hleaseId, hrenewAt, hexpiresAt, hnone]
      exact ⟨_, rfl⟩
  | ready =>
      have hunleased : row.leaseId = none := by simpa [hstate] using hleaseId
      have hnone : row.stopReason = none := by simpa [hstate] using hreason
      rw [hunleased, hnone]
      exact ⟨_, rfl⟩
  | stopping | restored | failed =>
      have hunleased : row.leaseId = none := by simpa [hstate] using hleaseId
      obtain ⟨reason, hstopped⟩ := Option.isSome_iff_exists.mp (hreason.mpr (by simp [hstate]))
      rw [hunleased, hstopped]
      exact ⟨_, rfl⟩

/-! ## The coupling -/

/-- A session in order, under a challenge in a state it may be worked under. -/
structure CoupledSession (db : AuthorityDatabase) (row : SessionRow) : Prop where
  fits : FitsState row
  challenge : ∃ challenge, db.challenges.lookup row.challengeId = some challenge ∧
    (row.lifecycleState = .leased → challenge.lifecycleState = .active) ∧
    (row.lifecycleState = .ready →
      challenge.lifecycleState = .issued ∨ challenge.lifecycleState = .active)

/-- Every session of the store is coupled to its challenge. -/
def Coupled (db : AuthorityDatabase) : Prop :=
  ∀ sessionId row, db.sessions.lookup sessionId = some row → CoupledSession db row

theorem acceptsWorkControl_iff {state : ChallengeLifecycleState} :
    challengeAcceptsWorkControl state = true ↔ state = .issued ∨ state = .active := by
  simp [challengeAcceptsWorkControl]

namespace CoupledSession

variable {db after : AuthorityDatabase} {row : SessionRow}

/-- A session stays coupled while its challenge is worked on. -/
theorem of_keepsWork (h : CoupledSession db row) (hwork : KeepsWork db after) :
    CoupledSession after row where
  fits := h.fits
  challenge := by
    obtain ⟨challenge, hchallenge, hleased, hready⟩ := h.challenge
    obtain ⟨later, hlater, hwork, hcontrol⟩ := hwork _ challenge hchallenge
    refine ⟨later, hlater, ?_, ?_⟩
    · intro hstate
      simpa [challengeAcceptsWork] using hwork (by simp [challengeAcceptsWork, hleased hstate])
    · intro hstate
      exact acceptsWorkControl_iff.mp (hcontrol (acceptsWorkControl_iff.mpr (hready hstate)))

/-- A session that is neither leased nor ready asks nothing of its challenge. -/
theorem of_idle (hfits : FitsState row) (hleased : row.lifecycleState ≠ .leased)
    (hready : row.lifecycleState ≠ .ready)
    (hchallenge : ∃ challenge, after.challenges.lookup row.challengeId = some challenge) :
    CoupledSession after row where
  fits := hfits
  challenge := by
    obtain ⟨challenge, hchallenge⟩ := hchallenge
    exact ⟨challenge, hchallenge, fun h => absurd h hleased, fun h => absurd h hready⟩

/-- A write that leaves the challenges alone and starts no lease. -/
theorem write {written : SessionRow} (h : CoupledSession db row)
    (hwrite : SessionWrite row written) : CoupledSession db written := by
  refine ⟨h.fits.write hwrite, ?_⟩
  have hsame : written.challengeId = row.challengeId := by cases hwrite <;> rfl
  have hleased : written.lifecycleState = .leased → row.lifecycleState = .leased := by
    cases hwrite <;> simp_all [renewSession, AuthorityDatabase.stoppedSession]
  have hready : written.lifecycleState = .ready → row.lifecycleState = .ready := by
    cases hwrite <;> simp_all [renewSession, AuthorityDatabase.stoppedSession]
  obtain ⟨challenge, hchallenge, hactive, hopen⟩ := h.challenge
  rw [hsame]
  exact ⟨challenge, hchallenge, fun h => hactive (hleased h), fun h => hopen (hready h)⟩

/-- Sessions of a challenge whose work ends: the ready and the leased ones are stopped. -/
theorem of_closes (h : CoupledSession db row) {challengeId : ChallengeId}
    {reason : SessionStopReason}
    (hothers : ∀ other, other ≠ challengeId →
      after.challenges.lookup other = db.challenges.lookup other)
    (hkept : challengeId ∈ after.challenges) :
    CoupledSession after
      (if row.challengeId = challengeId ∧ row.lifecycleState ∈ [.ready, .leased] then
        stoppedSession reason row else row) := by
  by_cases hsame : row.challengeId = challengeId
  · have hchallenge := Rows.exists_lookup_of_mem hkept
    rw [← hsame] at hchallenge
    split
    · exact of_idle (.stoppedSession reason row) (by simp [stoppedSession])
        (by simp [stoppedSession]) hchallenge
    · next hidle =>
        have hidle : row.lifecycleState ≠ .ready ∧ row.lifecycleState ≠ .leased := by
          simpa [hsame] using hidle
        exact of_idle h.fits hidle.2 hidle.1 hchallenge
  · rw [if_neg fun hstopped => hsame hstopped.1]
    refine ⟨h.fits, ?_⟩
    rw [hothers _ hsame]
    exact h.challenge

end CoupledSession

/-- Every effect on the sessions keeps them coupled. -/
theorem coupled_effect {db after : AuthorityDatabase} (hinv : Coupled db)
    (heffect : SessionEffect db after) : Coupled after := by
  intro sessionId row hrow
  cases heffect with
  | keeps hsessions hselections hwork =>
      rw [hsessions] at hrow
      exact (hinv sessionId row hrow).of_keepsWork hwork
  | proposes challengeId selection hfree hproposed hselections hsessions hchallenges =>
      rw [hsessions] at hrow
      exact (hinv sessionId row hrow).of_keepsWork (.of_eq hchallenges)
  | consents selection hold hproposed hconsented hoffer hpayout hselections hsessions
      hchallenges =>
      rw [hsessions] at hrow
      exact (hinv sessionId row hrow).of_keepsWork (.of_eq hchallenges)
  | closes hsessions hselections hothers hkept =>
      rw [hsessions, lookup_stopSessions, Option.map_eq_some_iff] at hrow
      obtain ⟨old, hold, rfl⟩ := hrow
      exact (hinv sessionId old hold).of_closes hothers hkept
  | @pauses challengeId reason =>
      have hwork : KeepsWork db (db.stopSessions challengeId reason [.leased]) := .of_eq rfl
      rw [lookup_stopSessions, Option.map_eq_some_iff] at hrow
      obtain ⟨old, hold, rfl⟩ := hrow
      have hcoupled := (hinv sessionId old hold).of_keepsWork hwork
      split
      · next hstopped =>
          exact hcoupled.write (.stop reason (.inr (List.mem_singleton.mp hstopped.2)))
      · exact hcoupled
  | registers registered hfresh hready hchallenge hopen hunder hsets hselections hchallenges =>
      rw [hsets sessionId] at hrow
      split at hrow
      · cases hrow
        refine ⟨.of_isReadySession hready, _, by rw [hchallenges, hchallenge], ?_, fun _ =>
          acceptsWorkControl_iff.mp hopen⟩
        intro hleased
        obtain ⟨material, replaces, generation, reason, hshape⟩ := hready
        rw [hshape] at hleased
        cases hleased
      · exact (hinv sessionId row hrow).of_keepsWork (.of_eq hchallenges)
  | leases leaseId continuityId maybeCeremonyId hfound hstart hlast hrenew hactive hsets
      hselections hwork =>
      rw [hsets sessionId] at hrow
      split at hrow
      · cases hrow
        refine ⟨.leaseSession .., _, hactive.1, fun _ => hactive.2, ?_⟩
        intro hready
        cases hready
      · exact (hinv sessionId row hrow).of_keepsWork hwork
  | writes hfound hwrite hsets hselections hchallenges =>
      rw [hsets sessionId] at hrow
      split at hrow
      · cases hrow
        exact ((hinv _ _ hfound).write hwrite).of_keepsWork (.of_eq hchallenges)
      · exact (hinv sessionId row hrow).of_keepsWork (.of_eq hchallenges)

theorem coupled_of_run {history : List (AuthorityRequest × AuthorityReply)}
    {db : AuthorityDatabase} (hrun : authorityStore.Run history db) : Coupled db := by
  refine Machine.Run.invariant_of
    (Q := fun _ reached => AccountingInvariant reached ∧ ClosedWhenSatisfied reached)
    (P := fun _ reached => Coupled reached)
    (fun _ _ hreached => ⟨accountingInvariant_of_run hreached, closedWhenSatisfied_of_run hreached⟩)
    ?_ ?_ hrun
  · intro sessionId row hrow
    simp [authorityStore, AuthorityDatabase.empty] at hrow
  · rintro _ _ request - ⟨haccounting, hclosed⟩ hinv
    exact coupled_effect hinv (.of_step haccounting hclosed request)

end AuthorityDatabase

/-- Sessions are coupled to their challenges in every database the store reaches, and every
stored session reads back. -/
theorem authorityStore_coupled {history : List (AuthorityRequest × AuthorityReply)}
    {db : AuthorityDatabase} (hrun : authorityStore.Run history db) :
    ∀ sessionId row, db.sessions.lookup sessionId = some row →
      db.CoupledSession row ∧ ∃ lifecycle, db.workSessionLifecycle sessionId = .ok lifecycle := by
  intro sessionId row hrow
  have hcoupled := AuthorityDatabase.coupled_of_run hrun sessionId row hrow
  exact ⟨hcoupled, AuthorityDatabase.workSessionLifecycle_eq_ok hrow hcoupled.fits⟩

theorem singleShareRequests_coupled :
    ∃ row, (authorityStore.replay singleShareRequests).2.sessions.lookup
        ⟨"session_a", by decide⟩ = some row ∧
      (authorityStore.replay singleShareRequests).2.CoupledSession row := by
  obtain ⟨row, hrow⟩ : ∃ row, (authorityStore.replay singleShareRequests).2.sessions.lookup
      ⟨"session_a", by decide⟩ = some row := by
    apply Option.isSome_iff_exists.mp
    decide +kernel
  have hrun := Machine.run_replay (M := authorityStore) singleShareRequests
    ⟨trivial, trivial, trivial, trivial, trivial, trivial, trivial⟩
  exact ⟨row, hrow, (authorityStore_coupled hrun _ row hrow).1⟩

/-- The share that satisfies the challenge stops the session, which keeps the reading its
lease started at: that column alone may be filled in without a lease. -/
theorem leaseStart_outlives_lease :
    ¬ ∀ history db, authorityStore.Run history db →
      ∀ sessionId row, db.sessions.lookup sessionId = some row →
        (row.leaseStartedAtMonotonicMilliseconds.isSome = true ↔
          row.lifecycleState = .leased) := by
  intro hclaim
  have hrun := Machine.run_replay (M := authorityStore) singleShareRequests
    ⟨trivial, trivial, trivial, trivial, trivial, trivial, trivial⟩
  have hstopped : ((authorityStore.replay singleShareRequests).2.sessions.lookup
      ⟨"session_a", by decide⟩).map (fun row =>
        (row.lifecycleState, row.leaseStartedAtMonotonicMilliseconds)) =
      some (.stopping, some 10) := by decide +kernel
  obtain ⟨row, hrow, hcolumns⟩ := Option.map_eq_some_iff.mp hstopped
  obtain ⟨hstate, hstarted⟩ := Prod.mk.inj hcolumns
  have hleased := (hclaim _ _ hrun _ row hrow).mp (by rw [hstarted]; rfl)
  rw [hstate] at hleased
  cases hleased

end WorkGate
