/-
# Which transactions expire a satisfied challenge

Five transactions enforce a challenge's deadline before they do anything else
(`terminalize_expired`).  At or after its deadline they expire a satisfied challenge and
then refuse whatever they were asked for; every other transaction, and these five before
the deadline, leaves a satisfied challenge as it is.
-/

import WorkGate.Authority.Frames

namespace WorkGate

open WorkGate.Library

/-- The challenge whose deadline a transaction enforces before all else, and when.  A renewal
whose instant is out of range rolls that back. -/
def AuthorityRequest.maybeTerminalizes (db : AuthorityDatabase) :
    AuthorityRequest → Option (ChallengeId × ℕ)
  | .challengeLifecycle challengeId now | .pauseChallenge challengeId _ now
  | .cancelChallenge challengeId now => some (challengeId, now)
  | .startWorkLease input => (db.sessions.lookup input.sessionId).map fun session =>
      (session.challengeId, input.nowUnixSeconds)
  | .renewWorkLease input => if input.now < 2 ^ 63 then
      (db.sessions.lookup input.sessionId).map fun session => (session.challengeId, input.now)
    else none
  | _ => none

/-- Whether a transaction finds the deadline of a challenge passed. -/
def AuthorityRequest.terminalizes (db : AuthorityDatabase) (challengeId : ChallengeId)
    (request : AuthorityRequest) : Bool :=
  match request.maybeTerminalizes db, db.challenges.lookup challengeId with
  | some (named, now), some row => named == challengeId && decide (row.expiresAtUnixSeconds ≤ now)
  | _, _ => false

namespace AuthorityDatabase

/-- A challenge is there, in a state. -/
def InState (db : AuthorityDatabase) (challengeId : ChallengeId)
    (state : ChallengeLifecycleState) : Prop :=
  ∃ row, db.challenges.lookup challengeId = some row ∧ row.lifecycleState = state

instance decidableInState (db : AuthorityDatabase) (challengeId : ChallengeId)
    (state : ChallengeLifecycleState) : Decidable (db.InState challengeId state) :=
  inferInstanceAs (Decidable (∃ row ∈ db.challenges.lookup challengeId,
    row.lifecycleState = state))

variable {db current after : AuthorityDatabase} {challengeId named : ChallengeId}
  {state : ChallengeLifecycleState} {now : ℕ}

theorem InState.of_eq (hstate : db.InState challengeId state)
    (h : after.challenges = db.challenges) : after.InState challengeId state := by
  rwa [InState, h]

theorem InState.stopSessions (hstate : db.InState challengeId state) (reason : SessionStopReason)
    (fromStates : List SessionLifecycleState) :
    (db.stopSessions named reason fromStates).InState challengeId state := hstate

theorem InState.setLifecycle_ne (hstate : db.InState challengeId state)
    (hne : challengeId ≠ named) (written : ChallengeLifecycleState) (changedAt : ℕ)
    (terminalAt : Option ℕ → Option ℕ) :
    (db.setLifecycle named written changedAt terminalAt).InState challengeId state := by
  obtain ⟨row, hrow, rfl⟩ := hstate
  exact ⟨row, by rw [setLifecycle, Rows.lookup_updateRow_ne hne, hrow], rfl⟩

theorem InState.commitSelected (hstate : db.InState challengeId state)
    (hwritten : current.InState challengeId state) :
    (commitSelected db current named).1.InState challengeId state := by
  simp only [AuthorityDatabase.commitSelected]
  split
  · exact hstate
  · exact hwritten

/-- Two states of one challenge are the same. -/
theorem InState.unique {other : ChallengeLifecycleState} (hstate : db.InState challengeId state)
    (hother : db.InState challengeId other) : state = other := by
  obtain ⟨row, hrow, rfl⟩ := hstate
  obtain ⟨found, hfound, rfl⟩ := hother
  rw [hrow, Option.some.injEq] at hfound
  rw [hfound]

/-! ## Before the deadline, and elsewhere -/

/-- The deadline of a satisfied challenge is ahead wherever a transaction enforces it. -/
def Ahead (db : AuthorityDatabase) (challengeId named : ChallengeId) (now : ℕ) : Prop :=
  named = challengeId →
    ∀ row, db.challenges.lookup challengeId = some row → now < row.expiresAtUnixSeconds

theorem InState.terminalizeExpired (hstate : db.InState challengeId .satisfied)
    (hahead : db.Ahead challengeId named now)
    (h : db.terminalizeExpired named now = .ok current) :
    current.InState challengeId .satisfied := by
  obtain ⟨row, hrow, hsatisfied⟩ := hstate
  by_cases heq : named = challengeId
  · subst heq
    have hearly := hahead rfl row hrow
    simp only [AuthorityDatabase.terminalizeExpired, hrow, lifecycleDeadline, hsatisfied,
      reduceCtorEq, if_false, if_pos hearly] at h
    cases h
    exact ⟨row, hrow, hsatisfied⟩
  · simp only [AuthorityDatabase.terminalizeExpired] at h
    repeat' split at h
    all_goals first
      | cases h; exact ⟨row, hrow, hsatisfied⟩
      | cases h
        exact .stopSessions (.setLifecycle_ne ⟨row, hrow, hsatisfied⟩ (Ne.symm heq) _ _ _) _ _
      | cases h

theorem satisfied_challengeLifecycle (hstate : db.InState challengeId .satisfied)
    (hahead : db.Ahead challengeId named now) :
    (db.challengeLifecycle named now).1.InState challengeId .satisfied := by
  simp only [challengeLifecycle]
  split
  · exact hstate
  · next current hcurrent => exact hstate.commitSelected (hstate.terminalizeExpired hahead hcurrent)

theorem satisfied_pauseChallenge (hstate : db.InState challengeId .satisfied)
    (hahead : db.Ahead challengeId named now) (reason : PauseReason) :
    (db.pauseChallenge named reason now).1.InState challengeId .satisfied := by
  simp only [pauseChallenge]
  split
  · exact hstate
  · next current hcurrent =>
      have hkept := hstate.terminalizeExpired hahead hcurrent
      split
      · exact hstate
      · split
        · exact hkept
        · exact hstate.commitSelected (hkept.stopSessions _ _)

theorem satisfied_cancelChallenge (hstate : db.InState challengeId .satisfied)
    (hahead : db.Ahead challengeId named now) :
    (db.cancelChallenge named now).1.InState challengeId .satisfied := by
  simp only [cancelChallenge]
  split
  · exact hstate
  · next current hcurrent =>
      have hkept := hstate.terminalizeExpired hahead hcurrent
      split
      · exact hstate
      · next row hrow =>
          split
          · exact hkept
          · next target htarget =>
              split
              · exact hstate.commitSelected hkept
              · split
                · exact hstate
                · -- A satisfied challenge is not cancelled.
                  have hne : challengeId ≠ named := by
                    rintro rfl
                    have hfound := hkept.unique ⟨row, hrow, rfl⟩
                    rw [← hfound] at htarget
                    cases htarget
                  exact hstate.commitSelected ((hkept.setLifecycle_ne hne _ _ _).stopSessions _ _)

theorem satisfied_startWorkLease (hstate : db.InState challengeId .satisfied)
    {input : StartWorkLeaseInput}
    (hahead : ∀ session, db.sessions.lookup input.sessionId = some session →
      db.Ahead challengeId session.challengeId input.nowUnixSeconds) :
    (db.startWorkLease input).1.InState challengeId .satisfied := by
  simp only [startWorkLease]
  split
  · exact hstate
  · next session hsession =>
      split
      · exact hstate
      · next current hcurrent =>
          have hkept := hstate.terminalizeExpired (hahead session hsession) hcurrent
          split
          · exact hstate
          · next locked hlocked =>
              split
              · exact hkept
              · split
                · next target _ htarget _ =>
                    split
                    · exact hstate
                    · next admitted hadmitted =>
                        obtain ⟨hchallenges, -, -, -⟩ :=
                          LifecycleMoves.of_admitTrustedConsent hadmitted
                        have hadmitted := hkept.of_eq hchallenges
                        split
                        · exact hstate
                        · exact hstate
                        · exact hstate
                        · next started _ _ _ _ hstarted _ _ =>
                            suffices hstill : started.InState challengeId .satisfied from
                              hstill.of_eq rfl
                            split at hstarted
                            · cases hinstant : checkedInstant input.nowUnixSeconds with
                              | error error =>
                                  rw [hinstant] at hstarted
                                  cases hstarted
                              | ok instant =>
                                  rw [hinstant] at hstarted
                                  cases hstarted
                                  -- Nor is work started on one.
                                  have hne : challengeId ≠ session.challengeId := by
                                    rintro rfl
                                    obtain ⟨found, challenge, hfound, hchallenge, hlockedState⟩ :=
                                      LifecycleMoves.lockChallengeAndSession_eq_ok hlocked
                                    have hsame := LifecycleMoves.challengeId_terminalizeExpired
                                      hcurrent input.sessionId
                                    rw [hfound, hsession, Option.map_some, Option.map_some,
                                      Option.some.injEq] at hsame
                                    rw [hsame] at hchallenge
                                    have hfound := hkept.unique ⟨challenge, hchallenge, rfl⟩
                                    rw [hlockedState, ← hfound] at htarget
                                    cases htarget
                                  exact hadmitted.setLifecycle_ne hne _ _ _
                            · cases hstarted
                              exact hadmitted
                · exact hkept

theorem satisfied_renewWorkLease (hstate : db.InState challengeId .satisfied)
    {input : RenewWorkLeaseInput}
    (hahead : input.now < 2 ^ 63 → ∀ session, db.sessions.lookup input.sessionId = some session →
      db.Ahead challengeId session.challengeId input.now) :
    (db.renewWorkLease input).1.InState challengeId .satisfied := by
  simp only [renewWorkLease]
  split
  · exact hstate
  · next session hsession =>
      split
      · exact hstate
      · next current hcurrent =>
          split
          · exact hstate
          · exact hstate
          · exact hstate
          · next hnow =>
              have hkept := hstate.terminalizeExpired
                (hahead (unixSecondsToI64_eq_ok hnow).2 session hsession) hcurrent
              repeat' split
              all_goals first
                | exact hstate
                | exact hkept

/-- `fail_expired_issuance` takes no challenge whose intent is not due. -/
theorem satisfied_failExpiredIssuance (hstate : db.InState challengeId .satisfied)
    (hahead : db.issuanceExpired challengeId now = false) :
    ((db.failExpiredIssuance now).deleteExpiredProofs now).InState challengeId .satisfied := by
  obtain ⟨row, hrow, hsatisfied⟩ := hstate
  obtain ⟨later, hlater, -, hkept⟩ := lookup_failExpiredIssuance_challenges now hrow
  rw [hahead] at hkept
  exact ⟨later, hlater, hkept.trans hsatisfied⟩

theorem satisfied_acceptWork (hstate : db.InState challengeId .satisfied)
    {event : AcceptedWorkEvent} {leaseId : String} {clock : WorkerClock} {passUuid : String} :
    (db.acceptWork event leaseId clock now passUuid).1.InState challengeId .satisfied := by
  obtain ⟨row, hrow, hsatisfied⟩ := hstate
  rcases acceptWork_cases (Prod.mk.eta
      (p := db.acceptWork event leaseId clock now passUuid)).symm with
    ⟨hsame, -⟩ | ⟨hsame, -⟩ | ⟨other, challenge, hchallenge, hactive, -, hexpired, -⟩ |
      ⟨reason, -, hstopped, -⟩ | ⟨other, challenge, transition, haccepts, -⟩
  · exact .of_eq ⟨row, hrow, hsatisfied⟩ (by rw [hsame])
  · exact .of_eq ⟨row, hrow, hsatisfied⟩ (by rw [hsame])
  · have hne : challengeId ≠ other := by
      rintro rfl
      rw [hrow, Option.some.injEq] at hchallenge
      rw [hchallenge, hactive] at hsatisfied
      cases hsatisfied
    rw [hexpired]
    exact .stopSessions (.setLifecycle_ne ⟨row, hrow, hsatisfied⟩ hne _ _ _) _ _
  · exact .of_eq ⟨row, hrow, hsatisfied⟩ (by rw [hstopped]; rfl)
  · have hne : challengeId ≠ other := by
      rintro rfl
      rw [haccepts.challenge_eq, Option.some.injEq] at hrow
      rw [← hrow, haccepts.active] at hsatisfied
      cases hsatisfied
    refine ⟨row, ?_, hsatisfied⟩
    rw [haccepts.challenges_eq, updateProgress, Rows.lookup_updateRow_ne hne, hrow]

/-- A replacement registers a session, or finds the one it registered before. -/
theorem inState_replaceWorkSession (hstate : db.InState challengeId state)
    {replacedSessionId sessionId : WorkSessionId} {allowMaterialPending : Bool}
    {replacement : SessionReplacement}
    (h : db.replaceWorkSessionInTransaction replacedSessionId sessionId now allowMaterialPending =
      .ok (after, replacement)) : after.InState challengeId state := by
  rcases SessionEffect.replaceWorkSessionInTransaction_cases h with
    ⟨rfl, -⟩ | ⟨row, challenge, rfl, -⟩
  · exact hstate
  · exact hstate

theorem ahead_of_terminalizes {request : AuthorityRequest}
    (hfree : request.terminalizes db challengeId = false)
    (hnamed : request.maybeTerminalizes db = some (named, now)) :
    db.Ahead challengeId named now := by
  rintro rfl row hrow
  simpa [AuthorityRequest.terminalizes, hnamed, hrow] using hfree

/-- A satisfied challenge waits for its pass: unless its intent is completed or fails, or its
deadline is enforced too late, a transaction leaves it satisfied. -/
theorem satisfied_step {request : AuthorityRequest} (hstate : db.InState challengeId .satisfied)
    (hfree : request.terminalizes db challengeId = false) (hother : request.completes = false)
    (hahead : ∀ workerId now leaseExpiresAt locked,
      request = .maybeClaimIssuance workerId now leaseExpiresAt locked →
        db.issuanceExpired challengeId now = false) :
    (authorityStep db request).1.InState challengeId .satisfied := by
  cases request with
  | challengeLifecycle named now =>
      exact satisfied_challengeLifecycle hstate (ahead_of_terminalizes hfree rfl)
  | pauseChallenge named reason now =>
      exact satisfied_pauseChallenge hstate (ahead_of_terminalizes hfree rfl) reason
  | cancelChallenge named now =>
      exact satisfied_cancelChallenge hstate (ahead_of_terminalizes hfree rfl)
  | startWorkLease input =>
      refine satisfied_startWorkLease hstate fun session hsession => ?_
      apply ahead_of_terminalizes hfree
      rw [AuthorityRequest.maybeTerminalizes, hsession, Option.map_some]
  | renewWorkLease input =>
      refine satisfied_renewWorkLease hstate fun hnow session hsession => ?_
      apply ahead_of_terminalizes hfree
      rw [AuthorityRequest.maybeTerminalizes, if_pos hnow, hsession, Option.map_some]
  | acceptWork => exact satisfied_acceptWork hstate
  | insertChallenge new =>
      simp only [authorityStep, answer]
      rcases insertChallenge_cases db new with hsame | ⟨hfresh, hinserted⟩
      · rwa [hsame]
      · obtain ⟨row, hrow, hsatisfied⟩ := hstate
        have hne : challengeId ≠ new.challengeId := by
          rintro rfl
          exact hfresh (Rows.mem_of_lookup hrow)
        rw [hinserted]
        exact ⟨row, by rw [AList.lookup_insert_ne hne, hrow], hsatisfied⟩
  | maybeClaimIssuance workerId now leaseExpiresAt locked =>
      simp only [authorityStep, answer]
      have hkept := satisfied_failExpiredIssuance hstate (hahead _ _ _ _ rfl)
      rcases maybeClaimIssuance_cases db workerId now leaseExpiresAt locked with
        ⟨error, hsame⟩ | hfailed | ⟨claimedId, intent, -, -, hclaimed⟩
      · rwa [hsame]
      · rwa [hfailed]
      · rw [hclaimed]
        exact hkept.of_eq rfl
  | completeIssuance => cases hother
  | interruptWorkSession | confirmWorkSessionRestored | failWorkSession =>
      simp only [authorityStep, answer, interruptWorkSession, confirmWorkSessionRestored,
        failWorkSession, applyToSession]
      repeat' split
      all_goals exact hstate
  | replaceWorkSession =>
      simp only [authorityStep, answer, replaceWorkSession]
      split
      · exact hstate
      · next hreplaced => exact inState_replaceWorkSession hstate hreplaced
  | releaseMaterialPoolOfferReplacement =>
      simp only [authorityStep, answer, releaseMaterialPoolOfferReplacement]
      split
      · exact hstate
      · next hreplaced => exact (inState_replaceWorkSession hstate hreplaced).of_eq rfl
  | _ =>
      simp only [authorityStep, answer, proposePoolSelection, confirmPoolSelection,
        insertWorkSession, consumeIssuanceProof]
      repeat' split
      all_goals exact hstate

/-! ## At the deadline or later -/

/-- A satisfied challenge whose deadline has passed expires, with its sessions. -/
theorem terminalizeExpired_due {row : ChallengeRow}
    (hrow : db.challenges.lookup challengeId = some row) (hsatisfied : row.lifecycleState =
      .satisfied) (hpositive : 0 < row.expiresAtUnixSeconds)
    (hfits : row.expiresAtUnixSeconds < 2 ^ 63) (hdue : row.expiresAtUnixSeconds ≤ now) :
    ∃ current, db.terminalizeExpired challengeId now = .ok current ∧
      ExpiresChallenge db current challengeId ∧ current.InState challengeId .expired := by
  have hinstant : checkedInstant row.expiresAtUnixSeconds = .ok row.expiresAtUnixSeconds := by
    simp only [checkedInstant, unixSecondsToI64, if_pos hfits]
    exact if_neg hpositive.ne'
  have hexpire : applyChallengeCommand row.lifecycleState .expire = .ok .expired := by
    rw [hsatisfied]
    rfl
  have hexpired : db.terminalizeExpired challengeId now = .ok ((db.setLifecycle challengeId
      .expired row.expiresAtUnixSeconds fun terminalAt =>
        terminalAt.or (some row.expiresAtUnixSeconds)).stopSessions challengeId
          .challengeExpired [.ready, .leased]) := by
    have hdeadline : db.lifecycleDeadline challengeId row = .ok row.expiresAtUnixSeconds := by
      rw [lifecycleDeadline, if_neg (by simp [hsatisfied])]
    simp only [terminalizeExpired, hrow, hdeadline, hexpire, hinstant, if_neg hdue.not_gt]
    exact if_neg (by simp [hsatisfied])
  refine ⟨_, hexpired, ?_, ?_⟩
  · refine (terminalizeExpired_cases hexpired).resolve_left fun hsame => ?_
    have hlookup := congrArg (fun found => found.challenges.lookup challengeId) hsame
    simp only [stopSessions, setLifecycle, Rows.lookup_updateRow, hrow, Option.map_some,
      Option.some.injEq] at hlookup
    rw [← hlookup] at hsatisfied
    cases hsatisfied
  · refine .stopSessions ?_ _ _
    rw [InState, setLifecycle, Rows.lookup_updateRow, hrow, Option.map_some]
    exact ⟨_, rfl, rfl⟩

theorem expired_commitSelected (hstate : current.InState challengeId .expired) :
    (commitSelected db current challengeId).1.InState challengeId .expired := by
  obtain ⟨row, hrow, hexpired⟩ := hstate
  simp only [commitSelected, selectChallenge, hrow, hexpired]
  exact ⟨row, hrow, hexpired⟩

theorem expired_startWorkLease {input : StartWorkLeaseInput} {session : SessionRow}
    (hsession : db.sessions.lookup input.sessionId = some session)
    (hcurrent : db.terminalizeExpired session.challengeId input.nowUnixSeconds = .ok current)
    (hstate : current.InState session.challengeId .expired) :
    (db.startWorkLease input).1.InState session.challengeId .expired := by
  obtain ⟨row, hrow, hexpired⟩ := hstate
  have hsame := LifecycleMoves.challengeId_terminalizeExpired hcurrent input.sessionId
  rw [hsession, Option.map_some, Option.map_eq_some_iff] at hsame
  obtain ⟨kept, hkept, hchallenge⟩ := hsame
  have hlocked : ∃ locked, current.lockChallengeAndSession input.sessionId = .ok locked ∧
      locked.challengeState = .expired := by
    rw [← hchallenge] at hrow
    simp only [lockChallengeAndSession, hkept, hrow]
    exact ⟨_, rfl, hexpired⟩
  obtain ⟨locked, hlocked, hlockedState⟩ := hlocked
  simp only [startWorkLease, hsession, hcurrent, hlocked, hlockedState]
  split
  · exact ⟨row, hrow, hexpired⟩
  · exact ⟨row, hrow, hexpired⟩

theorem expired_renewWorkLease {input : RenewWorkLeaseInput} {session : SessionRow}
    (hsession : db.sessions.lookup input.sessionId = some session)
    (hcurrent : db.terminalizeExpired session.challengeId input.now = .ok current)
    (hexpires : ExpiresChallenge db current session.challengeId) (hnow : input.now < 2 ^ 63)
    (hstate : current.InState session.challengeId .expired) :
    (db.renewWorkLease input).1.InState session.challengeId .expired := by
  obtain ⟨row, hrow, hexpired⟩ := hstate
  have hsame := LifecycleMoves.challengeId_terminalizeExpired hcurrent input.sessionId
  rw [hsession, Option.map_some, Option.map_eq_some_iff] at hsame
  obtain ⟨kept, hkept, hchallenge⟩ := hsame
  have hidle := (hexpires.sessions input.sessionId kept hkept hchallenge).2
  have hinstant : unixSecondsToI64 input.now = .ok input.now := by
    rw [unixSecondsToI64, if_pos hnow]
  simp only [renewWorkLease, hsession, hcurrent, hkept, hrow, hinstant]
  split
  · exact ⟨row, hrow, hexpired⟩
  · split
    · exact ⟨row, hrow, hexpired⟩
    · next hobserve =>
        exact absurd (SessionEffect.applySessionCommand_observeLease hobserve) hidle

/-- Whatever else it was asked for, a transaction that expired the challenge commits that. -/
theorem expired_step {request : AuthorityRequest} {row : ChallengeRow}
    (hrow : db.challenges.lookup challengeId = some row) (hsatisfied : row.lifecycleState =
      .satisfied) (hpositive : 0 < row.expiresAtUnixSeconds)
    (hfits : row.expiresAtUnixSeconds < 2 ^ 63)
    (hterminalizes : request.terminalizes db challengeId = true) :
    (authorityStep db request).1.InState challengeId .expired := by
  simp only [AuthorityRequest.terminalizes, hrow] at hterminalizes
  split at hterminalizes
  · next named now found hnamed hfound =>
      cases hfound
      simp only [Bool.and_eq_true, beq_iff_eq, decide_eq_true_eq] at hterminalizes
      obtain ⟨rfl, hdue⟩ := hterminalizes
      obtain ⟨current, hcurrent, hexpires, hstate⟩ :=
        terminalizeExpired_due hrow hsatisfied hpositive hfits hdue
      have hfound := hstate
      obtain ⟨expired, hexpired, hexpiredState⟩ := hfound
      cases request with
      | challengeLifecycle challengeId now =>
          cases hnamed
          simp only [authorityStep, answer, challengeLifecycle, hcurrent]
          exact expired_commitSelected hstate
      | pauseChallenge challengeId reason now =>
          cases hnamed
          simp only [authorityStep, answer, pauseChallenge, hcurrent, hexpired, hexpiredState]
          exact hstate
      | cancelChallenge challengeId now =>
          cases hnamed
          simp only [authorityStep, answer, cancelChallenge, hcurrent, hexpired, hexpiredState]
          exact hstate
      | startWorkLease input =>
          simp only [AuthorityRequest.maybeTerminalizes, Option.map_eq_some_iff] at hnamed
          obtain ⟨session, hsession, hpair⟩ := hnamed
          cases hpair
          exact expired_startWorkLease hsession hcurrent hstate
      | renewWorkLease input =>
          simp only [AuthorityRequest.maybeTerminalizes] at hnamed
          split at hnamed
          · next hnow =>
              rw [Option.map_eq_some_iff] at hnamed
              obtain ⟨session, hsession, hpair⟩ := hnamed
              cases hpair
              exact expired_renewWorkLease hsession hcurrent hexpires hnow hstate
          · cases hnamed
      | _ => cases hnamed
  · cases hterminalizes

/-! ## Deadlines -/

/-- Every deadline is one that its column holds. -/
def DeadlinesFit (db : AuthorityDatabase) : Prop :=
  ∀ challengeId row, db.challenges.lookup challengeId = some row →
    row.expiresAtUnixSeconds < 2 ^ 63

theorem mem_challenges_moves (h : LifecycleMoves now db after) :
    challengeId ∈ after.challenges ↔ challengeId ∈ db.challenges := by
  induction h with
  | refl => rfl
  | tail _ hstatement ih =>
      rw [← ih]
      cases hstatement with
      | elsewhere hchallenges hfingerprints hevents hintents => rw [hchallenges]
      | expire hrow hopen hdue changedAt terminalAt => exact Rows.mem_updateRow
      | cancel hrow hopen changedAt terminalAt => exact Rows.mem_updateRow
      | activate hrow hissued changedAt terminalAt => exact Rows.mem_updateRow

theorem mem_challenges_effect {request : AuthorityRequest} (h : AuthorityEffect db request after)
    (hmem : challengeId ∈ after.challenges) :
    challengeId ∈ db.challenges ∨
      ∃ new, request = .insertChallenge new ∧ challengeId = new.challengeId := by
  cases h with
  | moves hmoves => exact .inl ((mem_challenges_moves hmoves).mp hmem)
  | @issues new hfresh =>
      rcases (AList.mem_insert _).mp hmem with rfl | hold
      · exact .inr ⟨new, rfl, rfl⟩
      · exact .inl hold
  | accepts haccepts =>
      rw [haccepts.challenges_eq] at hmem
      exact .inl (Rows.mem_updateRow.mp hmem)
  | fails => exact .inl (Rows.mem_mapRows.mp hmem)
  | claims hintent hclaimable => exact .inl (Rows.mem_mapRows.mp hmem)
  | completes hholds => exact .inl (Rows.mem_updateRow.mp hmem)

theorem insertChallenge_fits {new : NewChallenge} (hfresh : new.challengeId ∉ db.challenges)
    {row : ChallengeRow}
    (hrow : (db.insertChallenge new).1.challenges.lookup new.challengeId = some row) :
    row.expiresAtUnixSeconds < 2 ^ 63 := by
  rw [insertChallenge] at hrow
  split at hrow
  · exact absurd (Rows.mem_of_lookup hrow) hfresh
  · next instant hinstant =>
      simp only [checkedInstant, bind, Except.bind] at hinstant
      split at hinstant
      · cases hinstant
      · next converted hconverted =>
          split at hinstant
          · cases hinstant
          · cases hinstant
            obtain ⟨rfl, hfits⟩ := unixSecondsToI64_eq_ok hconverted
            split at hrow
            · exact absurd (Rows.mem_of_lookup hrow) hfresh
            · simp only [commit, AList.lookup_insert, Option.some.injEq] at hrow
              rw [← hrow]
              exact hfits

theorem deadlinesFit_step (hinv : DeadlinesFit db) (request : AuthorityRequest) :
    DeadlinesFit (authorityStep db request).1 := by
  intro challengeId later hlater
  by_cases hmem : challengeId ∈ db.challenges
  · obtain ⟨row, hrow⟩ := Rows.exists_lookup_of_mem hmem
    obtain ⟨kept, hkept, hdeadline, -⟩ := neverReopens_step db request challengeId row hrow
    rw [hlater, Option.some.injEq] at hkept
    rw [hkept, hdeadline]
    exact hinv challengeId row hrow
  · rcases mem_challenges_effect (authorityEffect_of_step db request) (Rows.mem_of_lookup hlater)
      with hold | ⟨new, rfl, rfl⟩
    · exact absurd hold hmem
    · exact insertChallenge_fits hmem hlater

end AuthorityDatabase

end WorkGate
