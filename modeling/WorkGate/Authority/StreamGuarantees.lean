/-
# What clients of the streams end with

A client of a stream misses nothing as long as three things hold: the announcements of a challenge
are sent in the order in which their values were read, no event that was accepted long ago is
delivered again, and nothing a client read as its snapshot has been replaced, and announced, by the
time it takes its place in the channel.  Nothing in the application provides them.
-/

import WorkGate.Authority.Streams

namespace WorkGate

open WorkGate.Library

/-! ## What a transaction changes -/

namespace AuthorityDatabase

variable {db after : AuthorityDatabase} {challengeId : ChallengeId} {row : ChallengeRow}

/-- The persisted progress of a challenge. -/
def storedProgress (db : AuthorityDatabase) (challengeId : ChallengeId) : Option VerifiedProgress :=
  (db.challenges.lookup challengeId).map ChallengeRow.verifiedProgress

/-- The persisted lifecycle state of a challenge. -/
def stateOf (db : AuthorityDatabase) (challengeId : ChallengeId) :
    Option ChallengeLifecycleState :=
  (db.challenges.lookup challengeId).map ChallengeRow.lifecycleState

theorem KeepsAccounting.storedProgress (hkeeps : KeepsAccounting db after) :
    after.storedProgress challengeId = db.storedProgress challengeId := by
  have hprogress : ChallengeRow.verifiedProgress =
      Account.verifiedProgress ∘ ChallengeRow.account :=
    rfl
  rw [AuthorityDatabase.storedProgress, AuthorityDatabase.storedProgress, hprogress, ← Option.map_map,
    hkeeps.account, Option.map_map]

/-- What an event recorded before repeats of the progress of its challenge is still so. -/
def RepeatsProgress (db : AuthorityDatabase) (event : AcceptedWorkEvent) : Prop :=
  ∀ recorded ∈ db.events.lookup event.eventId, recorded.canonicalMatches event = true →
    db.storedProgress recorded.challengeId = some recorded.verifiedProgress

/-- An event moves the progress of a challenge only where its acceptance is announced. -/
theorem storedProgress_acceptWork (db : AuthorityDatabase) (challengeId : ChallengeId)
    (event : AcceptedWorkEvent) (leaseId : String) (clock : WorkerClock) (now : ℕ)
    (passUuid : String) :
    (authorityStep db (.acceptWork event leaseId clock now passUuid)).1.storedProgress challengeId =
        db.storedProgress challengeId ∨
      ∃ acceptance, (authorityStep db (.acceptWork event leaseId clock now passUuid)).2 =
        .accepted acceptance ∧ acceptance.challengeId = challengeId := by
  simp only [authorityStep, answer]
  rcases acceptWork_cases (Prod.mk.eta
      (p := db.acceptWork event leaseId clock now passUuid)).symm with
    ⟨hsame, -⟩ | ⟨hsame, -⟩ | ⟨expired, challenge, -, -, -, hwritten, -⟩ |
      ⟨reason, error, hwritten, -⟩ | ⟨credited, challenge, transition, haccepts, hreply⟩
  · exact .inl (by rw [hsame])
  · exact .inl (by rw [hsame])
  · left
    rw [hwritten]
    have hkept : KeepsAccounting db (db.setLifecycle expired .expired
        challenge.expiresAtUnixSeconds fun _ => some challenge.expiresAtUnixSeconds) :=
      KeepsAccounting.of_setLifecycle _ _ _ _
    exact hkept.storedProgress
  · left
    rw [hwritten]
    rfl
  · by_cases hcredited : challengeId = credited
    · right
      rw [hreply]
      exact ⟨_, rfl, hcredited.symm⟩
    · left
      rw [storedProgress, storedProgress, haccepts.challenges_eq, updateProgress,
        Rows.lookup_updateRow_ne hcredited]

/-- Any other transaction leaves the progress of a challenge alone. -/
theorem storedProgress_step {request : AuthorityRequest} (hmem : challengeId ∈ db.challenges)
    (hother : ∀ event leaseId clock now passUuid,
      request ≠ .acceptWork event leaseId clock now passUuid) :
    (authorityStep db request).1.storedProgress challengeId = db.storedProgress challengeId := by
  have heffect := authorityEffect_of_step db request
  generalize (authorityStep db request).1 = after at heffect ⊢
  cases heffect with
  | moves hmoves => exact (KeepsAccounting.of_moves hmoves).storedProgress
  | issues hfresh =>
      rw [storedProgress, AList.lookup_insert_ne (ne_of_mem_of_not_mem hmem hfresh), storedProgress]
  | accepts haccepts => exact absurd rfl (hother _ _ _ _ _)
  | fails => exact (KeepsAccounting.of_failExpiredIssuance _).storedProgress
  | claims hintent hclaimable =>
      exact ((KeepsAccounting.of_failExpiredIssuance _).trans
        (KeepsAccounting.of_markIssuanceSigning _ _ _)).storedProgress
  | completes hholds => exact (KeepsAccounting.of_issuePass _).storedProgress

/-- An acceptance tells the progress its challenge has, unless it repeats an older one. -/
theorem storedProgress_accepted {event : AcceptedWorkEvent} {leaseId : String} {clock : WorkerClock}
    {now : ℕ} {passUuid : String} {acceptance : PersistedAcceptance}
    (hrepeats : db.RepeatsProgress event)
    (h : (authorityStep db (.acceptWork event leaseId clock now passUuid)).2 =
      .accepted acceptance) :
    (authorityStep db (.acceptWork event leaseId clock now passUuid)).1.storedProgress
      acceptance.challengeId = some acceptance.acknowledgement.verifiedProgress := by
  simp only [authorityStep, answer] at h ⊢
  rcases acceptWork_cases (Prod.mk.eta
      (p := db.acceptWork event leaseId clock now passUuid)).symm with
    ⟨hsame, recorded, hrecorded, hmatches, hreply⟩ | ⟨-, error, hreply⟩ |
      ⟨-, -, -, -, -, -, error, hreply⟩ | ⟨-, error, -, hreply⟩ |
      ⟨credited, challenge, transition, haccepts, hreply⟩
  · rw [hreply] at h
    cases h
    rw [hsame]
    exact hrepeats recorded hrecorded hmatches
  · rw [hreply] at h
    cases h
  · rw [hreply] at h
    cases h
  · rw [hreply] at h
    cases h
  · rw [hreply] at h
    cases h
    show storedProgress _ credited = some transition.verifiedProgress
    rw [storedProgress, haccepts.challenges_eq, updateProgress, Rows.lookup_updateRow,
      haccepts.challenge_eq]
    rfl

/-- A lifecycle a transaction answers is the one it leaves. -/
def TellsState (challengeId : ChallengeId) (result : TransactionResult ChallengeLifecycle) : Prop :=
  ∀ lifecycle, result.2 = .ok lifecycle → result.1.stateOf challengeId = some lifecycle.state

theorem tellsState_error {error : AuthorityPersistenceError} :
    TellsState challengeId (db, .error error) := by
  intro lifecycle h
  cases h

theorem tellsState_commitSelected {found written : AuthorityDatabase} :
    TellsState challengeId (commitSelected found written challengeId) := by
  intro lifecycle h
  cases hselected : written.selectChallenge challengeId with
  | error error => simp [commitSelected, hselected, rollback] at h
  | ok selected =>
      simp only [commitSelected, hselected, commit, Except.ok.injEq] at h ⊢
      subst h
      simp only [selectChallenge] at hselected
      cases hrow : written.challenges.lookup challengeId with
      | none => simp [hrow] at hselected
      | some row =>
          rw [stateOf, hrow]
          simp only [hrow] at hselected
          split at hselected
          · cases hselected
          · cases hselected
            rfl

theorem tellsState_challengeLifecycle {now : ℕ} :
    TellsState challengeId (db.challengeLifecycle challengeId now) := by
  simp only [challengeLifecycle]
  split
  · exact tellsState_error
  · exact tellsState_commitSelected

theorem tellsState_pauseChallenge {reason : PauseReason} {now : ℕ} :
    TellsState challengeId (db.pauseChallenge challengeId reason now) := by
  simp only [pauseChallenge]
  split
  · exact tellsState_error
  · split
    · exact tellsState_error
    · split
      · exact tellsState_error
      · exact tellsState_commitSelected

theorem tellsState_cancelChallenge {now : ℕ} :
    TellsState challengeId (db.cancelChallenge challengeId now) := by
  simp only [cancelChallenge]
  split
  · exact tellsState_error
  · split
    · exact tellsState_error
    · split
      · exact tellsState_error
      · split
        · exact tellsState_commitSelected
        · split
          · exact tellsState_error
          · exact tellsState_commitSelected

/-! ## What a call announces -/

/-- A session's lifecycle is read again before it is announced. -/
theorem update_notMem_session {sessionId : WorkSessionId} {topic : StreamTopic}
    {update : StreamUpdate} : .update topic update ∉ notifyLifecycleForSession db sessionId := by
  simp only [notifyLifecycleForSession]
  split
  · exact List.not_mem_nil
  · simp

/-- Every update a call announces tells what its transaction left, an acceptance that repeats an
older one apart. -/
theorem persists_notified {request : AuthorityRequest} {topic : StreamTopic}
    {update : StreamUpdate}
    (hrepeats : ∀ event leaseId clock now passUuid,
      request = .acceptWork event leaseId clock now passUuid → db.RepeatsProgress event)
    (h : .update topic update ∈ notifications db request (authorityStep db request).2) :
    (authorityStep db request).1.Persists topic update := by
  have hlifecycle : ∀ {challengeId : ChallengeId} {result : TransactionResult ChallengeLifecycle}
      {lifecycle : ChallengeLifecycle}, TellsState challengeId result →
      (answer .lifecycle result).2 = .lifecycle lifecycle →
      .update topic update ∈ [Feed.Notice.update (StreamTopic.challengeLifecycle challengeId)
        (StreamUpdate.challengeLifecycle lifecycle)] →
      result.1.Persists topic update := by
    intro challengeId result lifecycle htells hanswer hmem
    rw [List.mem_singleton, Feed.Notice.update.injEq] at hmem
    obtain ⟨rfl, rfl⟩ := hmem
    apply htells
    simp only [answer] at hanswer
    split at hanswer
    · next heq => rw [heq, AuthorityReply.lifecycle.inj hanswer]
    · cases hanswer
  generalize hreply : (authorityStep db request).2 = reply at h
  unfold notifications at h
  split at h
  · exact hlifecycle tellsState_challengeLifecycle hreply h
  · exact hlifecycle tellsState_pauseChallenge hreply h
  · exact hlifecycle tellsState_cancelChallenge hreply h
  · next acceptance =>
      have hprogress := storedProgress_accepted (hrepeats _ _ _ _ _ rfl) hreply
      rcases List.mem_cons.mp h with hupdate | hreread
      · rw [Feed.Notice.update.injEq] at hupdate
        obtain ⟨rfl, rfl⟩ := hupdate
        exact hprogress
      · split at hreread
        · simp at hreread
        · cases hreread
  · split at h
    · exact absurd h update_notMem_session
    · cases h
  all_goals first
    | exact absurd h update_notMem_session
    | simp at h

/-- A commit with its announcements: what no announcement is about is as it was. -/
theorem fresh_leaveAll {feed : Feed StreamTopic StreamUpdate}
    {current : StreamTopic → StreamUpdate → Prop} {made : List StreamNotice}
    (hfresh : feed.Fresh current)
    (hcurrent : ∀ topic, topic ∉ made.map Feed.Notice.subject → ∀ update,
      current topic update → db.Persists topic update)
    (hupdates : ∀ topic update, .update topic update ∈ made → after.Persists topic update)
    (hprogress : ∀ challengeId ∈ db.challenges,
      .verifiedProgress challengeId ∉ made.map Feed.Notice.subject →
      after.storedProgress challengeId = db.storedProgress challengeId) :
    ((unannounced db after made ++ made).foldl Feed.leave feed).Fresh after.Persists := by
  apply hfresh.leaveAll
  · intro topic update hmem
    rcases List.mem_append.mp hmem with hsilent | hmade
    · simp [unannounced] at hsilent
    · exact hupdates topic update hmade
  · intro topic _ hsilent update hholds
    rw [List.map_append, List.mem_append, not_or] at hsilent
    have hbefore := hcurrent topic hsilent.2 update hholds
    cases topic with
    | verifiedProgress challengeId =>
        cases update with
        | challengeLifecycle lifecycle => exact hbefore
        | verifiedProgress update =>
            have hmem : challengeId ∈ db.challenges := by
              obtain ⟨row, hrow, -⟩ := Option.map_eq_some_iff.mp hbefore
              exact Rows.mem_of_lookup hrow
            exact (hprogress challengeId hmem hsilent.2).trans hbefore
    | challengeLifecycle challengeId =>
        cases update with
        | verifiedProgress update => exact hbefore
        | challengeLifecycle lifecycle =>
            have hmem : challengeId ∈ db.challenges := by
              obtain ⟨row, hrow, -⟩ := Option.map_eq_some_iff.mp hbefore
              exact Rows.mem_of_lookup hrow
            have hsame : after.stateOf challengeId = db.stateOf challengeId := by
              by_contra hchanged
              apply hsilent.1
              simp only [unannounced, List.map_map, List.mem_map, List.mem_filter]
              refine ⟨challengeId, ⟨?_, ?_⟩, rfl⟩
              · rw [lifecycleChanges, List.mem_filter]
                exact ⟨AList.mem_keys.mp hmem, bne_iff_ne.mpr hchanged⟩
              · simpa using hsilent.2
            exact hsame.trans hbefore

end AuthorityDatabase

/-! ## Runs -/

namespace StreamSystem

variable {system : StreamSystem}

/-- What the application does not see to: announcements are sent in turn, no old acceptance is
repeated, and who takes its place has read what is stored or will hear of it. -/
def Orderly (system : StreamSystem) : StreamRequest → Prop
  | .transaction (.acceptWork event _ _ _ _) => system.authority.RepeatsProgress event
  | .notify position => system.feed.InTurn position
  | .subscribe position => system.feed.InTime system.authority.Persists position
  | _ => True

instance decidableOrderly (system : StreamSystem) (request : StreamRequest) :
    Decidable (system.Orderly request) := by
  unfold Orderly
  split
  · unfold AuthorityDatabase.RepeatsProgress
    infer_instance
  · unfold Feed.InTurn
    infer_instance
  · unfold Feed.InTime
    infer_instance
  · infer_instance

/-- Whoever follows a stream ends with what is stored. -/
def UpToDate (system : StreamSystem) : Prop :=
  system.feed.Fresh system.authority.Persists

theorem upToDate_transaction (h : system.UpToDate) {request : AuthorityRequest}
    (horderly : system.Orderly (.transaction request)) :
    (system.commit (authorityStep system.authority request).1
      (notifications system.authority request
        (authorityStep system.authority request).2)).UpToDate := by
  apply AuthorityDatabase.fresh_leaveAll h fun _ _ _ hholds => hholds
  · intro topic update hmade
    apply AuthorityDatabase.persists_notified ?_ hmade
    rintro event leaseId clock now passUuid rfl
    exact horderly
  · intro challengeId hmem hsilent
    by_cases haccepts : ∃ event leaseId clock now passUuid,
        request = .acceptWork event leaseId clock now passUuid
    · obtain ⟨event, leaseId, clock, now, passUuid, rfl⟩ := haccepts
      rcases system.authority.storedProgress_acceptWork challengeId event leaseId clock now passUuid
        with hsame | ⟨acceptance, hreply, rfl⟩
      · exact hsame
      · rw [hreply, notifications] at hsilent
        simp [Feed.Notice.subject] at hsilent
    · apply AuthorityDatabase.storedProgress_step hmem
      rintro event leaseId clock now passUuid rfl
      exact haccepts ⟨event, leaseId, clock, now, passUuid, rfl⟩

/-- A lifecycle read without announcing it. -/
theorem upToDate_repositoryLifecycle (h : system.UpToDate) (challengeId : ChallengeId) (now : ℕ) :
    (system.repositoryLifecycle challengeId now).1.UpToDate := by
  apply AuthorityDatabase.fresh_leaveAll h fun _ _ _ hholds => hholds
  · intro topic update hmade
    cases hmade
  · intro other hmem _
    exact AuthorityDatabase.storedProgress_step hmem fun _ _ _ _ _ => nofun

theorem upToDate_readLifecycle (h : system.UpToDate) (challengeId : ChallengeId) (now : ℕ) :
    (system.readLifecycle challengeId now).1.UpToDate := by
  have hprogress : ∀ other ∈ system.authority.challenges,
      (authorityStep system.authority (.challengeLifecycle challengeId now)).1.storedProgress other =
        system.authority.storedProgress other := fun other hmem =>
    AuthorityDatabase.storedProgress_step hmem fun _ _ _ _ _ => nofun
  have htells : ∀ topic update, .update topic update ∈ notifications system.authority
      (.challengeLifecycle challengeId now)
        (authorityStep system.authority (.challengeLifecycle challengeId now)).2 →
      (authorityStep system.authority (.challengeLifecycle challengeId now)).1.Persists topic
        update := fun topic update =>
    AuthorityDatabase.persists_notified fun _ _ _ _ _ => nofun
  simp only [readLifecycle]
  split
  · next lifecycle hreply =>
      rw [hreply] at htells
      refine AuthorityDatabase.fresh_leaveAll (Feed.Fresh.settle h _) ?_ ?_ ?_
      · intro topic hsilent update hholds
        simp only [List.map_cons, List.map_nil, List.mem_singleton, Feed.Notice.subject] at hsilent
        exact hholds.resolve_left hsilent
      · exact htells
      · exact fun other hmem _ => hprogress other hmem
  · apply AuthorityDatabase.fresh_leaveAll h fun _ _ _ hholds => hholds
    · intro topic update hmade
      cases hmade
    · exact fun other hmem _ => hprogress other hmem

theorem upToDate_lifecycleSnapshot (h : system.UpToDate) (challengeId : ChallengeId) (now : ℕ) :
    (system.lifecycleSnapshot challengeId now).1.UpToDate := by
  have horderly : system.Orderly (.transaction (.challengeLifecycle challengeId now)) := trivial
  have hcommitted := upToDate_transaction h horderly
  simp only [lifecycleSnapshot]
  split
  · exact hcommitted.look _ _
  · exact hcommitted

theorem upToDate_step (h : system.UpToDate) {request : StreamRequest}
    (horderly : system.Orderly request) : (streamStep system request).1.UpToDate := by
  cases request with
  | transaction request => exact upToDate_transaction h horderly
  | repositoryLifecycle challengeId now => exact upToDate_repositoryLifecycle h challengeId now
  | readLifecycle challengeId now => exact upToDate_readLifecycle h challengeId now
  | notify position => exact Feed.Fresh.notify h horderly
  | progressSnapshot challengeId =>
      simp only [streamStep]
      split
      · exact h
      · exact Feed.Fresh.look h _ _
  | lifecycleSnapshot challengeId now => exact upToDate_lifecycleSnapshot h challengeId now
  | subscribe position => exact Feed.Fresh.subscribe h horderly
  | receive position => exact Feed.Fresh.receive h position

end StreamSystem

/-- As long as every step is orderly, a client that has drained its channel, was told of no loss and
waits for no announcement was last given what is persisted. -/
theorem streams_missNothing {history : List (StreamRequest × StreamReply)} {system : StreamSystem}
    (hrun : (authorityStreams.under fun _ system request => system.Orderly request).Run history
      system) :
    ∀ receiver ∈ system.feed.receivers, ¬ system.feed.Outstanding receiver.topic →
      receiver.queue = [] → receiver.Whole →
      system.authority.Persists receiver.topic receiver.last := by
  have hfresh : system.UpToDate := by
    refine Machine.Run.invariant (P := fun _ system => system.UpToDate)
      (Feed.Fresh.empty _) ?_ hrun
    intro earlier reached request hadmits h
    exact StreamSystem.upToDate_step h hadmits.2
  intro receiver hreceiver hsettled hdrained hwhole
  exact hfresh.last_current hreceiver hwhole hsettled hdrained

/-- A client of both streams of a challenge that a single share satisfies.  The client is there
before the share arrives. -/
def subscribedShareRequests : List StreamRequest :=
  let challengeId : ChallengeId := ⟨"challenge_a", isChallengeId_a⟩
  (singleShareRequests.take 5).map .transaction ++
    [.readLifecycle challengeId 4, .notify 0, .progressSnapshot challengeId, .subscribe 0,
      .lifecycleSnapshot challengeId 5, .notify 0, .subscribe 0] ++
    (singleShareRequests.drop 5).map .transaction ++
    [.notify 0, .readLifecycle challengeId 6, .notify 0, .receive 0, .receive 1]

theorem subscribedShareRequests_missNothing :
    ∃ history system,
      (authorityStreams.under fun _ system request => system.Orderly request).Run history system ∧
      ∀ receiver ∈ system.feed.receivers,
        system.authority.Persists receiver.topic receiver.last := by
  have hrun := Machine.run_replay
    (M := authorityStreams.under fun _ system request => system.Orderly request)
    subscribedShareRequests (by decide +kernel)
  have hsettled : ∀ receiver ∈ ((authorityStreams.under fun _ system request =>
      system.Orderly request).replay subscribedShareRequests).2.feed.receivers,
      ¬ ((authorityStreams.under fun _ system request =>
        system.Orderly request).replay subscribedShareRequests).2.feed.Outstanding
          receiver.topic ∧ receiver.queue = [] ∧ receiver.skipped = 0 ∧
        receiver.resynced = false := by
    decide +kernel
  refine ⟨_, _, hrun, fun receiver hreceiver => ?_⟩
  obtain ⟨hannounced, hdrained, hskipped, hresynced⟩ := hsettled receiver hreceiver
  exact streams_missNothing hrun receiver hreceiver hannounced hdrained ⟨hskipped, hresynced⟩

/-- The client of the progress stream reads its snapshot before the share is accepted, and takes its
place after the announcement. -/
def gapRequests : List StreamRequest :=
  let challengeId : ChallengeId := ⟨"challenge_a", isChallengeId_a⟩
  (singleShareRequests.take 5).map .transaction ++
    [.readLifecycle challengeId 4, .notify 0, .progressSnapshot challengeId] ++
    (singleShareRequests.drop 5).map .transaction ++
    [.notify 0, .readLifecycle challengeId 6, .notify 0, .subscribe 0]

theorem gapRequests_missProgress :
    ¬ ∀ history system, authorityStreams.Run history system →
      ∀ receiver ∈ system.feed.receivers, ¬ system.feed.Outstanding receiver.topic →
        receiver.queue = [] → receiver.Whole →
        system.authority.Persists receiver.topic receiver.last := by
  intro hclaim
  have hrun := Machine.run_replay (M := authorityStreams) gapRequests (by decide +kernel)
  have hstale : ∃ receiver ∈ (authorityStreams.replay gapRequests).2.feed.receivers,
      ¬ (authorityStreams.replay gapRequests).2.feed.Outstanding receiver.topic ∧
      receiver.queue = [] ∧ (receiver.skipped = 0 ∧ receiver.resynced = false) ∧
      ¬ (authorityStreams.replay gapRequests).2.authority.Persists receiver.topic
        receiver.last := by
    decide +kernel
  obtain ⟨receiver, hreceiver, hsettled, hdrained, hwhole, hold⟩ := hstale
  exact hold (hclaim _ _ hrun receiver hreceiver hsettled hdrained hwhole)

end WorkGate
