/-
# A retention job is worked off once

A job holds its items in the order of their numbers, and a cursor.  Batches of several jobs may be
requested in any order, fail and be requested again, between the service's own transactions; the
answers to the batches of one job add up to its items up to the cursor, each counted once.
-/

import WorkGate.Governance.Service

namespace WorkGate.Governance

open WorkGate.Library

/-! ## One batch -/

/-- Numbered items beyond a cursor are the rest of the list. -/
theorem filter_sequence_eq_drop {items : List PlannedItem} {start cursor : ℕ}
    (hnumbered : items.map PlannedItem.sequence = List.range' (start + 1) items.length)
    (hcursor : start ≤ cursor) :
    (items.filter fun item => decide (cursor < item.sequence)) = items.drop (cursor - start) := by
  induction items generalizing start cursor with
  | nil => rw [List.filter_nil, List.drop_nil]
  | cons item items ih =>
      rw [List.map_cons, List.length_cons, List.range'_succ] at hnumbered
      obtain ⟨hfirst, hrest⟩ := List.cons.inj hnumbered
      by_cases hpast : cursor = start
      · have hall : (items.filter fun item => decide (cursor < item.sequence)) = items := by
          rw [List.filter_eq_self]
          intro later hlater
          have hmem := List.mem_map_of_mem (f := PlannedItem.sequence) hlater
          rw [hrest, List.mem_range'_1] at hmem
          exact decide_eq_true (by omega)
        have hkept : cursor < item.sequence := by omega
        rw [List.filter_cons, if_pos (decide_eq_true hkept), hall, hpast, Nat.sub_self,
          List.drop_zero]
      · have hdropped : ¬ decide (cursor < item.sequence) = true := by
          rw [decide_eq_true_eq]
          omega
        have hsucc : cursor - start = cursor - (start + 1) + 1 := by omega
        rw [List.filter_cons, if_neg hdropped, ih hrest (by omega), hsucc, List.drop_succ_cons]

/-- What a batch takes of a planned job. -/
theorem batch_eq_take {asOf batchSize : ℕ} {job : RetentionJobRow}
    (hitems : PlannedItems asOf job.items) :
    GovernedDatabase.RetentionJobRow.batch job batchSize =
      (job.items.drop job.cursor).take batchSize := by
  have hdrop := @filter_sequence_eq_drop job.items 0 job.cursor hitems.numbered (Nat.zero_le _)
  rw [GovernedDatabase.RetentionJobRow.batch, hdrop, Nat.sub_zero]

/-- The items a result counts under an action. -/
def RetentionAction.count (result : GovernedDatabase.ApplyRetentionResult) : RetentionAction → ℕ
  | .delete => result.deletedItems
  | .pseudonymize => result.pseudonymizedItems

/-- The items a batch has counted under an action so far. -/
def RetentionAction.countSoFar (progress : GovernedDatabase.BatchProgress) : RetentionAction → ℕ
  | .delete => progress.deletedItems
  | .pseudonymize => progress.pseudonymizedItems

/-- An item is counted once, under its action. -/
theorem countSoFar_applyItem {world : GovernanceWorld} {draws : Draws} {asOf : ℕ}
    {policy : RetentionPolicy} {maybeKey : Option String}
    {progress next : GovernedDatabase.BatchProgress} {item : PlannedItem}
    (h : GovernedDatabase.applyItem world draws asOf policy maybeKey progress item = .ok next)
    (action : RetentionAction) :
    action.countSoFar next =
      action.countSoFar progress + if (item.action == action) = true then 1 else 0 := by
  rw [GovernedDatabase.applyItem, bind_eq_ok] at h
  obtain ⟨⟨after, affected⟩, -, h⟩ := h
  obtain ⟨-, hnext⟩ := throwIf_bind_eq_ok.mp h
  split at hnext
  · next haction =>
      cases pure_eq_ok.mp hnext
      rw [haction]
      cases action with
      | delete => rfl
      | pseudonymize => rfl
  · next haction =>
      cases pure_eq_ok.mp hnext
      rw [haction]
      cases action with
      | delete => rfl
      | pseudonymize => rfl

/-- A batch that goes through counts each of its items once and moves the cursor behind them. -/
theorem applyItems_eq_ok {world : GovernanceWorld} {draws : Draws} {asOf : ℕ}
    {policy : RetentionPolicy} {maybeKey : Option String} {items : List PlannedItem}
    {progress next : GovernedDatabase.BatchProgress}
    (hnumbered : items.map PlannedItem.sequence =
      List.range' (progress.nextCursor + 1) items.length)
    (h : items.foldlM (GovernedDatabase.applyItem world draws asOf policy maybeKey) progress =
      .ok next) :
    next.nextCursor = progress.nextCursor + items.length ∧
      ∀ action : RetentionAction, action.countSoFar next =
        action.countSoFar progress + items.countP fun item => item.action == action := by
  induction items generalizing progress with
  | nil =>
      cases h
      exact ⟨rfl, fun action => rfl⟩
  | cons item items ih =>
      rw [List.foldlM_cons, bind_eq_ok] at h
      obtain ⟨middle, hmiddle, hrest⟩ := h
      rw [List.map_cons, List.length_cons, List.range'_succ] at hnumbered
      obtain ⟨hfirst, hlater⟩ := List.cons.inj hnumbered
      have hcursor := (GovernedDatabase.applyItem_eq_ok hmiddle).2
      rw [hfirst] at hcursor
      rw [← hcursor] at hlater
      obtain ⟨hnext, hcounts⟩ := ih hlater hrest
      refine ⟨?_, ?_⟩
      · rw [hnext, hcursor, List.length_cons]
        omega
      · intro action
        rw [hcounts action, countSoFar_applyItem hmiddle action, List.countP_cons]
        omega

/-! ## Many batches -/

/-- What an answer counts for a job under an action. -/
def answeredItems (action : RetentionAction) (jobId : String) :
    GovernedRequest × GovernedReply → ℕ
  | (.applyRetention request _, .applied result) =>
      if request.jobId = jobId then action.count result else 0
  | _ => 0

/-- What the answers of a history count for a job under an action. -/
def answeredTotal (action : RetentionAction) (jobId : String)
    (history : List (GovernedRequest × GovernedReply)) : ℕ :=
  (history.map (answeredItems action jobId)).sum

/-- The answers so far are those to the items up to the cursor. -/
structure WorkedOff (total : RetentionAction → ℕ) (job : RetentionJobRow) : Prop where
  counted : ∀ action, total action =
    (job.items.take job.cursor).countP fun item => item.action == action
  cursor : job.cursor ≤ job.items.length
  completed : job.status = .completed → job.cursor = job.items.length
  unfinished : job.status ≠ .completed → job.items ≠ [] → job.cursor < job.items.length

/-- A job that was not planned has no answers. -/
structure JobAnswers (total : RetentionAction → ℕ) (maybeJob : Option RetentionJobRow) : Prop where
  absent : maybeJob = none → ∀ action, total action = 0
  present : ∀ job, maybeJob = some job → WorkedOff total job

/-- A batch that goes through works off the items it takes. -/
theorem workedOff_applies {now : ℕ} {total : RetentionAction → ℕ} {world : GovernanceWorld}
    {db : GovernedDatabase} {draws : Draws} {job : RetentionJobRow} {batchSize : ℕ}
    {maybeKey : Option String} {progress : GovernedDatabase.BatchProgress}
    (hjob : SoundJob now job) (h : WorkedOff total job)
    (hprogress : (GovernedDatabase.RetentionJobRow.batch job batchSize).foldlM
      (GovernedDatabase.applyItem world draws job.asOfUnixSeconds job.policy maybeKey)
        ⟨db, job.cursor, 0, 0⟩ = .ok progress) :
    progress.nextCursor = min (job.cursor + batchSize) job.items.length ∧
      ∀ action : RetentionAction, total action + action.countSoFar progress =
        (job.items.take progress.nextCursor).countP fun item => item.action == action := by
  rw [batch_eq_take hjob.items] at hprogress
  have hlength : ((job.items.drop job.cursor).take batchSize).length =
      min batchSize (job.items.length - job.cursor) := by
    rw [List.length_take, List.length_drop]
  have hnumbered : ((job.items.drop job.cursor).take batchSize).map PlannedItem.sequence =
      List.range' (job.cursor + 1) ((job.items.drop job.cursor).take batchSize).length := by
    rw [List.map_take, List.map_drop, hjob.items.numbered, List.drop_range', Nat.mul_one,
      Nat.add_comm 1, hlength]
    by_cases hshort : batchSize ≤ job.items.length - job.cursor
    · rw [List.take_range'_of_length_ge hshort, Nat.min_eq_left hshort]
    · rw [List.take_range'_of_length_le (by omega), Nat.min_eq_right (by omega)]
  obtain ⟨hcursor, hcounts⟩ := applyItems_eq_ok hnumbered hprogress
  have hnext : progress.nextCursor = min (job.cursor + batchSize) job.items.length := by
    have hbound := h.cursor
    rw [hcursor, hlength]
    show job.cursor + min batchSize (job.items.length - job.cursor) =
      min (job.cursor + batchSize) job.items.length
    omega
  refine ⟨hnext, ?_⟩
  intro action
  have htake : job.items.take progress.nextCursor =
      job.items.take job.cursor ++ (job.items.drop job.cursor).take batchSize := by
    rw [hnext, ← List.take_eq_take_min, List.take_add]
  have hzero : action.countSoFar ⟨db, job.cursor, 0, 0⟩ = 0 := by
    cases action with
    | delete => rfl
    | pseudonymize => rfl
  rw [htake, List.countP_append, ← h.counted action, hcounts action, hzero, Nat.zero_add]

theorem JobAnswers.of_eq {total other : RetentionAction → ℕ} {maybeJob : Option RetentionJobRow}
    (h : JobAnswers total maybeJob) (hsame : ∀ action, other action = total action) :
    JobAnswers other maybeJob := by
  cases funext hsame
  exact h

/-- A step that answers nothing for a job and leaves it alone. -/
theorem JobAnswers.step {jobId : String} {history : List (GovernedRequest × GovernedReply)}
    {maybeJob : Option RetentionJobRow} {entry : GovernedRequest × GovernedReply}
    (h : JobAnswers (fun action => answeredTotal action jobId history) maybeJob)
    (hnone : ∀ action, answeredItems action jobId entry = 0) :
    JobAnswers (fun action => answeredTotal action jobId (entry :: history)) maybeJob := by
  apply h.of_eq
  intro action
  rw [answeredTotal, List.map_cons, List.sum_cons, hnone action, Nat.zero_add, answeredTotal]

theorem jobAnswers_effect {world : GovernanceWorld} {db after : GovernedDatabase} {now : ℕ}
    {request : GovernedRequest} {reply : GovernedReply} {jobId : String}
    {history : List (GovernedRequest × GovernedReply)}
    (heffect : GovernedEffect world db request reply after)
    (hjobs : Rows.All (fun _ job => SoundJob now job) db.retentionJobs)
    (h : JobAnswers (fun action => answeredTotal action jobId history)
      (db.retentionJobs.lookup jobId)) :
    JobAnswers (fun action => answeredTotal action jobId ((request, reply) :: history))
      (after.retentionJobs.lookup jobId) := by
  cases heffect with
  | serves => exact h.step fun action => rfl
  | refuses request =>
      apply h.step
      intro action
      cases request with
      | store | planRetention | applyRetention | recordRetentionFailure | startExport => rfl
  | records _ _ haudited | exports _ _ _ _ haudited =>
      rw [haudited.retentionJobs]
      exact h.step fun action => rfl
  | @plans read asOf policy trustedNow planned draws found _ _ hfresh hnew haudited =>
      rw [haudited.retentionJobs, Rows.lookup_insert_eq]
      have hstep : JobAnswers (fun action => answeredTotal action jobId
          ((.planRetention read asOf policy trustedNow planned draws, .planned found) :: history))
          (db.retentionJobs.lookup jobId) := h.step fun action => rfl
      split
      · next hsame =>
          subst hsame
          refine ⟨fun habsent => absurd habsent (Option.some_ne_none _), ?_⟩
          intro job hjob
          cases hjob
          refine ⟨?_, ?_, ?_, ?_⟩
          · intro action
            rw [hstep.absent (AList.lookup_eq_none.mpr hnew) action, hfresh.cursor, List.take_zero,
              List.countP_nil]
          · rw [hfresh.cursor]
            exact Nat.zero_le _
          · intro hcompleted
            rw [hfresh.status] at hcompleted
            cases hcompleted
          · intro _ hnonempty
            rw [hfresh.cursor]
            exact List.length_pos_of_ne_nil hnonempty
      · exact hstep
  | repeats _ _ _ _ haudited =>
      rw [haudited.retentionJobs]
      apply h.step
      intro action
      rw [answeredItems]
      cases action with
      | delete => exact ite_self 0
      | pseudonymize => exact ite_self 0
  | @applies request draws job progress result _ hjob hopen hprogress hresult haudited =>
      have hsound := hjobs _ _ hjob
      rw [haudited.retentionJobs, advanceJob, (retired_of_batch hsound hprogress).retentionJobs,
        Rows.lookup_updateRow_eq]
      split
      · next hsame =>
          subst hsame
          rw [hjob, Option.map_some]
          refine ⟨fun habsent => absurd habsent (Option.some_ne_none _), ?_⟩
          intro found hfound
          cases hfound
          obtain ⟨hnext, hcounts⟩ := workedOff_applies hsound (h.present job hjob) hprogress
          subst hresult
          refine ⟨?_, ?_, ?_, ?_⟩
          · intro action
            have hanswer : answeredItems action request.jobId (.applyRetention request draws,
                .applied ⟨if job.eligibleItems ≤ progress.nextCursor then .completed else .applying,
                  progress.nextCursor, progress.deletedItems, progress.pseudonymizedItems⟩) =
                action.countSoFar progress := by
              rw [answeredItems, if_pos rfl]
              cases action with
              | delete => rfl
              | pseudonymize => rfl
            rw [← hcounts action, answeredTotal, List.map_cons, List.sum_cons, hanswer,
              Nat.add_comm, answeredTotal]
          · show progress.nextCursor ≤ job.items.length
            omega
          · intro hcompleted
            show progress.nextCursor = job.items.length
            have heligible := hsound.eligible
            by_cases hall : job.eligibleItems ≤ progress.nextCursor
            · omega
            · simp only [if_neg hall] at hcompleted
              cases hcompleted
          · intro hunfinished _
            show progress.nextCursor < job.items.length
            have heligible := hsound.eligible
            by_cases hall : job.eligibleItems ≤ progress.nextCursor
            · simp only [if_pos hall] at hunfinished
              exact absurd rfl hunfinished
            · omega
      · next hother =>
          apply h.step
          intro action
          rw [answeredItems, if_neg (Ne.symm hother)]

theorem jobAnswers_of_run {world : GovernanceWorld} {expiry : String × String → ℕ}
    {history : List (GovernedRequest × GovernedReply)} {db : GovernedDatabase}
    (hrun : (governedService world expiry).Run history db) (jobId : String) :
    JobAnswers (fun action => answeredTotal action jobId history)
      (db.retentionJobs.lookup jobId) := by
  refine Machine.Run.invariant_of (M := governedService world expiry)
    (Q := fun history db =>
      Rows.All (fun _ job => SoundJob (latestInstant history) job) db.retentionJobs)
    (P := fun history db => JobAnswers (fun action => answeredTotal action jobId history)
      (db.retentionJobs.lookup jobId)) (fun _ _ hreached => soundJobs_of_run hreached) ?_ ?_ hrun
  · refine ⟨fun _ _ => rfl, ?_⟩
    intro job hjob
    simp [governedService, GovernedDatabase.empty] at hjob
  · intro history db request _ hjobs hanswers
    exact jobAnswers_effect (GovernedEffect.of_step world db request) hjobs hanswers

/-- In every run the answers to the batches of a job count the items up to its cursor, each once and
under its action; the job is completed with the last of them; and a batch that is answered next
takes as many of the others as it asked for. -/
theorem governedService_worksOff {world : GovernanceWorld} {expiry : String × String → ℕ}
    {history : List (GovernedRequest × GovernedReply)} {db : GovernedDatabase}
    (hrun : (governedService world expiry).Run history db) {jobId : String}
    {job : RetentionJobRow} (hjob : db.retentionJobs.lookup jobId = some job) :
    WorkedOff (fun action => answeredTotal action jobId history) job ∧
      ∀ (request : GovernedDatabase.ApplyRetentionRequest) (draws : Draws)
        (result : GovernedDatabase.ApplyRetentionResult), request.jobId = jobId →
        (governedStep world db (.applyRetention request draws)).2 = .applied result →
          result.cursor = min (job.cursor + request.batchSize) job.items.length := by
  have hworked := (jobAnswers_of_run hrun jobId).present job hjob
  refine ⟨hworked, ?_⟩
  intro request draws result hid hreply
  subst hid
  have heffect := GovernedEffect.of_step world db (.applyRetention request draws)
  rw [hreply] at heffect
  generalize (governedStep world db (.applyRetention request draws)).1 = after at heffect
  cases heffect with
  | repeats _ _ hfound hcompleted =>
      cases Option.some.inj (hjob.symm.trans hfound)
      show job.cursor = min (job.cursor + request.batchSize) job.items.length
      have hlast := hworked.completed hcompleted
      omega
  | applies _ _ hfound _ hprogress hresult =>
      cases Option.some.inj (hjob.symm.trans hfound)
      rw [hresult]
      exact (workedOff_applies (soundJobs_of_run hrun _ _ hjob) hworked hprogress).1

theorem retiredRequests_worksOff :
    ∃ job, (exampleService.replay retiredRequests).2.retentionJobs.lookup "job_a" = some job ∧
      job.status = .completed ∧
      WorkedOff (fun action => answeredTotal action "job_a"
        (exampleService.replay retiredRequests).1) job := by
  have hrun := Machine.run_replay (M := exampleService) retiredRequests (by decide +kernel)
  have hcompleted : ((exampleService.replay retiredRequests).2.retentionJobs.lookup "job_a").map
      RetentionJobRow.status = some .completed := by decide +kernel
  obtain ⟨job, hjob, hstatus⟩ := Option.map_eq_some_iff.mp hcompleted
  exact ⟨job, hjob, hstatus, (governedService_worksOff hrun hjob).1⟩

end WorkGate.Governance
