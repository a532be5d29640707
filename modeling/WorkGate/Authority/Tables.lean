/-
# The store refines the transition tables

The tables of `Lifecycle.lean` are the abstract machine: which state a challenge or a
session may move to.  Several transactions write the state columns without asking the
tables, so that every transaction stays within them is a fact about the whole store.  One
does not: a completion that was overtaken takes its challenge out of `expired`.
-/

import WorkGate.Authority.Completions
import WorkGate.Authority.Coupling

namespace WorkGate

open WorkGate.Library

namespace AuthorityDatabase

/-! ## Challenges -/

/-- A move that neither satisfies a challenge nor issues its pass. -/
def lifecycleMoveAllowed (start target : ChallengeLifecycleState) : Bool :=
  challengeTransitionAllowed start target &&
    (start == target || target != .satisfied && target != .passIssued)

/-- Several such moves in a row are one. -/
theorem lifecycleMoveAllowed_trans {start middle target : ChallengeLifecycleState}
    (hfirst : lifecycleMoveAllowed start middle = true)
    (hsecond : lifecycleMoveAllowed middle target = true) :
    lifecycleMoveAllowed start target = true := by
  revert hfirst hsecond
  cases start <;> cases middle <;> cases target <;> decide

theorem challengeTransitionAllowed_refl (state : ChallengeLifecycleState) :
    challengeTransitionAllowed state state = true := by
  cases state <;> rfl

/-- Every challenge is still there, and its state moved as `allowed` says. -/
def MovesChallenges (allowed : ChallengeLifecycleState → ChallengeLifecycleState → Bool)
    (db after : AuthorityDatabase) : Prop :=
  ∀ challengeId row, db.challenges.lookup challengeId = some row →
    ∃ later, after.challenges.lookup challengeId = some later ∧
      allowed row.lifecycleState later.lifecycleState = true

section Challenges

variable {clock now : ℕ} {db after : AuthorityDatabase}

/-- One challenge moved, the others stayed. -/
theorem movesChallenges_setLifecycle
    {allowed : ChallengeLifecycleState → ChallengeLifecycleState → Bool}
    (hrefl : ∀ state, allowed state state = true) {challengeId : ChallengeId} {row : ChallengeRow}
    (hrow : db.challenges.lookup challengeId = some row) {state : ChallengeLifecycleState}
    (changedAt : ℕ) (terminalAt : Option ℕ → Option ℕ)
    (hstate : allowed row.lifecycleState state = true) :
    MovesChallenges allowed db (db.setLifecycle challengeId state changedAt terminalAt) := by
  intro other found hfound
  rw [AuthorityDatabase.setLifecycle, Rows.lookup_updateRow_eq]
  split
  · next heq =>
      subst heq
      rw [hrow, Option.some.injEq] at hfound
      subst hfound
      rw [hrow, Option.map_some]
      exact ⟨_, rfl, hstate⟩
  · exact ⟨found, hfound, hrefl _⟩

theorem lifecycleMoveAllowed_refl (state : ChallengeLifecycleState) :
    lifecycleMoveAllowed state state = true := by
  cases state <;> rfl

theorem movesChallenges_statement (h : LifecycleStatement now db after) :
    MovesChallenges lifecycleMoveAllowed db after := by
  cases h with
  | elsewhere hchallenges hfingerprints hevents hintents =>
      intro challengeId row hrow
      exact ⟨row, by rw [hchallenges, hrow], lifecycleMoveAllowed_refl _⟩
  | @expire challengeId row hrow hopen hdue changedAt terminalAt =>
      refine movesChallenges_setLifecycle lifecycleMoveAllowed_refl hrow changedAt terminalAt ?_
      revert hopen
      cases row.lifecycleState <;> decide
  | cancel hrow hopen changedAt terminalAt =>
      refine movesChallenges_setLifecycle lifecycleMoveAllowed_refl hrow changedAt terminalAt ?_
      rcases hopen with hissued | hactive
      · rw [hissued]
        rfl
      · rw [hactive]
        rfl
  | activate hrow hissued changedAt terminalAt =>
      refine movesChallenges_setLifecycle lifecycleMoveAllowed_refl hrow changedAt terminalAt ?_
      rw [hissued]
      rfl

theorem movesChallenges_moves (h : LifecycleMoves now db after) :
    MovesChallenges lifecycleMoveAllowed db after := by
  induction h with
  | refl => exact fun _ row hrow => ⟨row, hrow, lifecycleMoveAllowed_refl _⟩
  | tail _ hstatement ih =>
      intro challengeId row hrow
      obtain ⟨middle, hmiddle, hfirst⟩ := ih challengeId row hrow
      obtain ⟨later, hlater, hsecond⟩ :=
        movesChallenges_statement hstatement challengeId middle hmiddle
      exact ⟨later, hlater, lifecycleMoveAllowed_trans hfirst hsecond⟩

/-- The batch that fails overdue intents expires challenges that were satisfied, or that
had expired already. -/
theorem movesChallenges_fails (hinv : FenceInvariant clock db) :
    MovesChallenges challengeTransitionAllowed db
      ((db.failExpiredIssuance now).deleteExpiredProofs now) := by
  intro challengeId row hrow
  obtain ⟨later, hlater, -, hstate⟩ := lookup_failExpiredIssuance_challenges now hrow
  refine ⟨later, hlater, ?_⟩
  rw [hstate]
  split
  · next hexpired =>
      cases hintent : db.intents.lookup challengeId with
      | none =>
          rw [(lookup_failExpiredIssuance_none hintent).1] at hexpired
          cases hexpired
      | some intent =>
          obtain ⟨found, hfound, -, hagrees⟩ := hinv challengeId intent hintent
          rw [hrow, Option.some.injEq] at hfound
          subst hfound
          rcases hagrees.past with hpast | hpast | hpast <;> rw [hpast] <;> rfl
  · exact challengeTransitionAllowed_refl _

theorem movesChallenges_accepts {event : AcceptedWorkEvent} {challengeId : ChallengeId}
    {challenge : ChallengeRow} {transition : AcceptedWorkTransition}
    (haccepts : AcceptsWork db event now after challengeId challenge transition) :
    MovesChallenges challengeTransitionAllowed db after := by
  intro other row hrow
  rw [haccepts.challenges_eq, updateProgress, Rows.lookup_updateRow_eq]
  split
  · next heq =>
      subst heq
      rw [haccepts.challenge_eq, Option.some.injEq] at hrow
      subst hrow
      rw [haccepts.challenge_eq, Option.map_some]
      refine ⟨_, rfl, ?_⟩
      show challengeTransitionAllowed challenge.lifecycleState
        (if transition.satisfied = true then .satisfied else challenge.lifecycleState) = true
      rw [haccepts.active]
      split
      · rfl
      · rfl
  · exact ⟨row, hrow, challengeTransitionAllowed_refl _⟩

/-- A pass moves the one challenge it is issued to. -/
theorem movesChallenges_issuePass {completed : CompletedIssuance} {issuing : ChallengeRow}
    (hissuing : db.challenges.lookup completed.challengeId = some issuing) :
    MovesChallenges challengeTransitionAllowed db (db.issuePass completed) ↔
      challengeTransitionAllowed issuing.lifecycleState .passIssued = true := by
  constructor
  · intro hmoves
    obtain ⟨later, hlater, hallowed⟩ := hmoves _ issuing hissuing
    obtain ⟨issued, hissued, -, hstate⟩ := lookup_issuePass_challenges completed hissuing
    rw [hlater, Option.some.injEq] at hissued
    rwa [hissued, hstate, if_pos rfl] at hallowed
  · intro hallowed challengeId row hrow
    obtain ⟨later, hlater, -, hstate⟩ := lookup_issuePass_challenges completed hrow
    refine ⟨later, hlater, ?_⟩
    rw [hstate]
    split
    · next heq =>
        subst heq
        rw [hrow, Option.some.injEq] at hissuing
        rwa [hissuing]
    · exact challengeTransitionAllowed_refl _

/-- Every transaction that does not complete an issuance moves challenges along the table. -/
theorem movesChallenges_step (hinv : FenceInvariant clock db) {request : AuthorityRequest}
    (hother : request.completes = false) :
    MovesChallenges challengeTransitionAllowed db (authorityStep db request).1 := by
  have heffect := authorityEffect_of_step db request
  generalize (authorityStep db request).1 = after at heffect ⊢
  cases heffect with
  | moves hmoves =>
      intro challengeId row hrow
      obtain ⟨later, hlater, hallowed⟩ := movesChallenges_moves hmoves challengeId row hrow
      rw [lifecycleMoveAllowed, Bool.and_eq_true] at hallowed
      exact ⟨later, hlater, hallowed.1⟩
  | issues hfresh =>
      intro challengeId row hrow
      rw [Rows.lookup_insert_eq]
      split
      · next heq => exact absurd (heq ▸ Rows.mem_of_lookup hrow) hfresh
      · exact ⟨row, hrow, challengeTransitionAllowed_refl _⟩
  | accepts haccepts => exact movesChallenges_accepts haccepts
  | fails => exact movesChallenges_fails hinv
  | claims hintent hclaimable => exact movesChallenges_fails hinv
  | completes => cases hother

end Challenges

/-! ## Sessions -/

theorem sessionTransitionAllowed_refl (state : SessionLifecycleState) :
    sessionTransitionAllowed state state = true := by
  cases state <;> rfl

/-- Stopping sessions that are ready or leased moves each along the table. -/
theorem sessionTransitionAllowed_stopped (row : SessionRow) (reason : SessionStopReason)
    {condition : Prop} [Decidable condition]
    (h : condition → row.lifecycleState = .ready ∨ row.lifecycleState = .leased) :
    sessionTransitionAllowed row.lifecycleState
      (if condition then stoppedSession reason row else row).lifecycleState = true := by
  split
  · next hstopped =>
      rcases h hstopped with hready | hleased
      · rw [hready]
        rfl
      · rw [hleased]
        rfl
  · exact sessionTransitionAllowed_refl _

/-- A write moves its session along the table, and leaves it with its challenge. -/
theorem sessionTransitionAllowed_write {row written : SessionRow}
    (hwrite : SessionWrite row written) :
    written.challengeId = row.challengeId ∧
      sessionTransitionAllowed row.lifecycleState written.lifecycleState = true := by
  cases hwrite with
  | stop reason hstate =>
      refine ⟨rfl, ?_⟩
      rcases hstate with hready | hleased
      · rw [hready]
        rfl
      · rw [hleased]
        rfl
  | renew hstate hlast hrenew => exact ⟨rfl, sessionTransitionAllowed_refl _⟩
  | restore hstate =>
      refine ⟨rfl, ?_⟩
      rw [hstate]
      rfl
  | fail =>
      refine ⟨rfl, ?_⟩
      cases row.lifecycleState <;> rfl
  | reconfirm => exact ⟨rfl, sessionTransitionAllowed_refl _⟩

/-- Every session is still there under its challenge, and its state made at most one move
of the table. -/
theorem sessions_of_effect {db after : AuthorityDatabase} (heffect : SessionEffect db after)
    {sessionId : WorkSessionId} {row : SessionRow}
    (hrow : db.sessions.lookup sessionId = some row) :
    ∃ later, after.sessions.lookup sessionId = some later ∧
      later.challengeId = row.challengeId ∧
      sessionTransitionAllowed row.lifecycleState later.lifecycleState = true := by
  have hsame : db.sessions.lookup sessionId = some row ∧ row.challengeId = row.challengeId ∧
      sessionTransitionAllowed row.lifecycleState row.lifecycleState = true :=
    ⟨hrow, rfl, sessionTransitionAllowed_refl _⟩
  have hset : ∀ {other : WorkSessionId} {found written : SessionRow},
      db.sessions.lookup other = some found → SetsSession db after other written →
      (written.challengeId = found.challengeId ∧
        sessionTransitionAllowed found.lifecycleState written.lifecycleState = true) →
      ∃ later, after.sessions.lookup sessionId = some later ∧
        later.challengeId = row.challengeId ∧
        sessionTransitionAllowed row.lifecycleState later.lifecycleState = true := by
    intro other found written hfound hsets hmove
    rw [hsets sessionId]
    split
    · next heq =>
        subst heq
        rw [hrow, Option.some.injEq] at hfound
        subst hfound
        exact ⟨written, rfl, hmove⟩
    · exact ⟨row, hsame⟩
  cases heffect with
  | keeps hsessions hselections hwork =>
      rw [hsessions]
      exact ⟨row, hsame⟩
  | proposes challengeId selection hfree hproposed hselections hsessions hchallenges =>
      rw [hsessions]
      exact ⟨row, hsame⟩
  | consents selection hold hproposed hconsented hoffer hpayout hselections hsessions
      hchallenges =>
      rw [hsessions]
      exact ⟨row, hsame⟩
  | closes hsessions hselections hothers hkept =>
      rw [hsessions, lookup_stopSessions, hrow, Option.map_some]
      refine ⟨_, rfl, ?_, sessionTransitionAllowed_stopped row _ fun h => by simpa using h.2⟩
      split
      · rfl
      · rfl
  | pauses reason =>
      rw [lookup_stopSessions, hrow, Option.map_some]
      refine ⟨_, rfl, ?_, sessionTransitionAllowed_stopped row _ fun h =>
        .inr (List.mem_singleton.mp h.2)⟩
      split
      · rfl
      · rfl
  | registers registered hfresh hready hchallenge hopen hunder hsets hselections hchallenges =>
      rw [hsets sessionId]
      split
      · next heq => exact absurd (heq ▸ Rows.mem_of_lookup hrow) hfresh
      · exact ⟨row, hsame⟩
  | leases leaseId continuityId maybeCeremonyId hfound hstart hlast hrenew hactive hsets
      hselections hwork =>
      refine hset hfound hsets ⟨rfl, ?_⟩
      rcases hstart with hready | hrestored
      · rw [hready]
        rfl
      · rw [hrestored]
        rfl
  | writes hfound hwrite hsets hselections hchallenges =>
      exact hset hfound hsets (sessionTransitionAllowed_write hwrite)

end AuthorityDatabase

namespace IssuanceSystem

open AuthorityDatabase

variable {history : List (IssuanceRequest × AuthorityReply)} {system : IssuanceSystem}

/-- Every step moves challenges along the table, except that of an overtaken completion. -/
theorem movesChallenges_step (hrun : issuanceSystem.Run history system)
    {request : IssuanceRequest} (hadmits : issuanceSystem.admits history system request) :
    MovesChallenges challengeTransitionAllowed system.store (system.step request).1.store ↔
      undisturbed history system request := by
  have htrace := IssuanceTrace.of_run hrun
  have hsame : MovesChallenges challengeTransitionAllowed system.store system.store :=
    fun _ row hrow => ⟨row, hrow, challengeTransitionAllowed_refl _⟩
  cases request with
  | transaction request =>
      have hother := IssuanceTrace.completes_of_unblocked hadmits.1
      exact iff_of_true (AuthorityDatabase.movesChallenges_step htrace.fence hother) trivial
  | fenceIssuance workerId completed clock =>
      refine iff_of_true ?_ trivial
      simp only [step]
      split
      · exact hsame
      · exact hsame
  | markChallengeIssued challengeId =>
      obtain ⟨completion, hcompletion⟩ := Rows.exists_lookup_of_mem hadmits.1
      obtain ⟨rfl, -, row, hrow, hstate⟩ := htrace.fenced challengeId completion hcompletion
      simp only [step, hcompletion]
      rw [movesChallenges_issuePass hrow, hstate, undisturbed]
      cases overtaken completion.completed.challengeId history with
      | true => exact iff_of_false (by decide) (by decide)
      | false => exact iff_of_true rfl rfl
  | abandonIssuance challengeId => exact iff_of_true hsame trivial

/-- Every step moves each session along at most one pair of its table. -/
theorem sessions_step (hrun : issuanceSystem.Run history system) {request : IssuanceRequest}
    (hadmits : issuanceSystem.admits history system request) {sessionId : WorkSessionId}
    {row : SessionRow} (hrow : system.store.sessions.lookup sessionId = some row) :
    ∃ later, (system.step request).1.store.sessions.lookup sessionId = some later ∧
      later.challengeId = row.challengeId ∧
      sessionTransitionAllowed row.lifecycleState later.lifecycleState = true := by
  have hsame : ∃ later, system.store.sessions.lookup sessionId = some later ∧
      later.challengeId = row.challengeId ∧
      sessionTransitionAllowed row.lifecycleState later.lifecycleState = true :=
    ⟨row, hrow, rfl, sessionTransitionAllowed_refl _⟩
  cases request with
  | transaction request =>
      obtain ⟨transactions, hstore⟩ := store_run hrun
      exact sessions_of_effect (sessionEffect_of_run hstore request) hrow
  | fenceIssuance workerId completed clock =>
      simp only [step]
      split
      · exact hsame
      · exact hsame
  | markChallengeIssued challengeId =>
      obtain ⟨completion, hcompletion⟩ := Rows.exists_lookup_of_mem hadmits.1
      simp only [step, hcompletion]
      exact hsame
  | abandonIssuance challengeId => exact hsame

end IssuanceSystem

/-- The store refines the transition tables along every run whose clock never goes back.  Each
step moves each session along at most one pair of its table; it moves each challenge along one
exactly if it is not an overtaken completion that goes on; and as long as none does, cancelled
and expired challenges stay as they are. -/
theorem issuanceSystem_refinesTables {history : List (IssuanceRequest × AuthorityReply)}
    {system : IssuanceSystem} (hrun : issuanceSystem.Run history system) :
    (∀ request, issuanceSystem.admits history system request →
      ((∀ challengeId row, system.store.challenges.lookup challengeId = some row →
        ∃ later, (system.step request).1.store.challenges.lookup challengeId = some later ∧
          challengeTransitionAllowed row.lifecycleState later.lifecycleState = true) ↔
        undisturbed history system request) ∧
      (∀ sessionId row, system.store.sessions.lookup sessionId = some row →
        ∃ later, (system.step request).1.store.sessions.lookup sessionId = some later ∧
          later.challengeId = row.challengeId ∧
          sessionTransitionAllowed row.lifecycleState later.lifecycleState = true)) ∧
    (∀ later reached, (issuanceSystem.under undisturbed).Continues history system later reached →
      ∀ challengeId row, system.store.challenges.lookup challengeId = some row →
        row.lifecycleState = .cancelled ∨ row.lifecycleState = .expired →
          ∃ last, reached.store.challenges.lookup challengeId = some last ∧
            last.lifecycleState = row.lifecycleState) := by
  refine ⟨fun request hadmits => ⟨?_, ?_⟩, ?_⟩
  · exact IssuanceSystem.movesChallenges_step hrun hadmits
  · intro sessionId row hrow
    exact IssuanceSystem.sessions_step hrun hadmits hrow
  · intro later reached hcontinues
    exact (IssuanceSystem.keepsSettled_of_continues hrun hcontinues).terminal

/-- A completion that goes on in time moves its challenge from `satisfied`. -/
theorem reclaimedIssuanceRequests_refinesTables :
    ∃ later, ((issuanceSystem.replay reclaimedIssuanceRequests).2.step
        (.markChallengeIssued ⟨"challenge_a", by decide⟩)).1.store.challenges.lookup
          ⟨"challenge_a", by decide⟩ = some later ∧
      challengeTransitionAllowed .satisfied later.lifecycleState = true := by
  have hrun := Machine.run_replay (M := issuanceSystem) reclaimedIssuanceRequests
    (by decide +kernel)
  have hsatisfied : (issuanceSystem.replay reclaimedIssuanceRequests).2.store.InState
      ⟨"challenge_a", by decide⟩ .satisfied := by
    decide +kernel
  have hundisturbed : undisturbed (issuanceSystem.replay reclaimedIssuanceRequests).1
      (issuanceSystem.replay reclaimedIssuanceRequests).2
      (.markChallengeIssued ⟨"challenge_a", by decide⟩) := by
    show overtaken _ _ = false
    decide +kernel
  have hmoves := ((issuanceSystem_refinesTables hrun).1 _ (by decide +kernel)).1.mpr hundisturbed
  obtain ⟨row, hrow, hstate⟩ := hsatisfied
  rw [← hstate]
  exact hmoves _ row hrow

/-- An overtaken completion takes its challenge along a pair the table forbids. -/
theorem overtakenIssuanceRequests_leavesTables :
    ∃ row later, (issuanceSystem.replay overtakenIssuanceRequests).2.store.challenges.lookup
        ⟨"challenge_a", by decide⟩ = some row ∧
      ((issuanceSystem.replay overtakenIssuanceRequests).2.step
        (.markChallengeIssued ⟨"challenge_a", by decide⟩)).1.store.challenges.lookup
          ⟨"challenge_a", by decide⟩ = some later ∧
      issuanceSystem.Run (issuanceSystem.replay overtakenIssuanceRequests).1
        (issuanceSystem.replay overtakenIssuanceRequests).2 ∧
      issuanceSystem.admits (issuanceSystem.replay overtakenIssuanceRequests).1
        (issuanceSystem.replay overtakenIssuanceRequests).2
        (.markChallengeIssued ⟨"challenge_a", by decide⟩) ∧
      challengeTransitionAllowed row.lifecycleState later.lifecycleState = false := by
  have hexpired : (issuanceSystem.replay overtakenIssuanceRequests).2.store.InState
      ⟨"challenge_a", by decide⟩ .expired := by
    decide +kernel
  have hissued : ((issuanceSystem.replay overtakenIssuanceRequests).2.step
      (.markChallengeIssued ⟨"challenge_a", by decide⟩)).1.store.InState
        ⟨"challenge_a", by decide⟩ .passIssued := by
    decide +kernel
  obtain ⟨row, hrow, hrowState⟩ := hexpired
  obtain ⟨later, hlater, hlaterState⟩ := hissued
  refine ⟨row, later, hrow, hlater, Machine.run_replay _ (by decide +kernel),
    by decide +kernel, ?_⟩
  rw [hrowState, hlaterState]
  rfl

end WorkGate
