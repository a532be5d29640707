/-
# The high-water marks of a Worker

A plan carries the marks of every key as they stood when it was made, and the persistence
compares only the mark of the accepted key and the context.  So the mark of another key that
was raised in between is put back, and its sequence can be spent again.  When no commit for
another key comes between a plan and its commit, the marks only rise and every sequence is
spent once.
-/

import WorkGate.Worker.Admission

namespace WorkGate

open WorkGate.Library

/-! ## What a history committed -/

/-- The plan an entry began the effect of. -/
def begunPlan : AdmissionRequest × AdmissionReply → Option PlannedWorkerLeaseAdmission
  | (.commit plan, .begun) => some plan
  | _ => none

/-- The sequences that plans accepted for a key. -/
def sequencesOf (keyId : String) (plans : List PlannedWorkerLeaseAdmission) : List ℕ :=
  (plans.filter fun plan => plan.acceptedKeyId == keyId).map fun plan =>
    bigInt plan.acceptedSequence

/-- A commit for another key. -/
def CommitsOther (keyId : String) (entry : AdmissionRequest × AdmissionReply) : Prop :=
  ∃ plan, entry = (.commit plan, .begun) ∧ plan.acceptedKeyId ≠ keyId

/-- How many leases were started since the possession context last changed. -/
def startsInContext : List (AdmissionRequest × AdmissionReply) → ℕ
  | [] => 0
  | (.establish _ _, _) :: _ => 0
  | (.invalidate, .done) :: _ => 0
  | (.commit plan, .begun) :: earlier =>
      startsInContext earlier + if plan.maybeExpectedActiveLeaseId = none then 1 else 0
  | _ :: earlier => startsInContext earlier

/-- A commit that the persistence would accept follows its plan without a commit for another
key in between. -/
def Uninterrupted (history : List (AdmissionRequest × AdmissionReply)) (worker : WorkerAdmission)
    (request : AdmissionRequest) : Prop :=
  ∀ plan, request = .commit plan → plan.matchesState worker.durable = true →
    Since (fun _ entry => entry.2 = .planned plan) (CommitsOther plan.acceptedKeyId) history

/-! ## What every step keeps -/

/-- What a step owes the marks and the lease of the context. -/
structure StepSafe (before : WorkerAdmission) (entry : AdmissionRequest × AdmissionReply)
    (after : WorkerAdmission) : Prop where
  marksKept : ∀ keyId, (∀ plan, entry.1 = .commit plan → plan.acceptedKeyId ≠ keyId) →
    after.durable.markOf keyId = before.durable.markOf keyId
  planKeeps : ∀ input, entry.1 = .plan input → after = before
  refusedKeeps : ∀ code, entry.2 = .rejected code → after = before
  leaseKept : ∀ plan context lease, entry.1 = .commit plan →
    before.durable.maybeContext = some context → context.maybeActiveLeaseId = some lease →
      after.durable.maybeContext = some context
  renewsActive : ∀ input plan, entry = (.plan input, .planned plan) → input.operation = .renew →
    ∃ context, before.durable.maybeContext = some context ∧
      context.maybeActiveLeaseId = some input.leaseId
  renewedActive : ∀ plan lease, entry = (.commit plan, .begun) →
    plan.maybeExpectedActiveLeaseId = some lease →
      ∃ context, before.durable.maybeContext = some context ∧
        context.maybeActiveLeaseId = some lease

/-- Plans that were handed out. -/
def PlansWell (history : List (AdmissionRequest × AdmissionReply)) : Prop :=
  ∀ entry ∈ history, ∀ plan, entry.2 = .planned plan → WellPlanned plan

theorem plansWell_of_run {initial : WorkerLeaseAdmissionState}
    {history : List (AdmissionRequest × AdmissionReply)} {worker : WorkerAdmission}
    (hrun : (workerAdmission initial).Run history worker) : PlansWell history := by
  refine Machine.Run.invariant (P := fun earlier _ => PlansWell earlier) ?_ ?_ hrun
  · intro entry hentry
    cases hentry
  · intro earlier reached request _ hwell entry hentry plan hplan
    obtain rfl | hentry := List.mem_cons.mp hentry
    · have heffect := AdmissionEffect.of_step reached request
      have hplanned : (admissionStep reached request).2 = .planned plan := hplan
      rw [hplanned] at heffect
      generalize (admissionStep reached request).1 = after at heffect
      cases heffect with
      | plans input hplans => exact ⟨_, _, _, hplans⟩
    · exact hwell entry hentry plan hplan

/-- The plan of an admitted commit was handed out. -/
theorem wellPlanned_of_admits {initial : WorkerLeaseAdmissionState}
    {history : List (AdmissionRequest × AdmissionReply)} {worker : WorkerAdmission}
    {plan : PlannedWorkerLeaseAdmission} (hwell : PlansWell history)
    (hadmits : (workerAdmission initial).admits history worker (.commit plan)) :
    WellPlanned plan := by
  obtain ⟨entry, hentry, hplanned⟩ := hadmits plan rfl
  exact hwell entry hentry plan hplanned

/-! ## Snapshots -/

/-- A plan agrees with the stored marks of the other keys for as long as no other key is
committed. -/
def SnapshotsFit (history : List (AdmissionRequest × AdmissionReply)) (worker : WorkerAdmission) :
    Prop :=
  ∀ plan, Since (fun _ entry => entry.2 = .planned plan) (CommitsOther plan.acceptedKeyId)
    history → ∀ keyId, keyId ≠ plan.acceptedKeyId →
      plan.nextState.markOf keyId = worker.durable.markOf keyId

theorem snapshotsFit_of_run {initial : WorkerLeaseAdmissionState}
    {history : List (AdmissionRequest × AdmissionReply)} {worker : WorkerAdmission}
    (hrun : ((workerAdmission initial).under Uninterrupted).Run history worker) :
    SnapshotsFit history worker := by
  refine Machine.Run.invariant (M := (workerAdmission initial).under Uninterrupted)
    (P := SnapshotsFit) ?_ ?_ hrun
  · intro plan hsince
    cases hsince
  · rintro earlier reached request ⟨-, huninterrupted⟩ hfit plan hsince keyId hne
    have heffect := AdmissionEffect.of_step reached request
    change Since _ _ ((request, (admissionStep reached request).2) :: earlier) at hsince
    change _ = (admissionStep reached request).1.durable.markOf keyId
    generalize (admissionStep reached request).1 = after at heffect ⊢
    generalize (admissionStep reached request).2 = reply at heffect hsince
    cases heffect with
    | rejects =>
        obtain hplanned | ⟨-, hsince⟩ := hsince
        · cases hplanned
        · exact hfit plan hsince keyId hne
    | plans input hplans =>
        obtain hplanned | ⟨-, hsince⟩ := hsince
        · cases hplanned
          exact hplans.markOf_other hne
        · exact hfit plan hsince keyId hne
    | commits committed hcommits =>
        obtain hplanned | ⟨hkeeps, hsince⟩ := hsince
        · cases hplanned
        · have hkey : committed.acceptedKeyId = plan.acceptedKeyId :=
            not_not.mp fun hother => hkeeps ⟨committed, rfl, hother⟩
          rw [hcommits.durable, hfit plan hsince keyId hne]
          refine (hfit committed ?_ keyId (hkey ▸ hne)).symm
          exact huninterrupted committed rfl hcommits.matched
    | invalidates | establishes =>
        obtain hplanned | ⟨-, hsince⟩ := hsince
        · cases hplanned
        · exact hfit plan hsince keyId hne

/-- A commit that follows its plan without another key in between leaves the other marks. -/
theorem Commits.keepsOthers {history : List (AdmissionRequest × AdmissionReply)}
    {before after : WorkerAdmission} {plan : PlannedWorkerLeaseAdmission}
    (hcommits : Commits before plan after) (hfit : SnapshotsFit history before)
    (huninterrupted : Uninterrupted history before (.commit plan)) {keyId : String}
    (hne : keyId ≠ plan.acceptedKeyId) :
    after.durable.markOf keyId = before.durable.markOf keyId := by
  rw [hcommits.durable]
  exact hfit plan (huninterrupted plan rfl hcommits.matched) keyId hne

theorem stepSafe_of_effect {history : List (AdmissionRequest × AdmissionReply)}
    {before after : WorkerAdmission} {request : AdmissionRequest} {reply : AdmissionReply}
    (heffect : AdmissionEffect before request reply after) (hfit : SnapshotsFit history before)
    (huninterrupted : Uninterrupted history before request)
    (hwell : ∀ plan, request = .commit plan → WellPlanned plan) :
    StepSafe before (request, reply) after := by
  cases heffect with
  | rejects request code =>
      constructor
      · exact fun _ _ => rfl
      · exact fun _ _ => rfl
      · exact fun _ _ => rfl
      · exact fun _ _ _ _ hcontext _ => hcontext
      · rintro input plan heq
        cases heq
      · rintro plan lease heq
        cases heq
  | plans input hplans =>
      constructor
      · exact fun _ _ => rfl
      · exact fun _ _ => rfl
      · exact fun _ _ => rfl
      · exact fun _ _ _ _ hcontext _ => hcontext
      · rintro same plan heq hrenew
        cases heq
        exact ⟨_, hplans.stored, hplans.renewed hrenew⟩
      · rintro plan lease heq
        cases heq
  | commits plan hcommits =>
      obtain ⟨stored, lease, hstored, hexpected, hafter, hlease⟩ :=
        hcommits.leases (hwell plan rfl)
      constructor
      · intro keyId hother
        exact hcommits.keepsOthers hfit huninterrupted fun heq => hother plan rfl heq.symm
      · rintro input heq
        cases heq
      · rintro code heq
        cases heq
      · intro _ context active _ hcontext hactive
        rw [hstored] at hcontext
        cases hcontext
        obtain hnone | hsame := hlease
        · rw [hnone] at hactive
          cases hactive
        · rw [hafter, ← hsame]
      · rintro input other heq
        cases heq
      · rintro other active heq hactive
        cases heq
        exact ⟨stored, hstored, hexpected.trans hactive⟩
  | invalidates | establishes =>
      constructor
      · exact fun _ _ => rfl
      · rintro input heq
        cases heq
      · rintro code heq
        cases heq
      · rintro plan context lease heq
        cases heq
      · rintro input plan heq
        cases heq
      · rintro plan lease heq
        cases heq

/-! ## Sequences rise -/

/-- What the effects begun so far say about the stored state. -/
structure EffectsFit (history : List (AdmissionRequest × AdmissionReply))
    (worker : WorkerAdmission) : Prop where
  effects : worker.effects = history.filterMap begunPlan
  bounded : ∀ plan ∈ worker.effects,
    bigInt plan.acceptedSequence ≤ bigInt (worker.durable.markOf plan.acceptedKeyId)
  increasing : ∀ keyId, (sequencesOf keyId worker.effects).Pairwise (· > ·)
  oneLease : startsInContext history ≤ 1
  leased : 0 < startsInContext history → ∃ context, worker.durable.maybeContext = some context ∧
    context.maybeActiveLeaseId ≠ none

theorem mem_sequencesOf {keyId : String} {plans : List PlannedWorkerLeaseAdmission}
    {sequence : ℕ} : sequence ∈ sequencesOf keyId plans ↔
      ∃ plan ∈ plans, plan.acceptedKeyId = keyId ∧ bigInt plan.acceptedSequence = sequence := by
  simp [sequencesOf, and_assoc]

theorem EffectsFit.commit {history : List (AdmissionRequest × AdmissionReply)}
    {before after : WorkerAdmission} {plan : PlannedWorkerLeaseAdmission}
    (hinv : EffectsFit history before) (hcommits : Commits before plan after)
    (hwell : WellPlanned plan)
    (hothers : ∀ keyId, keyId ≠ plan.acceptedKeyId →
      after.durable.markOf keyId = before.durable.markOf keyId) :
    EffectsFit ((.commit plan, .begun) :: history) after := by
  obtain ⟨habove, hmark⟩ := hcommits.raises hwell
  obtain ⟨stored, lease, hstored, hexpected, hafter, -⟩ := hcommits.leases hwell
  constructor
  · rw [hcommits.effects, hinv.effects]
    rfl
  · intro earlier hearlier
    rw [hcommits.effects] at hearlier
    obtain rfl | hearlier := List.mem_cons.mp hearlier
    · rw [hmark]
    · have hbound := hinv.bounded earlier hearlier
      by_cases hkey : earlier.acceptedKeyId = plan.acceptedKeyId
      · rw [hkey] at hbound ⊢
        rw [hmark]
        omega
      · rw [hothers _ hkey]
        exact hbound
  · intro keyId
    rw [hcommits.effects]
    by_cases hkey : plan.acceptedKeyId = keyId
    · have hcons : sequencesOf keyId (plan :: before.effects) =
          bigInt plan.acceptedSequence :: sequencesOf keyId before.effects := by
        simp [sequencesOf, hkey]
      rw [hcons, List.pairwise_cons]
      refine ⟨?_, hinv.increasing keyId⟩
      intro sequence hsequence
      obtain ⟨earlier, hearlier, hsame, rfl⟩ := mem_sequencesOf.mp hsequence
      have hbound := hinv.bounded earlier hearlier
      rw [hsame, ← hkey] at hbound
      omega
    · have hskip : sequencesOf keyId (plan :: before.effects) =
          sequencesOf keyId before.effects := by
        simp [sequencesOf, hkey]
      rw [hskip]
      exact hinv.increasing keyId
  · rw [startsInContext]
    split
    · next hnone =>
        have hzero : startsInContext history = 0 := by
          apply Nat.eq_zero_of_not_pos
          intro hpositive
          obtain ⟨context, hcontext, hactive⟩ := hinv.leased hpositive
          rw [hstored] at hcontext
          cases hcontext
          exact hactive (hexpected.trans hnone)
        omega
    · exact hinv.oneLease
  · intro _
    exact ⟨_, hafter, by simp⟩

theorem EffectsFit.quiet {history : List (AdmissionRequest × AdmissionReply)}
    {worker : WorkerAdmission} {request : AdmissionRequest} {reply : AdmissionReply}
    (hinv : EffectsFit history worker) (hbegun : begunPlan (request, reply) = none)
    (hstarts : startsInContext ((request, reply) :: history) = startsInContext history ∨
      startsInContext ((request, reply) :: history) = 0) :
    EffectsFit ((request, reply) :: history) worker where
  effects := by rw [List.filterMap_cons_none hbegun, hinv.effects]
  bounded := hinv.bounded
  increasing := hinv.increasing
  oneLease := by
    have hone := hinv.oneLease
    omega
  leased := by
    intro hpositive
    apply hinv.leased
    omega

theorem effectsFit_of_run {initial : WorkerLeaseAdmissionState}
    {history : List (AdmissionRequest × AdmissionReply)} {worker : WorkerAdmission}
    (hrun : ((workerAdmission initial).under Uninterrupted).Run history worker) :
    EffectsFit history worker := by
  refine Machine.Run.invariant_of (M := (workerAdmission initial).under Uninterrupted)
    (Q := fun earlier reached => SnapshotsFit earlier reached ∧ PlansWell earlier)
    (P := EffectsFit)
    (fun _ _ hreached => ⟨snapshotsFit_of_run hreached, plansWell_of_run hreached.of_under⟩)
    ?_ ?_ hrun
  · refine ⟨rfl, ?_, ?_, Nat.zero_le _, ?_⟩
    · intro plan hplan
      cases hplan
    · intro keyId
      exact List.Pairwise.nil
    · intro hpositive
      cases hpositive
  · rintro earlier reached request ⟨hadmits, huninterrupted⟩ ⟨hfit, hwell⟩ hinv
    have heffect := AdmissionEffect.of_step reached request
    change EffectsFit ((request, (admissionStep reached request).2) :: earlier)
      (admissionStep reached request).1
    generalize (admissionStep reached request).1 = after at heffect ⊢
    generalize (admissionStep reached request).2 = reply at heffect ⊢
    cases heffect with
    | rejects request code => cases request <;> exact hinv.quiet rfl (by simp [startsInContext])
    | plans input => exact hinv.quiet rfl (.inl rfl)
    | commits plan hcommits =>
        apply hinv.commit hcommits (wellPlanned_of_admits hwell hadmits)
        intro keyId hne
        exact hcommits.keepsOthers hfit huninterrupted hne
    | invalidates | establishes =>
        refine ⟨hinv.effects, hinv.bounded, hinv.increasing, Nat.zero_le _, ?_⟩
        intro hpositive
        cases hpositive

/-! ## What a run owes -/

/-- What a run of the Worker owes its signing keys. -/
structure AdmitsOnce (initial : WorkerLeaseAdmissionState)
    (history : List (AdmissionRequest × AdmissionReply)) (worker : WorkerAdmission) : Prop where
  increasing : ∀ keyId, (sequencesOf keyId worker.effects).Pairwise (· > ·)
  once : ∀ keyId sequence, (worker.effects.countP fun plan => plan.acceptedKeyId == keyId &&
    bigInt plan.acceptedSequence == sequence) ≤ 1
  committed : worker.effects = history.filterMap begunPlan
  oneLease : startsInContext history ≤ 1
  steps : Always (fun earlier entry => StepSafe ((workerAdmission initial).stateAfter earlier) entry
    (admissionStep ((workerAdmission initial).stateAfter earlier) entry.1).1) history

theorem countP_le_one_of_increasing {plans : List PlannedWorkerLeaseAdmission} {keyId : String}
    (hincreasing : (sequencesOf keyId plans).Pairwise (· > ·)) (sequence : ℕ) :
    (plans.countP fun plan => plan.acceptedKeyId == keyId &&
      bigInt plan.acceptedSequence == sequence) ≤ 1 := by
  have hnodup : (sequencesOf keyId plans).Nodup := hincreasing.imp fun habove => habove.ne'
  have hcount := List.nodup_iff_count_le_one.mp hnodup sequence
  rw [sequencesOf, List.count, List.countP_map, List.countP_filter] at hcount
  refine (le_of_eq ?_).trans hcount
  apply List.countP_congr
  intro plan _
  rw [Function.comp_apply, Bool.and_eq_true, Bool.and_eq_true]
  exact and_comm

/-- In every run in which no commit for another key comes between a plan and its commit, the
committed sequences of every key rise, so each is spent once; effects are those of committed
plans; a context has one lease started in it; and every step leaves the marks of other keys,
keeps an active lease and renews only that, and changes nothing when it is refused. -/
theorem workerAdmission_admitsOnce {initial : WorkerLeaseAdmissionState}
    {history : List (AdmissionRequest × AdmissionReply)} {worker : WorkerAdmission}
    (hrun : ((workerAdmission initial).under Uninterrupted).Run history worker) :
    AdmitsOnce initial history worker where
  increasing := (effectsFit_of_run hrun).increasing
  once := fun keyId => countP_le_one_of_increasing ((effectsFit_of_run hrun).increasing keyId)
  committed := (effectsFit_of_run hrun).effects
  oneLease := (effectsFit_of_run hrun).oneLease
  steps := by
    refine Machine.Run.always (M := (workerAdmission initial).under Uninterrupted) ?_ hrun
    rintro earlier reached request hreached ⟨hadmits, huninterrupted⟩
    rw [hreached.of_under.stateAfter_eq]
    apply stepSafe_of_effect (AdmissionEffect.of_step reached request)
      (snapshotsFit_of_run hreached) huninterrupted
    rintro plan rfl
    exact wellPlanned_of_admits (plansWell_of_run hreached.of_under) hadmits

/-! ## Two keys -/

/-- The digest of a possession context. -/
def exampleBinding : String := "SSSSSSSSSSSSSSSSSSSSSSSSSSSSSSSSSSSSSSSSSSS"

/-- A state with an active lease and the marks of two keys. -/
def twoKeyState : WorkerLeaseAdmissionState where
  maybeContext := some ⟨exampleBinding, 1000, some "lease_a"⟩
  highWaterByKeyId := ((∅ : Rows String String).insert "key_b" "7").insert "key_a" "3"

/-- The state once a mark is raised. -/
def raisedState (state : WorkerLeaseAdmissionState) (keyId mark : String) :
    WorkerLeaseAdmissionState :=
  { state with highWaterByKeyId := state.highWaterByKeyId.insert keyId mark }

/-- A renewal of that lease under one of the keys. -/
def exampleRenewal (keyId : String) (sequence : ℕ) : WorkerLeaseAdmissionInput where
  operation := .renew
  leaseId := "lease_a"
  controlSessionBindingSha256 := exampleBinding
  nowMonotonicMilliseconds := 2000
  authorization := ⟨keyId, sequence⟩

/-- The plan of such a renewal. -/
def exampleRenewalPlan (state : WorkerLeaseAdmissionState) (keyId prior accepted : String) :
    PlannedWorkerLeaseAdmission where
  nextState := raisedState state keyId accepted
  acceptedKeyId := keyId
  acceptedSequence := accepted
  expectedPriorSequence := prior
  expectedControlSessionBindingSha256 := exampleBinding
  expectedContextEstablishedAtMonotonicMilliseconds := 1000
  maybeExpectedActiveLeaseId := some "lease_a"

/-- A renewal, planned and committed. -/
def renewedRequests : List AdmissionRequest :=
  [.plan (exampleRenewal "key_a" 4),
    .commit (exampleRenewalPlan twoKeyState "key_a" "3" "4")]

theorem renewedRequests_admitsOnce :
    ((workerAdmission twoKeyState).replay renewedRequests).2.durable =
        raisedState twoKeyState "key_a" "4" ∧
      AdmitsOnce twoKeyState
        ((workerAdmission twoKeyState).replay renewedRequests).1
        ((workerAdmission twoKeyState).replay renewedRequests).2 := by
  refine ⟨by decide +kernel, workerAdmission_admitsOnce ?_⟩
  refine Machine.run_replay (M := (workerAdmission twoKeyState).under Uninterrupted)
    renewedRequests ?_
  refine ⟨⟨?_, ?_⟩, ⟨?_, ?_⟩, trivial⟩
  · rintro plan heq
    cases heq
  · rintro plan heq
    cases heq
  · rintro plan heq
    cases heq
    refine ⟨_, List.mem_cons_self, ?_⟩
    decide +kernel
  · rintro plan heq -
    cases heq
    apply Since.now
    decide +kernel

/-- Renewals under two keys are planned on the same snapshot and committed one after the
other; then the first sequence is presented again. -/
def crossedRenewalRequests : List AdmissionRequest :=
  [.plan (exampleRenewal "key_a" 4), .plan (exampleRenewal "key_b" 8),
    .commit (exampleRenewalPlan twoKeyState "key_a" "3" "4"),
    .commit (exampleRenewalPlan twoKeyState "key_b" "7" "8"),
    .plan (exampleRenewal "key_a" 4),
    .commit (exampleRenewalPlan (raisedState twoKeyState "key_b" "8") "key_a" "3" "4")]

/-- The second commit puts the mark of the first key back, and the first sequence has its
effect twice. -/
theorem crossedRenewalRequests_spendsTwice :
    (workerAdmission twoKeyState).Run
        ((workerAdmission twoKeyState).replay crossedRenewalRequests).1
        ((workerAdmission twoKeyState).replay crossedRenewalRequests).2 ∧
      ¬ AdmitsOnce twoKeyState
        ((workerAdmission twoKeyState).replay crossedRenewalRequests).1
        ((workerAdmission twoKeyState).replay crossedRenewalRequests).2 := by
  constructor
  · apply Machine.run_replay
    refine ⟨?_, ?_, ?_, ?_, ?_, ?_, trivial⟩
    all_goals
      intro plan heq
      cases heq
    all_goals decide +kernel
  · intro hadmits
    have honce := hadmits.once "key_a" 4
    revert honce
    decide +kernel

end WorkGate
