/-
# Exactly-once credit, end to end

Delivery is at least once: a claim runs out under a slow process, an answer is lost, a
process crashes after the Authority has committed.  Along every run of the delivery
system an event still raises progress at most once, and so does a share fingerprint,
while a redelivery of a recorded event gets the first answer again and leaves the
Authority as it was.
-/

import WorkGate.Authority.Credits
import WorkGate.Outbox.Delivery

namespace WorkGate

open WorkGate.Library

namespace DeliverySystem

variable {deps : Dependencies} {system : DeliverySystem}

/-- The event a step hands to `accept_work`. -/
def handedOver (system : DeliverySystem) : DeliveryRequest → Option AcceptedWorkEvent
  | .deliver process _ _ _ =>
    match system.processes.lookup process with
    | some (.claimed claimed _) => some claimed.event
    | _ => none
  | .authority request => request.maybeEvent
  | _ => none

/-- Whether a step hands over an event that passes a test and raises progress with it. -/
def credits (test : AcceptedWorkEventId → ShareFingerprint → Bool) (before : DeliverySystem)
    (request : DeliveryRequest) (after : DeliverySystem) : Bool :=
  ((before.handedOver request).any fun event => test event.eventId event.shareFingerprint) &&
    before.authority.raisesProgress after.authority

/-- What one step does to the Authority: nothing, or one transaction. -/
inductive AuthorityStep (system : DeliverySystem) (request : DeliveryRequest) :
    AuthorityDatabase → Prop
  | idle : AuthorityStep system request system.authority
  | transaction {transaction : AuthorityRequest}
      (hevent : transaction.maybeEvent = system.handedOver request) :
      AuthorityStep system request (authorityStep system.authority transaction).1

theorem authorityStep_of_step (deps : Dependencies) (system : DeliverySystem)
    (request : DeliveryRequest) :
    AuthorityStep system request (system.step deps request).1.authority := by
  cases request with
  | persist event context workerResponse => exact .idle
  | claim process worker now locked =>
      simp only [step, claim]
      repeat' split
      all_goals exact .idle
  | deliver process now passUuid lost =>
      simp only [step, deliver]
      split
      · next claimed startedAt hstage =>
          split
          · exact .idle
          · exact .transaction (by simp [handedOver, hstage, AuthorityRequest.maybeEvent])
      · exact .idle
  | settle process =>
      simp only [step, settle]
      repeat' split
      all_goals exact .idle
  | crash process => exact .idle
  | authority request => exact .transaction rfl

/-- Credited rows are counted by the steps that credit. -/
theorem creditedRows_step (test : AcceptedWorkEventId → ShareFingerprint → Bool)
    (system : DeliverySystem) (request : DeliveryRequest) :
    (system.step deps request).1.authority.creditedRows test =
      system.authority.creditedRows test +
        if credits test system request (system.step deps request).1 then 1 else 0 := by
  have hstep := authorityStep_of_step deps system request
  rw [credits]
  generalize (system.step deps request).1.authority = after at hstep ⊢
  cases hstep with
  | idle =>
      rw [(AuthorityDatabase.KeepsAccounting.refl system.authority).not_raisesProgress,
        Bool.and_false]
      rfl
  | transaction hevent =>
      rw [AuthorityDatabase.creditedRows_step, hevent]

/-! ## What the outbox and the processes keep -/

theorem keepsStored_step (deps : Dependencies) (outbox : AcceptedWorkOutbox)
    (request : OutboxRequest) :
    outbox.KeepsStored (AcceptedWorkOutbox.step deps outbox request).1 :=
  AcceptedWorkOutbox.keepsStored_of_effect (AcceptedWorkOutbox.effect_of_step deps outbox request)

/-- A step of the system is at most one call of the outbox. -/
theorem outbox_of_step (deps : Dependencies) (system : DeliverySystem)
    (request : DeliveryRequest) :
    (system.step deps request).1.outbox = system.outbox ∨
      ∃ call, (system.step deps request).1.outbox =
        (AcceptedWorkOutbox.step deps system.outbox call).1 := by
  cases request with
  | persist event context workerResponse => exact .inr ⟨_, rfl⟩
  | claim process worker now locked =>
      simp only [step, claim]
      repeat' split
      all_goals first
        | exact .inl rfl
        | exact .inr ⟨_, rfl⟩
  | deliver process now passUuid lost =>
      simp only [step, deliver]
      repeat' split
      all_goals exact .inl rfl
  | settle process =>
      simp only [step, settle]
      repeat' split
      all_goals first
        | exact .inl rfl
        | exact .inr ⟨_, rfl⟩
  | crash process => exact .inl rfl
  | authority request => exact .inl rfl

/-- Whether a claim carries what its row stores. -/
def Carries (outbox : AcceptedWorkOutbox) (claimed : ClaimedAcceptedWork) : Prop :=
  ∃ row, outbox.lookup claimed.event.eventId = some row ∧
    row.stored = ⟨claimed.event, claimed.leaseContext, claimed.workerResponse⟩

theorem Carries.mono {outbox after : AcceptedWorkOutbox} {claimed : ClaimedAcceptedWork}
    (h : Carries outbox claimed) (hkeeps : outbox.KeepsStored after) : Carries after claimed := by
  obtain ⟨row, hrow, hstored⟩ := h
  obtain ⟨kept, hkept, hsame⟩ := hkeeps _ row hrow
  exact ⟨kept, hkept, hsame.trans hstored⟩

/-- Two claims of one event carry the same event and the same lease. -/
theorem Carries.unique {outbox : AcceptedWorkOutbox} {first second : ClaimedAcceptedWork}
    (hfirst : Carries outbox first) (hsecond : Carries outbox second)
    (hevent : first.event.eventId = second.event.eventId) :
    first.event = second.event ∧ first.leaseContext = second.leaseContext := by
  obtain ⟨row, hrow, hstored⟩ := hfirst
  obtain ⟨other, hother, hsame⟩ := hsecond
  rw [← hevent, hrow, Option.some.injEq] at hother
  subst hother
  rw [hstored, PersistedAcceptedWork.mk.injEq] at hsame
  exact ⟨hsame.1, hsame.2.1⟩

/-- A claim that was handed out carries what its row stores. -/
theorem carries_of_claimed {outbox : AcceptedWorkOutbox} {workerId : String}
    {now leaseExpiresAt : ℕ} {locked : List AcceptedWorkEventId} {claimed : ClaimedAcceptedWork}
    (hreadable : AcceptedWorkOutbox.Readable deps outbox)
    (h : (AcceptedWorkOutbox.step deps outbox (.claimNext workerId now leaseExpiresAt locked)).2 =
      .claimed (some claimed)) :
    Carries (AcceptedWorkOutbox.step deps outbox
      (.claimNext workerId now leaseExpiresAt locked)).1 claimed := by
  refine Carries.mono ?_ (keepsStored_step deps outbox _)
  rcases AcceptedWorkOutbox.claimNext_cases deps outbox workerId now leaseExpiresAt locked with
    ⟨error, hsame⟩ | hsame | ⟨eventId, row, hrow, -, -, ⟨error, -, hfailed⟩ | hclaimed⟩
  · simp [AcceptedWorkOutbox.step, AcceptedWorkOutbox.answer, hsame] at h
  · simp [AcceptedWorkOutbox.step, AcceptedWorkOutbox.answer, hsame] at h
  · simp [AcceptedWorkOutbox.step, AcceptedWorkOutbox.answer, hfailed] at h
  · simp only [AcceptedWorkOutbox.step, AcceptedWorkOutbox.answer, hclaimed,
      OutboxReply.claimed.injEq, Option.some.injEq] at h
    subst h
    exact ⟨row, by rw [(hreadable eventId row hrow).1, hrow], rfl⟩

/-- Where a process stands after a step, it stood before, or it has just claimed. -/
theorem stage_of_step {request : DeliveryRequest} {process : ℕ} {stage : DeliveryStage}
    (hreadable : AcceptedWorkOutbox.Readable deps system.outbox)
    (hstage : (system.step deps request).1.processes.lookup process = some stage) :
    (∃ old, system.processes.lookup process = some old ∧ old.claim = stage.claim) ∨
      Carries (system.step deps request).1.outbox stage.claim := by
  have hkept : system.processes.lookup process = some stage →
      (∃ old, system.processes.lookup process = some old ∧ old.claim = stage.claim) ∨
        Carries (system.step deps request).1.outbox stage.claim :=
    fun hsame => .inl ⟨stage, hsame, rfl⟩
  have herased : ∀ other, (system.processes.erase other).lookup process = some stage →
      system.processes.lookup process = some stage := by
    intro other herase
    rw [Rows.lookup_erase_eq] at herase
    split at herase
    · cases herase
    · exact herase
  have hmoved : ∀ other old new, system.processes.lookup other = some old →
      old.claim = new.claim → (system.processes.insert other new).lookup process = some stage →
      (∃ old, system.processes.lookup process = some old ∧ old.claim = stage.claim) ∨
        Carries (system.step deps request).1.outbox stage.claim := by
    intro other old new hold hsame hinserted
    rw [Rows.lookup_insert_eq] at hinserted
    split at hinserted
    · next heq =>
        cases hinserted
        exact .inl ⟨old, heq ▸ hold, hsame⟩
    · exact hkept hinserted
  cases request with
  | persist event context workerResponse => exact hkept hstage
  | claim other worker now locked =>
      simp only [step, claim] at hstage ⊢
      split at hstage
      · exact .inl ⟨stage, hstage, rfl⟩
      · next hidle =>
          split at hstage
          · exact .inl ⟨stage, hstage, rfl⟩
          · next hfits =>
              rw [if_neg hidle, if_neg hfits]
              simp only at hstage ⊢
              split at hstage
              · next claimed hreply =>
                  rw [Rows.lookup_insert_eq] at hstage
                  split at hstage
                  · cases hstage
                    exact .inr (carries_of_claimed hreadable hreply)
                  · exact .inl ⟨stage, hstage, rfl⟩
              · exact .inl ⟨stage, hstage, rfl⟩
  | deliver other now passUuid lost =>
      simp only [step, deliver] at hstage
      split at hstage
      · next claimed startedAt hclaimed =>
          split at hstage
          · exact hmoved other _ (.answered claimed startedAt _) hclaimed rfl hstage
          · exact hmoved other _ (.answered claimed startedAt _) hclaimed rfl hstage
      · exact hkept hstage
  | settle other =>
      simp only [step, settle] at hstage
      repeat' split at hstage
      all_goals first
        | exact hkept hstage
        | exact hkept (herased other hstage)
  | crash other => exact hkept (herased other hstage)
  | authority request => exact hkept hstage

/-- What a delivered event needs to be answered from its row again. -/
structure Recorded (system : DeliverySystem) (acceptance : PersistedAcceptance) : Prop where
  row : ∃ row, system.authority.events.lookup acceptance.acknowledgement.eventId = some row ∧
    acceptance = row.acceptance acceptance.acknowledgement.eventId ∧
    ∃ claimed clock, Carries system.outbox claimed ∧
      claimed.event.eventId = acceptance.acknowledgement.eventId ∧
      row.canonicalMatches claimed.event = true ∧
      WorkerClock.new claimed.leaseContext.continuityId
        claimed.leaseContext.lastMonotonicMilliseconds = .ok clock

/-- The history compared with the outbox, the store and the processes. -/
structure DeliveryInvariant (deps : Dependencies)
    (history : List (DeliveryRequest × DeliveryReply)) (system : DeliverySystem) : Prop where
  accounting : AuthorityDatabase.AccountingInvariant system.authority
  readable : AcceptedWorkOutbox.Readable deps system.outbox
  carried : ∀ process stage, system.processes.lookup process = some stage →
    Carries system.outbox stage.claim
  recorded : ∀ process now passUuid lost acceptance,
    (DeliveryRequest.deliver process now passUuid lost,
      DeliveryReply.authority (.accepted acceptance)) ∈ history → system.Recorded acceptance

theorem keepsStored_of_step (deps : Dependencies) (system : DeliverySystem)
    (request : DeliveryRequest) :
    system.outbox.KeepsStored (system.step deps request).1.outbox := by
  rcases outbox_of_step deps system request with hsame | ⟨call, hcalled⟩
  · rw [hsame]
    exact fun _ row hrow => ⟨row, hrow, rfl⟩
  · rw [hcalled]
    exact keepsStored_step deps system.outbox call

theorem readable_of_step {request : DeliveryRequest}
    (hreadable : AcceptedWorkOutbox.Readable deps system.outbox) :
    AcceptedWorkOutbox.Readable deps (system.step deps request).1.outbox := by
  rcases outbox_of_step deps system request with hsame | ⟨call, hcalled⟩
  · rw [hsame]
    exact hreadable
  · rw [hcalled]
    exact AcceptedWorkOutbox.readable_of_effect hreadable
      (AcceptedWorkOutbox.effect_of_step deps system.outbox call)

/-- What was recorded stays recorded. -/
theorem Recorded.step {acceptance : PersistedAcceptance} (h : system.Recorded acceptance)
    (request : DeliveryRequest) : (system.step deps request).1.Recorded acceptance := by
  obtain ⟨row, hrow, hacceptance, claimed, clock, hcarries, hevent, hmatches, hclock⟩ := h.row
  refine ⟨row, ?_, hacceptance, claimed, clock,
    hcarries.mono (keepsStored_of_step deps system request), hevent, hmatches, hclock⟩
  have hstep := authorityStep_of_step deps system request
  generalize (system.step deps request).1.authority = after at hstep ⊢
  cases hstep with
  | idle => exact hrow
  | @transaction transaction hevent =>
      exact (AuthorityDatabase.creditsOnlyOpen_step system.authority transaction).kept _ row hrow

/-- A delivery that was answered has recorded its event. -/
theorem recorded_of_deliver {history : List (DeliveryRequest × DeliveryReply)}
    (hinv : DeliveryInvariant deps history system) {process now : ℕ} {passUuid : String}
    {lost : Bool} {acceptance : PersistedAcceptance}
    (h : (system.step deps (.deliver process now passUuid lost)).2 =
      .authority (.accepted acceptance)) :
    (system.step deps (.deliver process now passUuid lost)).1.Recorded acceptance := by
  simp only [step, deliver] at h ⊢
  split at h
  · next claimed startedAt hstage =>
      split at h
      · cases h
      · next clock hclock =>
          rw [DeliveryReply.authority.injEq] at h
          obtain ⟨row, hrow, hmatches, rfl⟩ := AuthorityDatabase.lookup_of_accepted h
          exact ⟨row, hrow, rfl, claimed, clock, hinv.carried process _ hstage, rfl, hmatches,
            hclock⟩
  · cases h

/-- A recorded event is answered from its row, and nothing changes. -/
theorem redeliver {history : List (DeliveryRequest × DeliveryReply)}
    (hinv : DeliveryInvariant deps history system) {acceptance : PersistedAcceptance}
    (hrecorded : system.Recorded acceptance) {process startedAt : ℕ}
    {claimed : ClaimedAcceptedWork}
    (hstage : system.processes.lookup process = some (.claimed claimed startedAt))
    (hevent : claimed.event.eventId = acceptance.acknowledgement.eventId) (now : ℕ)
    (passUuid : String) (lost : Bool) :
    (system.step deps (.deliver process now passUuid lost)).2 =
        .authority (.accepted acceptance) ∧
      (system.step deps (.deliver process now passUuid lost)).1.authority = system.authority := by
  obtain ⟨row, hrow, hacceptance, first, clock, hcarries, hfirst, hmatches, hclock⟩ :=
    hrecorded.row
  obtain ⟨hsame, hlease⟩ := (hinv.carried process _ hstage).unique hcarries
    (hevent.trans hfirst.symm)
  have hsameEvent : claimed.event = first.event := hsame
  have hsameLease : claimed.leaseContext = first.leaseContext := hlease
  rw [← hsameEvent] at hmatches
  rw [← hsameLease] at hclock
  rw [← hevent] at hrow hacceptance
  have hreplay := AuthorityDatabase.acceptWork_replay hrow hmatches claimed.leaseContext.leaseId
    clock now passUuid
  simp only [step, deliver, hstage, hclock, hreplay]
  exact ⟨by rw [← hacceptance], trivial⟩

namespace DeliveryInvariant

variable {history : List (DeliveryRequest × DeliveryReply)}

theorem start (deps : Dependencies) :
    DeliveryInvariant deps [] ⟨∅, AuthorityDatabase.empty, ∅⟩ where
  accounting := AuthorityDatabase.AccountingInvariant.empty
  readable := by
    intro eventId row hrow
    simp at hrow
  carried := by
    intro process stage hstage
    simp at hstage
  recorded := by
    intro process now passUuid lost acceptance hmem
    simp at hmem

/-- One step keeps the history in step with the parties. -/
theorem step (hinv : DeliveryInvariant deps history system) (request : DeliveryRequest) :
    DeliveryInvariant deps ((request, (system.step deps request).2) :: history)
      (system.step deps request).1 := by
  refine ⟨?_, readable_of_step hinv.readable, ?_, ?_⟩
  · have hstep := authorityStep_of_step deps system request
    generalize (system.step deps request).1.authority = after at hstep ⊢
    cases hstep with
    | idle => exact hinv.accounting
    | transaction hevent => exact hinv.accounting.step _
  · intro process stage hstage
    rcases stage_of_step hinv.readable hstage with ⟨old, hold, hsame⟩ | hcarries
    · rw [← hsame]
      exact (hinv.carried process old hold).mono (keepsStored_of_step deps system request)
    · exact hcarries
  · intro process now passUuid lost acceptance hmem
    rcases List.mem_cons.mp hmem with hnew | hold
    · obtain ⟨rfl, hreply⟩ := Prod.mk.inj hnew
      exact recorded_of_deliver hinv hreply.symm
    · exact (hinv.recorded process now passUuid lost acceptance hold).step request

theorem of_run (hrun : (deliverySystem deps).Run history system) :
    DeliveryInvariant deps history system := by
  refine Machine.Run.invariant
    (P := fun history system => DeliveryInvariant deps history system) (start deps) ?_ hrun
  intro history system request _ hinv
  exact hinv.step request

end DeliveryInvariant

/-- The credits of a run are the credited rows it leaves. -/
theorem countSteps_credits {history : List (DeliveryRequest × DeliveryReply)}
    (hrun : (deliverySystem deps).Run history system)
    (test : AcceptedWorkEventId → ShareFingerprint → Bool) :
    (deliverySystem deps).countSteps (credits test) history =
      system.authority.creditedRows test :=
  Machine.Run.countSteps_eq (credits test) (fun reached => reached.authority.creditedRows test) rfl
    (creditedRows_step test) hrun

end DeliverySystem

/-- Exactly-once credit: along every run of the delivery system, each event raises progress
in at most one step, and so does each share fingerprint; and an event the Authority has
answered is answered alike on every redelivery, which leaves the Authority unchanged. -/
theorem deliverySystem_exactlyOnce {deps : Dependencies}
    {history : List (DeliveryRequest × DeliveryReply)} {system : DeliverySystem}
    (hrun : (deliverySystem deps).Run history system) :
    (∀ eventId, (deliverySystem deps).countSteps
      (DeliverySystem.credits fun handed _ => handed == eventId) history ≤ 1) ∧
    (∀ fingerprint, (deliverySystem deps).countSteps
      (DeliverySystem.credits fun _ handed => handed == fingerprint) history ≤ 1) ∧
    (∀ process now passUuid lost acceptance,
      (DeliveryRequest.deliver process now passUuid lost,
        DeliveryReply.authority (.accepted acceptance)) ∈ history →
      ∀ again claimed startedAt,
        system.processes.lookup again = some (.claimed claimed startedAt) →
        claimed.event.eventId = acceptance.acknowledgement.eventId →
        ∀ now passUuid lost,
          (system.step deps (.deliver again now passUuid lost)).2 =
              .authority (.accepted acceptance) ∧
            (system.step deps (.deliver again now passUuid lost)).1.authority =
              system.authority) := by
  have hinv := DeliverySystem.DeliveryInvariant.of_run hrun
  refine ⟨?_, ?_, ?_⟩
  · intro eventId
    rw [DeliverySystem.countSteps_credits hrun]
    exact system.authority.creditedRows_event_le_one eventId
  · intro fingerprint
    rw [DeliverySystem.countSteps_credits hrun]
    exact AuthorityDatabase.creditedRows_fingerprint_le_one
      (AuthorityDatabase.accounting_of_invariant hinv.accounting) fingerprint
  · intro process now passUuid lost acceptance hmem again claimed startedAt hstage hevent
    exact DeliverySystem.redeliver hinv (hinv.recorded _ _ _ _ _ hmem) hstage hevent

/-- The single share challenge with its share taken from the outbox: the first process
crashes after the Authority has committed, and a second one delivers the event again. -/
def redeliveredShareRequests : List DeliveryRequest :=
  let event : AcceptedWorkEvent := {
    eventId := ⟨"event_a", validEvent_a⟩
    workSessionId := ⟨"session_a", validSession_a⟩
    assignedTarget := ⟨List.replicate 32 255, length_easiest, easiest_ne_zero⟩
    receivedAt := ⟨5, receivedAt_five⟩
    shareFingerprint := ⟨"share_a", validShare_a⟩
    networkTargetOutcome := .belowNetworkTarget
    maybeWorkerReport := none }
  let context : StratumLeaseContext :=
    ⟨"00000000-0000-4000-8000-000000000000", "boot", 15, 20, 60, validLeaseWindow_short⟩
  let worker : String → AcceptedWorkDeliveryWorker := fun workerId => ⟨workerId, 30, by decide⟩
  (singleShareRequests.take 5).map .authority ++
    [.persist event context "\x7b\"id\":4,\"result\":true\x7d",
      .claim 0 (worker "delivery_worker_a") 6 [], .deliver 0 6 "1" false, .crash 0,
      .claim 1 (worker "delivery_worker_b") 36 [], .deliver 1 37 "2" false, .settle 1]

theorem redeliveredShareRequests_exactlyOnce :
    let M := deliverySystem takenOverDependencies
    M.countSteps (DeliverySystem.credits fun _ handed => handed == ⟨"share_a", by decide⟩)
        (M.replay redeliveredShareRequests).1 ≤ 1 ∧
      ((M.replay redeliveredShareRequests).1.map fun entry => entry.2)[1]? =
        ((M.replay redeliveredShareRequests).1.map fun entry => entry.2)[4]? ∧
      (M.replay redeliveredShareRequests).2.authority.progressOf
        ⟨"challenge_a", by decide⟩ = 1 := by
  intro M
  have hrun := Machine.run_replay (M := M) redeliveredShareRequests
    (Machine.admitsAll_of_forall (fun _ _ _ => trivial) _ _)
  exact ⟨(deliverySystem_exactlyOnce hrun).2.1 _, by decide +kernel, by decide +kernel⟩

end WorkGate
