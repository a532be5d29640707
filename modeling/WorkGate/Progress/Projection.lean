/-
# The projection of one Work Challenge (src/progress.rs)

`accepted_work_transition` decides what one new event does to a challenge: it is
credited unless the challenge was satisfied already or its share was seen before,
and the credit that reaches the requirement creates the issuance intent.  Both the
in-memory service and the Authority's transaction run this one function, so its
meaning is stated once, in natural numbers, as `TransitionSpec`.
-/

import WorkGate.Progress.Event
import WorkGate.Library.Journal
import WorkGate.Library.Rows
import Mathlib.Data.Finset.Insert

namespace WorkGate

open WorkGate.Library

structure AcceptedWorkTransitionInput where
  progressBefore : VerifiedProgress
  workRequirement : CreditedWork
  creditedWork : CreditedWork
  fingerprintInserted : Bool

structure AcceptedWorkTransition where
  disposition : AcceptedWorkDisposition
  maybeCreditedWork : Option CreditedWork
  verifiedProgress : VerifiedProgress
  satisfied : Bool
  issuanceIntentCreated : Bool

/-- `accepted_work_transition`. -/
def acceptedWorkTransition (input : AcceptedWorkTransitionInput) :
    Except ProgressError AcceptedWorkTransition := do
  let alreadySatisfied := input.progressBefore.meets input.workRequirement
  let maybeCreditedWork :=
    if alreadySatisfied || !input.fingerprintInserted then none else some input.creditedWork
  let verifiedProgress ← match maybeCreditedWork with
    | some creditedWork =>
        (input.progressBefore.checkedAdd creditedWork).mapError ProgressError.invalidWork
    | none => .ok input.progressBefore
  let satisfied := alreadySatisfied || verifiedProgress.meets input.workRequirement
  let issuanceIntentCreated := !alreadySatisfied && satisfied
  let disposition :=
    if alreadySatisfied then AcceptedWorkDisposition.challengeSatisfied
    else if !input.fingerprintInserted then AcceptedWorkDisposition.duplicateShare
    else AcceptedWorkDisposition.credited
  return { disposition, maybeCreditedWork, verifiedProgress, satisfied, issuanceIntentCreated }

/-- What a transition does, read in natural numbers. -/
structure TransitionSpec (before requirement work : ℕ) (fresh : Bool)
    (transition : AcceptedWorkTransition) : Prop where
  credited_iff : transition.disposition = .credited ↔ before < requirement ∧ fresh = true
  maybeCreditedWork_eq : transition.maybeCreditedWork.map (fun credit => credit.value.toNat) =
    if transition.disposition = .credited then some work else none
  progress_eq : transition.verifiedProgress.value.toNat =
    before + if transition.disposition = .credited then work else 0
  satisfied_iff :
    transition.satisfied = true ↔ requirement ≤ transition.verifiedProgress.value.toNat
  intent_iff : transition.issuanceIntentCreated = true ↔
    before < requirement ∧ requirement ≤ transition.verifiedProgress.value.toNat

theorem acceptedWorkTransition_spec {input : AcceptedWorkTransitionInput}
    {transition : AcceptedWorkTransition} (h : acceptedWorkTransition input = .ok transition) :
    TransitionSpec input.progressBefore.value.toNat input.workRequirement.value.toNat
      input.creditedWork.value.toNat input.fingerprintInserted transition := by
  have hmeets := input.progressBefore.meets_iff input.workRequirement
  unfold acceptedWorkTransition at h
  -- Satisfied before, a share seen before, or a fresh share to credit.
  cases hsatisfied : input.progressBefore.meets input.workRequirement with
  | true =>
      rw [hsatisfied] at h
      have hreached := hmeets.mp hsatisfied
      simp only [Bool.true_or, ↓reduceIte, bind, Except.bind, pure, Except.pure,
        Except.ok.injEq] at h
      subst h
      constructor <;> simp [hreached]
  | false =>
      rw [hsatisfied] at h
      have hbelow : input.progressBefore.value.toNat < input.workRequirement.value.toNat := by
        rw [← not_le, ← hmeets, hsatisfied]
        decide
      cases hfresh : input.fingerprintInserted with
      | false =>
          simp only [hfresh, Bool.not_false, Bool.or_true, ↓reduceIte, bind, Except.bind, pure,
            Except.pure, hsatisfied, Except.ok.injEq] at h
          subst h
          constructor <;> simp [hbelow]
      | true =>
          simp only [hfresh, Bool.not_true, Bool.or_false, Bool.false_eq_true, ↓reduceIte, bind,
            Except.bind, pure, Except.pure] at h
          cases hsum : input.progressBefore.checkedAdd input.creditedWork with
          | error error => simp [hsum, Except.mapError] at h
          | ok sum =>
              have hvalue := VerifiedProgress.checkedAdd_eq_ok hsum
              simp only [hsum, Except.mapError, Except.ok.injEq] at h
              subst h
              constructor <;> simp [hbelow, hvalue, sum.meets_iff]

/-- A transition keeps a journal by its rules: the event it decides may be recorded,
and the new total is the new balance. -/
theorem TransitionSpec.valid_record {α ε φ : Type} [DecidableEq α] {goal : α → Option ℕ}
    {journal : List (JournalEntry α ε φ)} {entry : JournalEntry α ε φ}
    {before requirement work : ℕ} {fresh : Bool} {transition : AcceptedWorkTransition}
    (hspec : TransitionSpec before requirement work fresh transition)
    (hvalid : Journal.Valid goal journal) (hopen : goal entry.account = some requirement)
    (hbefore : before = Journal.balance journal entry.account)
    (hevent : ∀ e ∈ journal, e.event ≠ entry.event)
    (hfresh : fresh = true ↔ ∀ e ∈ journal, e.mark ≠ entry.mark) (hamount : entry.amount = work)
    (hcredited : entry.credited = decide (transition.disposition = .credited))
    (hclosing : entry.closing = transition.issuanceIntentCreated) :
    Journal.Valid goal (entry :: journal) ∧
      transition.verifiedProgress.value.toNat =
        Journal.balance (entry :: journal) entry.account := by
  have hbalance : transition.verifiedProgress.value.toNat =
      Journal.balance (entry :: journal) entry.account := by
    rw [Journal.balance_cons, hspec.progress_eq, hbefore, Nat.add_comm, Journal.contribution,
      hcredited, hamount]
    simp
  refine ⟨hvalid.record hopen hevent ?_ ?_, hbalance⟩
  · rw [hcredited, decide_eq_true_eq, hspec.credited_iff, hbefore, hfresh]
  · rw [hclosing, hspec.intent_iff, hbefore, hbalance]

/-- An event with the acknowledgement it was answered by. -/
structure AcceptedEventRecord where
  event : AcceptedWorkEvent
  acknowledgement : AcceptedWorkAcknowledgement
  deriving DecidableEq

/-- A second delivery gets the recorded acknowledgement, or is refused when it is not
the same event. -/
def AcceptedEventRecord.replayAcknowledgement (record : AcceptedEventRecord)
    (event : AcceptedWorkEvent) : Except ProgressError AcceptedWorkAcknowledgement :=
  if !record.event.matchesAuthoritativeReplay event then .error .conflictingEventReplay
  else .ok record.acknowledgement

/-- Pure in-memory projection for one Work Challenge. -/
structure ChallengeProgress where
  workRequirement : CreditedWork
  verifiedProgress : VerifiedProgress
  workSessions : Finset WorkSessionId
  eventRecords : Rows AcceptedWorkEventId AcceptedEventRecord
  shareFingerprints : Finset ShareFingerprint

namespace ChallengeProgress

/-- Creates a zero-progress projection with an immutable Work Requirement. -/
def new (workRequirement : CreditedWork) : ChallengeProgress where
  workRequirement := workRequirement
  verifiedProgress := VerifiedProgress.zero
  workSessions := ∅
  eventRecords := ∅
  shareFingerprints := ∅

/-- Registers an authenticated one-to-one Work Session mapping. -/
def registerSession (progress : ChallengeProgress) (sessionId : WorkSessionId) :
    Except ProgressError ChallengeProgress :=
  if sessionId ∈ progress.workSessions then .error .duplicateWorkSession
  else .ok { progress with workSessions := insert sessionId progress.workSessions }

/-- `accept_with_global_duplicate`: the acknowledgement and the projection it leaves.
Nothing is written before the last failure, so an error leaves no trace. -/
def acceptWithGlobalDuplicate (progress : ChallengeProgress) (event : AcceptedWorkEvent)
    (globallyDuplicateShare : Bool) :
    Except ProgressError (ChallengeProgress × AcceptedWorkAcknowledgement) :=
  match progress.eventRecords.lookup event.eventId with
  | some record => do
      let acknowledgement ← record.replayAcknowledgement event
      return (progress, acknowledgement)
  | none =>
      if event.workSessionId ∉ progress.workSessions then .error .unknownWorkSession
      else do
        let duplicateShare :=
          globallyDuplicateShare || decide (event.shareFingerprint ∈ progress.shareFingerprints)
        let transition ← acceptedWorkTransition {
          progressBefore := progress.verifiedProgress
          workRequirement := progress.workRequirement
          creditedWork := event.assignedTarget.creditedWork
          fingerprintInserted := !duplicateShare }
        let acknowledgement : AcceptedWorkAcknowledgement := {
          eventId := event.eventId
          workSessionId := event.workSessionId
          receivedAt := event.receivedAt
          networkTargetOutcome := event.networkTargetOutcome
          disposition := transition.disposition
          maybeCreditedWork := transition.maybeCreditedWork
          verifiedProgress := transition.verifiedProgress
          workRequirement := progress.workRequirement
          issuanceIntentCreated := transition.issuanceIntentCreated }
        return ({ progress with
          verifiedProgress := transition.verifiedProgress
          shareFingerprints := insert event.shareFingerprint progress.shareFingerprints
          eventRecords := progress.eventRecords.insert event.eventId ⟨event, acknowledgement⟩ },
          acknowledgement)

/-- Returns whether exact progress reached the immutable requirement. -/
def isSatisfied (progress : ChallengeProgress) : Bool :=
  progress.verifiedProgress.meets progress.workRequirement

/-- Everything a first delivery does: the projection gains one record, one
fingerprint and the credit its acknowledgement states. -/
structure Accepts (progress : ChallengeProgress) (event : AcceptedWorkEvent) (duplicate : Bool)
    (reached : ChallengeProgress) (acknowledgement : AcceptedWorkAcknowledgement) : Prop where
  session : event.workSessionId ∈ progress.workSessions
  reached_eq : reached = { progress with
    verifiedProgress := acknowledgement.verifiedProgress
    shareFingerprints := insert event.shareFingerprint progress.shareFingerprints
    eventRecords := progress.eventRecords.insert event.eventId ⟨event, acknowledgement⟩ }
  eventId_eq : acknowledgement.eventId = event.eventId
  transition : ∃ transition,
    TransitionSpec progress.verifiedProgress.value.toNat progress.workRequirement.value.toNat
      event.assignedTarget.creditedWork.value.toNat
      (!(duplicate || decide (event.shareFingerprint ∈ progress.shareFingerprints))) transition ∧
    acknowledgement.disposition = transition.disposition ∧
    acknowledgement.maybeCreditedWork = transition.maybeCreditedWork ∧
    acknowledgement.verifiedProgress = transition.verifiedProgress ∧
    acknowledgement.issuanceIntentCreated = transition.issuanceIntentCreated

theorem accepts_of_acceptWithGlobalDuplicate {progress reached : ChallengeProgress}
    {event : AcceptedWorkEvent} {duplicate : Bool}
    {acknowledgement : AcceptedWorkAcknowledgement}
    (hnew : progress.eventRecords.lookup event.eventId = none)
    (h : progress.acceptWithGlobalDuplicate event duplicate = .ok (reached, acknowledgement)) :
    progress.Accepts event duplicate reached acknowledgement := by
  simp only [acceptWithGlobalDuplicate, hnew] at h
  split at h
  · cases h
  · next hsession =>
      rw [not_not] at hsession
      simp only [bind, Except.bind, pure, Except.pure] at h
      split at h
      · cases h
      · next transition htransition =>
          cases h
          exact ⟨hsession, rfl, rfl, transition, acceptedWorkTransition_spec htransition, rfl, rfl,
            rfl, rfl⟩

end ChallengeProgress

end WorkGate
