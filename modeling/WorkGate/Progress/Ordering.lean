/-
# The order of events does not matter (src/progress.rs)

A challenge stops crediting once it is satisfied, so two orders of the same events pass
through different totals.  Whether the challenge ends satisfied, and the total of a
challenge that does not, depend only on which events there were.
-/

import WorkGate.Progress.Projection
import Mathlib.Algebra.BigOperators.Group.List.Basic

namespace WorkGate

open WorkGate.Library

/-- The work an event is worth. -/
def AcceptedWorkEvent.credit (event : AcceptedWorkEvent) : ℕ :=
  event.assignedTarget.creditedWork.value.toNat

theorem exists_acceptedWorkTransition (input : AcceptedWorkTransitionInput)
    (hfits : input.progressBefore.value.toNat + input.creditedWork.value.toNat < 2 ^ 256) :
    ∃ transition, acceptedWorkTransition input = .ok transition := by
  obtain ⟨sum, hsum⟩ : ∃ sum, input.progressBefore.checkedAdd input.creditedWork = .ok sum :=
    VerifiedProgress.exists_checkedAdd hfits
  unfold acceptedWorkTransition
  cases input.progressBefore.meets input.workRequirement with
  | true => exact ⟨_, rfl⟩
  | false =>
      cases input.fingerprintInserted with
      | false => exact ⟨_, rfl⟩
      | true =>
          simp only [Bool.not_true, Bool.or_false, Bool.false_eq_true, ↓reduceIte, hsum,
            Except.mapError]
          exact ⟨_, rfl⟩

namespace ChallengeProgress

/-- Applies or idempotently replays one accepted event. -/
def accept (progress : ChallengeProgress) (event : AcceptedWorkEvent) :
    Except ProgressError (ChallengeProgress × AcceptedWorkAcknowledgement) :=
  progress.acceptWithGlobalDuplicate event false

/-- The projection after all events of a list, or the first failure. -/
def acceptAll (progress : ChallengeProgress) :
    List AcceptedWorkEvent → Except ProgressError ChallengeProgress
  | [] => .ok progress
  | event :: events =>
      match progress.accept event with
      | .ok (next, _) => next.acceptAll events
      | .error error => .error error

/-- The sessions of a challenge registered one after the other. -/
def registerAll (progress : ChallengeProgress) :
    List WorkSessionId → Except ProgressError ChallengeProgress
  | [] => .ok progress
  | sessionId :: sessions =>
      match progress.registerSession sessionId with
      | .ok next => next.registerAll sessions
      | .error error => .error error

/-- The events to come are all new to the projection, and their credits fit. -/
structure Awaits (progress : ChallengeProgress) (events : List AcceptedWorkEvent) : Prop where
  sessions : ∀ event ∈ events, event.workSessionId ∈ progress.workSessions
  unrecorded : ∀ event ∈ events, event.eventId ∉ progress.eventRecords
  unseen : ∀ event ∈ events, event.shareFingerprint ∉ progress.shareFingerprints
  ids : (events.map AcceptedWorkEvent.eventId).Nodup
  fingerprints : (events.map AcceptedWorkEvent.shareFingerprint).Nodup
  fits : progress.verifiedProgress.value.toNat +
    (events.map AcceptedWorkEvent.credit).sum < 2 ^ 256

variable {progress next : ChallengeProgress} {event : AcceptedWorkEvent}
  {events : List AcceptedWorkEvent} {acknowledgement : AcceptedWorkAcknowledgement}

/-- What a first delivery makes of the total. -/
theorem Accepts.progress_eq {duplicate : Bool}
    (h : progress.Accepts event duplicate next acknowledgement) :
    next.verifiedProgress.value.toNat = progress.verifiedProgress.value.toNat +
      if progress.verifiedProgress.value.toNat < progress.workRequirement.value.toNat ∧
          (duplicate || decide (event.shareFingerprint ∈ progress.shareFingerprints)) = false
      then event.credit else 0 := by
  obtain ⟨transition, hspec, -, -, hverified, -⟩ := h.transition
  have hcredited := hspec.credited_iff
  rw [h.reached_eq]
  simp only [hverified, hspec.progress_eq, hcredited, Bool.not_eq_true']
  rfl

theorem isSatisfied_eq_false_iff : progress.isSatisfied = false ↔
    progress.verifiedProgress.value.toNat < progress.workRequirement.value.toNat := by
  rw [isSatisfied, ← Bool.not_eq_true, VerifiedProgress.meets_iff, not_le]

/-- A delivery adds at most the credit of its event, and nothing once the challenge is
satisfied. -/
structure AddsAtMost (progress : ChallengeProgress) (credit : ℕ) (next : ChallengeProgress) :
    Prop where
  requirement : next.workRequirement = progress.workRequirement
  grows : progress.verifiedProgress.value.toNat ≤ next.verifiedProgress.value.toNat
  bounded : next.verifiedProgress.value.toNat ≤ progress.verifiedProgress.value.toNat + credit
  settled : progress.isSatisfied = true →
    next.verifiedProgress.value.toNat = progress.verifiedProgress.value.toNat

theorem addsAtMost_of_accept (h : progress.accept event = .ok (next, acknowledgement)) :
    progress.AddsAtMost event.credit next := by
  rw [accept] at h
  cases hlookup : progress.eventRecords.lookup event.eventId with
  | some record =>
      -- A replay changes nothing.
      simp only [acceptWithGlobalDuplicate, hlookup] at h
      cases hreplay : record.replayAcknowledgement event with
      | error error =>
          rw [hreplay] at h
          cases h
      | ok recorded =>
          rw [hreplay] at h
          cases h
          exact ⟨rfl, le_refl _, Nat.le_add_right _ _, fun _ => rfl⟩
  | none =>
      have haccepts := accepts_of_acceptWithGlobalDuplicate hlookup h
      have hvalue := haccepts.progress_eq
      refine ⟨by rw [haccepts.reached_eq], ?_, ?_, ?_⟩
      · rw [hvalue]
        exact Nat.le_add_right _ _
      · rw [hvalue]
        apply Nat.add_le_add_left
        split
        · exact le_refl _
        · exact Nat.zero_le _
      · intro hsatisfied
        have hreached : ¬ progress.verifiedProgress.value.toNat <
            progress.workRequirement.value.toNat := by
          rw [← isSatisfied_eq_false_iff, hsatisfied]
          decide
        rw [hvalue, if_neg (fun hboth => hreached hboth.1), Nat.add_zero]

/-- The next event of an awaited list is accepted, and credited below the requirement. -/
theorem Awaits.accept (h : progress.Awaits (event :: events)) : ∃ next acknowledgement,
    progress.accept event = .ok (next, acknowledgement) ∧ next.Awaits events ∧
      (progress.isSatisfied = false → next.verifiedProgress.value.toNat =
        progress.verifiedProgress.value.toNat + event.credit) := by
  obtain ⟨hsessions, hunrecorded, hunseen, hids, hfingerprints, hfits⟩ := h
  rw [List.forall_mem_cons] at hsessions hunrecorded hunseen
  rw [List.map_cons, List.nodup_cons] at hids hfingerprints
  rw [List.map_cons, List.sum_cons] at hfits
  have hnew : progress.eventRecords.lookup event.eventId = none :=
    AList.lookup_eq_none.mpr hunrecorded.1
  have hroom : progress.verifiedProgress.value.toNat +
      event.assignedTarget.creditedWork.value.toNat < 2 ^ 256 := by
    simp only [AcceptedWorkEvent.credit] at hfits
    omega
  obtain ⟨result, hresult⟩ : ∃ result, progress.accept event = .ok result := by
    obtain ⟨transition, htransition⟩ := exists_acceptedWorkTransition {
      progressBefore := progress.verifiedProgress
      workRequirement := progress.workRequirement
      creditedWork := event.assignedTarget.creditedWork
      fingerprintInserted :=
        !(false || decide (event.shareFingerprint ∈ progress.shareFingerprints)) } hroom
    simp only [ChallengeProgress.accept, acceptWithGlobalDuplicate, hnew, hsessions.1,
      not_true_eq_false, ↓reduceIte, htransition, bind, Except.bind]
    exact ⟨_, rfl⟩
  obtain ⟨next, acknowledgement⟩ := result
  have haccepts := accepts_of_acceptWithGlobalDuplicate hnew hresult
  have hadds := addsAtMost_of_accept hresult
  refine ⟨next, acknowledgement, hresult, ?_, ?_⟩
  · constructor
    · rw [haccepts.reached_eq]
      exact hsessions.2
    · intro other hother
      rw [haccepts.reached_eq, AList.mem_insert, not_or]
      refine ⟨?_, hunrecorded.2 other hother⟩
      intro hsame
      exact hids.1 (hsame ▸ List.mem_map_of_mem hother)
    · intro other hother
      rw [haccepts.reached_eq, Finset.mem_insert, not_or]
      refine ⟨?_, hunseen.2 other hother⟩
      intro hsame
      exact hfingerprints.1 (hsame ▸ List.mem_map_of_mem hother)
    · exact hids.2
    · exact hfingerprints.2
    · have hbounded := hadds.bounded
      omega
  · intro hbelow
    rw [haccepts.progress_eq, if_pos]
    refine ⟨isSatisfied_eq_false_iff.mp hbelow, ?_⟩
    simpa using hunseen.1

theorem AddsAtMost.trans {final : ChallengeProgress} {first second : ℕ}
    (hfirst : progress.AddsAtMost first next) (hsecond : next.AddsAtMost second final) :
    progress.AddsAtMost (first + second) final where
  requirement := by rw [hsecond.requirement, hfirst.requirement]
  grows := hfirst.grows.trans hsecond.grows
  bounded := by
    rw [← Nat.add_assoc]
    exact hsecond.bounded.trans (Nat.add_le_add_right hfirst.bounded _)
  settled := by
    intro hsatisfied
    have hnext := hfirst.settled hsatisfied
    have hstill : next.isSatisfied = true := by
      rw [isSatisfied, VerifiedProgress.meets_iff] at hsatisfied ⊢
      rw [hfirst.requirement, hnext]
      exact hsatisfied
    rw [hsecond.settled hstill, hnext]

theorem addsAtMost_of_acceptAll {final : ChallengeProgress}
    (h : progress.acceptAll events = .ok final) :
    progress.AddsAtMost (events.map AcceptedWorkEvent.credit).sum final := by
  induction events generalizing progress with
  | nil =>
      cases h
      exact ⟨rfl, le_refl _, Nat.le_add_right _ _, fun _ => rfl⟩
  | cons event events ih =>
      rw [acceptAll] at h
      split at h
      · next next acknowledgement haccept =>
          rw [List.map_cons, List.sum_cons]
          exact (addsAtMost_of_accept haccept).trans (ih h)
      · cases h

theorem acceptAll_append (progress : ChallengeProgress) (before after : List AcceptedWorkEvent) :
    progress.acceptAll (before ++ after) =
      match progress.acceptAll before with
      | .ok reached => reached.acceptAll after
      | .error error => .error error := by
  induction before generalizing progress with
  | nil => rfl
  | cons event before ih =>
      rw [List.cons_append, acceptAll, acceptAll]
      cases progress.accept event with
      | ok result => exact ih result.1
      | error error => rfl

/-- All events of an awaited list are accepted, and the total is exact as long as the
challenge is not satisfied. -/
theorem Awaits.acceptAll (h : progress.Awaits events) : ∃ final,
    progress.acceptAll events = .ok final ∧
      (final.isSatisfied = false → final.verifiedProgress.value.toNat =
        progress.verifiedProgress.value.toNat + (events.map AcceptedWorkEvent.credit).sum) := by
  induction events generalizing progress with
  | nil => exact ⟨progress, rfl, fun _ => rfl⟩
  | cons event events ih =>
      obtain ⟨next, acknowledgement, haccept, hawaits, hcredited⟩ := h.accept
      obtain ⟨final, hfinal, hexact⟩ := ih hawaits
      have hadds := addsAtMost_of_accept haccept
      have hrest := addsAtMost_of_acceptAll hfinal
      refine ⟨final, by rw [ChallengeProgress.acceptAll, haccept]; exact hfinal, ?_⟩
      intro hbelow
      have hbefore : progress.isSatisfied = false := by
        rw [isSatisfied_eq_false_iff] at hbelow ⊢
        rw [hrest.requirement, hadds.requirement] at hbelow
        exact lt_of_le_of_lt (hadds.grows.trans hrest.grows) hbelow
      rw [hexact hbelow, hcredited hbefore, List.map_cons, List.sum_cons, Nat.add_assoc]

/-- The event of a list at which the challenge became satisfied. -/
def SatisfiedBy (progress : ChallengeProgress) (order : List AcceptedWorkEvent)
    (event : AcceptedWorkEvent) : Prop :=
  ∃ before after reached crossed acknowledgement, order = before ++ event :: after ∧
    progress.acceptAll before = .ok reached ∧ reached.isSatisfied = false ∧
    reached.accept event = .ok (crossed, acknowledgement) ∧ crossed.isSatisfied = true

/-- A challenge that ends satisfied became so at one of its events. -/
theorem exists_satisfiedBy {final : ChallengeProgress} (hopen : progress.isSatisfied = false)
    (h : progress.acceptAll events = .ok final) (hsatisfied : final.isSatisfied = true) :
    ∃ event, progress.SatisfiedBy events event := by
  induction events generalizing progress with
  | nil =>
      cases h
      rw [hopen] at hsatisfied
      cases hsatisfied
  | cons event events ih =>
      rw [acceptAll] at h
      split at h
      · next next acknowledgement haccept =>
          cases hnext : next.isSatisfied with
          | true => exact ⟨event, [], events, progress, next, acknowledgement, rfl, rfl, hopen,
              haccept, hnext⟩
          | false =>
              obtain ⟨crossing, before, after, reached, crossed, answer, hsplit, hreached, hrest⟩ :=
                ih hnext h
              refine ⟨crossing, event :: before, after, reached, crossed, answer, ?_, ?_, hrest⟩
              · rw [hsplit, List.cons_append]
              · rw [acceptAll, haccept]
                exact hreached
      · cases h

/-- The total stops at the event that satisfied the challenge. -/
theorem SatisfiedBy.lt {final : ChallengeProgress} (hby : progress.SatisfiedBy events event)
    (h : progress.acceptAll events = .ok final) :
    final.verifiedProgress.value.toNat < progress.workRequirement.value.toNat + event.credit := by
  obtain ⟨before, after, reached, crossed, answer, rfl, hreached, hopen, haccept, hcrossed⟩ := hby
  rw [acceptAll_append, hreached] at h
  simp only [acceptAll, haccept] at h
  have hadds := addsAtMost_of_accept haccept
  have hrequirement := (addsAtMost_of_acceptAll hreached).requirement
  rw [isSatisfied_eq_false_iff, hrequirement] at hopen
  rw [(addsAtMost_of_acceptAll h).settled hcrossed]
  have hbounded := hadds.bounded
  omega

theorem registerAll_eq {sessions : List WorkSessionId}
    (h : progress.registerAll sessions = .ok next) :
    (∀ sessionId, sessionId ∈ next.workSessions ↔
      sessionId ∈ progress.workSessions ∨ sessionId ∈ sessions) ∧
      next = { progress with workSessions := next.workSessions } := by
  induction sessions generalizing progress with
  | nil =>
      cases h
      simp
  | cons sessionId sessions ih =>
      rw [registerAll, registerSession] at h
      by_cases hmem : sessionId ∈ progress.workSessions
      · simp [hmem] at h
      · simp only [hmem, ↓reduceIte] at h
        obtain ⟨hsessions, hnext⟩ := ih h
        refine ⟨?_, hnext⟩
        intro other
        rw [hsessions, Finset.mem_insert, List.mem_cons, or_assoc, or_left_comm]

/-- A new challenge whose sessions are registered awaits any distinct events of theirs. -/
theorem awaits_of_registerAll {requirement : CreditedWork} {sessions : List WorkSessionId}
    (h : (new requirement).registerAll sessions = .ok progress)
    (hsessions : ∀ event ∈ events, event.workSessionId ∈ sessions)
    (hids : (events.map AcceptedWorkEvent.eventId).Nodup)
    (hfingerprints : (events.map AcceptedWorkEvent.shareFingerprint).Nodup)
    (hfits : (events.map AcceptedWorkEvent.credit).sum < 2 ^ 256) : progress.Awaits events := by
  obtain ⟨hregistered, hprogress⟩ := registerAll_eq h
  constructor
  · intro event hevent
    rw [hregistered]
    exact .inr (hsessions event hevent)
  · intro event hevent
    rw [hprogress]
    simp [new]
  · intro event hevent
    rw [hprogress]
    simp [new]
  · exact hids
  · exact hfingerprints
  · rw [hprogress]
    simpa [new, VerifiedProgress.zero] using hfits

end ChallengeProgress

/-- For one challenge and distinct events whose credits fit 256 bits, in every order: all
events are accepted, the challenge ends satisfied exactly when the credits together reach
the requirement, and its total is their sum where it does not, and stays below the
requirement plus the credit of the event that satisfied it where it does. -/
theorem satisfaction_order_independent {requirement : CreditedWork}
    {sessions : List WorkSessionId} {start : ChallengeProgress}
    (hstart : (ChallengeProgress.new requirement).registerAll sessions = .ok start)
    {events : List AcceptedWorkEvent}
    (hsessions : ∀ event ∈ events, event.workSessionId ∈ sessions)
    (hids : (events.map AcceptedWorkEvent.eventId).Nodup)
    (hfingerprints : (events.map AcceptedWorkEvent.shareFingerprint).Nodup)
    (hfits : (events.map AcceptedWorkEvent.credit).sum < 2 ^ 256)
    {order : List AcceptedWorkEvent} (horder : order.Perm events) :
    ∃ final, start.acceptAll order = .ok final ∧
      (final.isSatisfied = true ↔
        requirement.value.toNat ≤ (events.map AcceptedWorkEvent.credit).sum) ∧
      (final.isSatisfied = false → final.verifiedProgress.value.toNat =
        (events.map AcceptedWorkEvent.credit).sum) ∧
      (final.isSatisfied = true → ∃ event, start.SatisfiedBy order event) ∧
      ∀ event, start.SatisfiedBy order event → final.verifiedProgress.value.toNat <
        requirement.value.toNat + event.credit := by
  have hawaits : start.Awaits order := by
    apply ChallengeProgress.awaits_of_registerAll hstart
    · intro event hevent
      exact hsessions event (horder.subset hevent)
    · exact (horder.map _).nodup_iff.mpr hids
    · exact (horder.map _).nodup_iff.mpr hfingerprints
    · rwa [(horder.map _).sum_eq]
  obtain ⟨final, hfinal, hexact⟩ := hawaits.acceptAll
  have hadds := ChallengeProgress.addsAtMost_of_acceptAll hfinal
  obtain ⟨-, hopened⟩ := ChallengeProgress.registerAll_eq hstart
  have hzero : start.verifiedProgress.value.toNat = 0 := by
    rw [hopened]
    simp [ChallengeProgress.new, VerifiedProgress.zero]
  have hrequirement : start.workRequirement = requirement := by
    rw [hopened]
    rfl
  have hopen : start.isSatisfied = false := by
    rw [ChallengeProgress.isSatisfied_eq_false_iff, hzero]
    exact start.workRequirement.positive
  have hsum := (horder.map AcceptedWorkEvent.credit).sum_eq
  have hbounded := hadds.bounded
  rw [hzero, hsum, Nat.zero_add] at hexact hbounded
  refine ⟨final, hfinal, ?_, hexact,
    fun hsatisfied => ChallengeProgress.exists_satisfiedBy hopen hfinal hsatisfied, ?_⟩
  · constructor
    · intro hsatisfied
      rw [ChallengeProgress.isSatisfied, VerifiedProgress.meets_iff, hadds.requirement,
        hrequirement] at hsatisfied
      exact hsatisfied.trans hbounded
    · intro hreached
      by_contra hbelow
      rw [Bool.not_eq_true] at hbelow
      have hvalue := hexact hbelow
      rw [ChallengeProgress.isSatisfied_eq_false_iff, hadds.requirement, hrequirement,
        hvalue] at hbelow
      omega
  · intro event hby
    have hlt := hby.lt hfinal
    rwa [hrequirement] at hlt

/-- Two shares of the easiest target, each worth one expected hash. -/
def easyShares : List AcceptedWorkEvent :=
  let easyShare (eventId : AcceptedWorkEventId) (shareFingerprint : ShareFingerprint) :
      AcceptedWorkEvent := {
    eventId
    workSessionId := ⟨"session_a", validSession_a⟩
    assignedTarget := ⟨List.replicate 32 255, length_easiest, easiest_ne_zero⟩
    receivedAt := ⟨1, Nat.one_ne_zero⟩
    shareFingerprint
    networkTargetOutcome := .belowNetworkTarget
    maybeWorkerReport := none }
  [easyShare ⟨"event_a", validEvent_a⟩ ⟨"share_a", validShare_a⟩,
    easyShare ⟨"event_b", by decide⟩ ⟨"share_b", by decide⟩]

theorem easyShares_satisfied : ∃ start final,
    (ChallengeProgress.new ⟨⟨[2, 0, 0, 0], rfl⟩, by decide⟩).registerAll
        [⟨"session_a", by decide⟩] = .ok start ∧
      start.acceptAll easyShares.reverse = .ok final ∧ final.isSatisfied = true := by
  obtain ⟨start, hstart⟩ : ∃ start, (ChallengeProgress.new
      ⟨⟨[2, 0, 0, 0], rfl⟩, by decide⟩).registerAll [⟨"session_a", by decide⟩] = .ok start :=
    ⟨_, rfl⟩
  have hsessions : ∀ event ∈ easyShares,
      event.workSessionId ∈ [(⟨"session_a", by decide⟩ : WorkSessionId)] := by
    decide +kernel
  obtain ⟨final, hfinal, hsatisfied, -⟩ := satisfaction_order_independent hstart hsessions
    (by decide +kernel) (by decide +kernel) (by decide +kernel) (List.reverse_perm easyShares)
  exact ⟨start, final, hstart, hfinal, hsatisfied.mpr (by decide +kernel)⟩

end WorkGate
