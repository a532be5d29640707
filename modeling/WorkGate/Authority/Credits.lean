/-
# Credits, step by step

What the tables say about credited events is here compared with what the transactions
do: the progress of a challenge rises in exactly the transactions that record a credited
event, so counting credited rows counts credits.
-/

import WorkGate.Authority.Accounting

namespace WorkGate

open WorkGate.Library

/-- The event a transaction hands to `accept_work`. -/
def AuthorityRequest.maybeEvent : AuthorityRequest → Option AcceptedWorkEvent
  | .acceptWork event _ _ _ _ => some event
  | _ => none

namespace AuthorityDatabase

variable {db after : AuthorityDatabase}

/-- The verified progress of a challenge, zero before it exists. -/
def progressOf (db : AuthorityDatabase) (challengeId : ChallengeId) : ℕ :=
  ((db.challenges.lookup challengeId).map fun row => row.verifiedProgress.value.toNat).getD 0

/-- Whether the progress of some challenge rose. -/
def raisesProgress (db after : AuthorityDatabase) : Bool :=
  db.challenges.keys.any fun challengeId =>
    decide (db.progressOf challengeId < after.progressOf challengeId)

theorem raisesProgress_iff : db.raisesProgress after = true ↔
    ∃ challengeId, challengeId ∈ db.challenges ∧
      db.progressOf challengeId < after.progressOf challengeId := by
  simp only [raisesProgress, List.any_eq_true, decide_eq_true_eq, AList.mem_keys]

theorem not_raisesProgress_of_eq (h : ∀ challengeId, challengeId ∈ db.challenges →
    after.progressOf challengeId = db.progressOf challengeId) :
    db.raisesProgress after = false := by
  rw [← Bool.not_eq_true, raisesProgress_iff]
  rintro ⟨challengeId, hmem, hrises⟩
  rw [h challengeId hmem] at hrises
  exact lt_irrefl _ hrises

theorem KeepsAccounting.not_raisesProgress (h : KeepsAccounting db after) :
    db.raisesProgress after = false := by
  refine not_raisesProgress_of_eq fun challengeId _ => ?_
  have haccount := congrArg (Option.map fun account => account.verifiedProgress.value.toNat)
    (h.account challengeId)
  simp only [Option.map_map] at haccount
  exact congrArg (Option.getD · 0) haccount

/-- The credited rows among the events that pass a test on identity and fingerprint. -/
def creditedRows (db : AuthorityDatabase)
    (test : AcceptedWorkEventId → ShareFingerprint → Bool) : ℕ :=
  db.events.entries.countP fun entry =>
    decide (entry.2.disposition = .credited) && test entry.1 entry.2.shareFingerprint

section Accepts

variable {event : AcceptedWorkEvent} {now : ℕ} {challengeId : ChallengeId}
  {challenge : ChallengeRow} {transition : AcceptedWorkTransition}

/-- The progress of each challenge after an accepted event. -/
theorem progressOf_accepts (h : AcceptsWork db event now after challengeId challenge transition)
    (other : ChallengeId) : after.progressOf other = db.progressOf other +
      if other = challengeId ∧ transition.disposition = .credited then
        event.assignedTarget.creditedWork.value.toNat else 0 := by
  rw [progressOf, progressOf, h.challenges_eq, updateProgress, Rows.lookup_updateRow_eq]
  split
  · next heq =>
      subst heq
      rw [h.challenge_eq, Option.map_some, Option.map_some, Option.map_some, Option.getD_some,
        Option.getD_some, h.spec.progress_eq]
      simp
  · next hne => simp [hne]

/-- Accepting an event raises progress exactly when it credits the event. -/
theorem raisesProgress_accepts
    (h : AcceptsWork db event now after challengeId challenge transition) :
    db.raisesProgress after = decide (transition.disposition = .credited) := by
  rw [Bool.eq_iff_iff, raisesProgress_iff, decide_eq_true_eq]
  constructor
  · rintro ⟨other, -, hrises⟩
    rw [progressOf_accepts h] at hrises
    by_contra hnot
    simp [hnot] at hrises
  · intro hcredited
    refine ⟨challengeId, Rows.mem_of_lookup h.challenge_eq, ?_⟩
    rw [progressOf_accepts h, if_pos ⟨rfl, hcredited⟩]
    exact Nat.lt_add_of_pos_right event.assignedTarget.creditedWork.positive

theorem creditedRows_accepts (h : AcceptsWork db event now after challengeId challenge transition)
    (test : AcceptedWorkEventId → ShareFingerprint → Bool) :
    after.creditedRows test = db.creditedRows test +
      if test event.eventId event.shareFingerprint && db.raisesProgress after then 1 else 0 := by
  rw [creditedRows, creditedRows, h.events_eq, AList.entries_insert_of_notMem h.fresh,
    List.countP_cons, raisesProgress_accepts h, Bool.and_comm]
  rfl

end Accepts

/-- The credited rows that pass a test grow with each transaction that hands such an event
over and raises progress, and with no other. -/
theorem creditedRows_step (db : AuthorityDatabase) (request : AuthorityRequest)
    (test : AcceptedWorkEventId → ShareFingerprint → Bool) :
    (authorityStep db request).1.creditedRows test = db.creditedRows test +
      if (request.maybeEvent.any fun event => test event.eventId event.shareFingerprint) &&
        db.raisesProgress (authorityStep db request).1 then 1 else 0 := by
  have heffect := authorityEffect_of_step db request
  generalize (authorityStep db request).1 = after at heffect ⊢
  have hkept : KeepsAccounting db after → after.creditedRows test = db.creditedRows test +
      if (request.maybeEvent.any fun event => test event.eventId event.shareFingerprint) &&
        db.raisesProgress after then 1 else 0 := by
    intro hkeeps
    rw [hkeeps.not_raisesProgress, Bool.and_false, creditedRows, hkeeps.events]
    rfl
  cases heffect with
  | moves hmoves => exact hkept (.of_moves hmoves)
  | issues hfresh => rfl
  | accepts haccepts => exact creditedRows_accepts haccepts test
  | fails => exact hkept (.of_failExpiredIssuance _)
  | claims hintent hclaimable =>
      exact hkept ((KeepsAccounting.of_failExpiredIssuance _).trans
        (.of_markIssuanceSigning _ _ _))
  | completes hholds => exact hkept (.of_issuePass _)

/-- An event has one row. -/
theorem creditedRows_event_le_one (db : AuthorityDatabase) (eventId : AcceptedWorkEventId) :
    db.creditedRows (fun recorded _ => recorded == eventId) ≤ 1 := by
  refine Rows.countP_entries_le_one ?_
  intro first second _ _ hfirst hsecond
  rw [Bool.and_eq_true, beq_iff_eq] at hfirst hsecond
  exact hfirst.2.trans hsecond.2.symm

/-- A fingerprint is credited at most once. -/
theorem creditedRows_fingerprint_le_one (haccounting : Accounting db)
    (fingerprint : ShareFingerprint) :
    db.creditedRows (fun _ recorded => recorded == fingerprint) ≤ 1 := by
  refine Rows.countP_entries_le_one ?_
  intro first second hmemFirst hmemSecond hfirst hsecond
  rw [Bool.and_eq_true, decide_eq_true_eq, beq_iff_eq] at hfirst hsecond
  exact haccounting.fingerprint_once first.1 first.2 second.1 second.2
    (Rows.mem_entries_iff.mp hmemFirst) (Rows.mem_entries_iff.mp hmemSecond) hfirst.1 hsecond.1
    (hfirst.2.trans hsecond.2.symm)

/-! ## Replays -/

/-- Once recorded, an event is answered from its row, which no transaction changes. -/
theorem acceptWork_replay {event : AcceptedWorkEvent} {row : EventRow}
    (hrow : db.events.lookup event.eventId = some row)
    (hmatches : row.canonicalMatches event = true)
    (leaseId : String) (clock : WorkerClock) (now : ℕ) (passUuid : String) :
    authorityStep db (.acceptWork event leaseId clock now passUuid) =
      (db, .accepted (row.acceptance event.eventId)) := by
  simp [authorityStep, answer, acceptWork, hrow, persistedAcceptance, hmatches, commit]

/-- An accepted event has its row afterwards, and the answer is the row's. -/
theorem lookup_of_accepted {event : AcceptedWorkEvent} {leaseId : String} {clock : WorkerClock}
    {now : ℕ} {passUuid : String} {acceptance : PersistedAcceptance}
    (h : (authorityStep db (.acceptWork event leaseId clock now passUuid)).2 =
      .accepted acceptance) :
    ∃ row, (authorityStep db (.acceptWork event leaseId clock now passUuid)).1.events.lookup
        event.eventId = some row ∧ row.canonicalMatches event = true ∧
      acceptance = row.acceptance event.eventId := by
  rcases acceptWork_cases (Prod.mk.eta
      (p := db.acceptWork event leaseId clock now passUuid)).symm with
    ⟨hsame, row, hrow, hmatches, hreply⟩ | ⟨-, error, hreply⟩ | ⟨-, -, -, -, -, -, error, hreply⟩ |
      ⟨-, error, -, hreply⟩ | ⟨challengeId, challenge, transition, haccepts, hreply⟩
  · simp only [authorityStep, answer, hreply, AuthorityReply.accepted.injEq] at h
    subst h
    simp only [authorityStep, answer, hsame]
    exact ⟨row, hrow, hmatches, rfl⟩
  · simp [authorityStep, answer, hreply] at h
  · simp [authorityStep, answer, hreply] at h
  · simp [authorityStep, answer, hreply] at h
  · simp only [authorityStep, answer, hreply, AuthorityReply.accepted.injEq] at h
    subst h
    refine ⟨eventRow event challengeId challenge.workRequirement transition, ?_, ?_, rfl⟩
    · simp only [authorityStep, answer, haccepts.events_eq, AList.lookup_insert]
    · simp [EventRow.canonicalMatches, eventRow]

end AuthorityDatabase

end WorkGate
