/-
# The accounting of the Authority's store

The event rows, newest first, are a journal in the sense of `Library.Journal`, as
the records of the in-memory service are, and the columns of a challenge are its
balance and whether it has reached its goal.  Every transaction keeps that.
-/

import WorkGate.Library.Journal
import WorkGate.Authority.Transactions

namespace WorkGate

open WorkGate.Library

namespace AuthorityDatabase

/-- One event row, as the journal sees it. -/
def journalEntry (eventId : AcceptedWorkEventId) (row : EventRow) :
    JournalEntry ChallengeId AcceptedWorkEventId ShareFingerprint where
  account := row.challengeId
  event := eventId
  mark := row.shareFingerprint
  amount := row.assignedTarget.creditedWork.value.toNat
  credited := decide (row.disposition = .credited)
  closing := row.issuanceIntentCreated

/-- The event rows, newest first. -/
def journal (db : AuthorityDatabase) :
    List (JournalEntry ChallengeId AcceptedWorkEventId ShareFingerprint) :=
  db.events.entries.map fun entry => journalEntry entry.1 entry.2

/-- A challenge is an account whose goal is its Work Requirement. -/
def goal (db : AuthorityDatabase) (challengeId : ChallengeId) : Option ℕ :=
  (db.challenges.lookup challengeId).map fun row => row.workRequirement.value.toNat

theorem mem_journal {db : AuthorityDatabase}
    {entry : JournalEntry ChallengeId AcceptedWorkEventId ShareFingerprint} :
    entry ∈ db.journal ↔ ∃ eventId row,
      db.events.lookup eventId = some row ∧ journalEntry eventId row = entry := by
  simp only [journal, List.mem_map, Sigma.exists, Rows.mem_entries_iff]

/-- The columns of a challenge the accounting is about. -/
structure Account where
  workRequirement : CreditedWork
  verifiedProgress : VerifiedProgress
  satisfied : Bool

def ChallengeRow.account (row : ChallengeRow) : Account :=
  ⟨row.workRequirement, row.verifiedProgress, row.satisfied⟩

/-- Neither progress, nor events, nor the presence of intents changed. -/
structure KeepsAccounting (db after : AuthorityDatabase) : Prop where
  account : ∀ challengeId, (after.challenges.lookup challengeId).map ChallengeRow.account =
    (db.challenges.lookup challengeId).map ChallengeRow.account
  fingerprints : after.shareFingerprints = db.shareFingerprints
  events : after.events = db.events
  intents : ∀ challengeId, challengeId ∈ after.intents ↔ challengeId ∈ db.intents

namespace KeepsAccounting

variable {db after : AuthorityDatabase}

theorem refl (db : AuthorityDatabase) : KeepsAccounting db db :=
  ⟨fun _ => rfl, rfl, rfl, fun _ => Iff.rfl⟩

theorem trans {later : AuthorityDatabase} (hfirst : KeepsAccounting db after)
    (hsecond : KeepsAccounting after later) : KeepsAccounting db later where
  account := fun challengeId => (hsecond.account challengeId).trans (hfirst.account challengeId)
  fingerprints := hsecond.fingerprints.trans hfirst.fingerprints
  events := hsecond.events.trans hfirst.events
  intents := fun challengeId => (hsecond.intents challengeId).trans (hfirst.intents challengeId)

theorem of_setLifecycle (challengeId : ChallengeId) (state : ChallengeLifecycleState)
    (changedAt : ℕ) (terminalAt : Option ℕ → Option ℕ) :
    KeepsAccounting db (db.setLifecycle challengeId state changedAt terminalAt) where
  account := by
    intro account
    rw [setLifecycle, Rows.lookup_updateRow_eq]
    split
    · rw [Option.map_map]
      rfl
    · rfl
  fingerprints := rfl
  events := rfl
  intents := fun _ => Iff.rfl

theorem of_statement {now : ℕ} (h : LifecycleStatement now db after) :
    KeepsAccounting db after := by
  cases h with
  | elsewhere hchallenges hfingerprints hevents hintents =>
      exact ⟨fun _ => by rw [hchallenges], hfingerprints, hevents, fun _ => by rw [hintents]⟩
  | expire hrow hopen hdue changedAt terminalAt => exact of_setLifecycle _ _ _ _
  | cancel hrow hopen changedAt terminalAt => exact of_setLifecycle _ _ _ _
  | activate hrow hissued changedAt terminalAt => exact of_setLifecycle _ _ _ _

theorem of_moves {now : ℕ} (h : LifecycleMoves now db after) : KeepsAccounting db after := by
  induction h with
  | refl => exact refl db
  | tail _ hstatement ih => exact ih.trans (of_statement hstatement)

theorem of_failExpiredIssuance (now : ℕ) :
    KeepsAccounting db ((db.failExpiredIssuance now).deleteExpiredProofs now) where
  account := by
    intro challengeId
    simp only [deleteExpiredProofs, failExpiredIssuance, Rows.lookup_mapRows, Option.map_map]
    congr 1
    funext row
    simp only [Function.comp_apply]
    split
    · rfl
    · rfl
  fingerprints := rfl
  events := rfl
  intents := fun _ => by
    simp only [deleteExpiredProofs, failExpiredIssuance, Rows.mem_mapRows]

theorem of_markIssuanceSigning (challengeId : ChallengeId) (workerId : String)
    (leaseExpiresAt : ℕ) :
    KeepsAccounting db (db.markIssuanceSigning challengeId workerId leaseExpiresAt) where
  account := fun _ => rfl
  fingerprints := rfl
  events := rfl
  intents := fun _ => by simp only [markIssuanceSigning, Rows.mem_updateRow]

theorem of_issuePass (completed : CompletedIssuance) :
    KeepsAccounting db (db.issuePass completed) := by
  have hlifecycle : KeepsAccounting db (db.setLifecycle completed.challengeId .passIssued
    completed.issuedAt fun _ => some completed.issuedAt) := of_setLifecycle _ _ _ _
  exact ⟨hlifecycle.account, rfl, rfl, fun _ => by
    simp only [issuePass, setLifecycle, Rows.mem_updateRow]⟩

end KeepsAccounting

/-- The columns of the store agree with its journal. -/
structure AccountingInvariant (db : AuthorityDatabase) : Prop where
  valid : Journal.Valid db.goal db.journal
  fingerprints : ∀ fingerprint, fingerprint ∈ db.shareFingerprints ↔
    ∃ entry ∈ db.journal, entry.mark = fingerprint
  progress_eq : ∀ challengeId row, db.challenges.lookup challengeId = some row →
    row.verifiedProgress.value.toNat = Journal.balance db.journal challengeId
  flag : ∀ challengeId row, db.challenges.lookup challengeId = some row →
    row.satisfied = row.verifiedProgress.meets row.workRequirement
  intents : ∀ challengeId, challengeId ∈ db.intents ↔
    ∃ row, db.challenges.lookup challengeId = some row ∧ row.satisfied = true
  credit_eq : ∀ eventId row, db.events.lookup eventId = some row →
    row.creditedWork.map (fun work => work.value.toNat) =
      if row.disposition = .credited then some row.assignedTarget.creditedWork.value.toNat
      else none

namespace AccountingInvariant

variable {db after : AuthorityDatabase}

theorem empty : AccountingInvariant AuthorityDatabase.empty where
  valid := Journal.Valid.nil
  fingerprints := by simp [AuthorityDatabase.empty, journal]
  progress_eq := by simp [AuthorityDatabase.empty]
  flag := by simp [AuthorityDatabase.empty]
  intents := by simp [AuthorityDatabase.empty]
  credit_eq := by simp [AuthorityDatabase.empty]

/-- Transactions that do not touch the accounting keep it. -/
theorem keeps (hinv : AccountingInvariant db) (hkeeps : KeepsAccounting db after) :
    AccountingInvariant after := by
  have hjournal : after.journal = db.journal := by rw [journal, journal, hkeeps.events]
  have hrow : ∀ challengeId row, after.challenges.lookup challengeId = some row →
      ∃ old, db.challenges.lookup challengeId = some old ∧
        old.workRequirement = row.workRequirement ∧
        old.verifiedProgress = row.verifiedProgress ∧ old.satisfied = row.satisfied := by
    intro challengeId row hlookup
    have haccount := hkeeps.account challengeId
    rw [hlookup, Option.map_some, eq_comm, Option.map_eq_some_iff] at haccount
    obtain ⟨old, hold, hsame⟩ := haccount
    exact ⟨old, hold, congrArg Account.workRequirement hsame,
      congrArg Account.verifiedProgress hsame, congrArg Account.satisfied hsame⟩
  have hgoal : after.goal = db.goal := by
    funext challengeId
    have haccount := congrArg (Option.map fun account => account.workRequirement.value.toNat)
      (hkeeps.account challengeId)
    simpa only [Option.map_map, goal, Function.comp_def, ChallengeRow.account] using haccount
  refine ⟨?_, ?_, ?_, ?_, ?_, ?_⟩
  · rw [hgoal, hjournal]
    exact hinv.valid
  · rw [hkeeps.fingerprints, hjournal]
    exact hinv.fingerprints
  · intro challengeId row hlookup
    obtain ⟨old, hold, -, hverified, -⟩ := hrow challengeId row hlookup
    rw [hjournal, ← hverified]
    exact hinv.progress_eq challengeId old hold
  · intro challengeId row hlookup
    obtain ⟨old, hold, hrequirement, hverified, hsatisfied⟩ := hrow challengeId row hlookup
    rw [← hrequirement, ← hverified, ← hsatisfied]
    exact hinv.flag challengeId old hold
  · intro challengeId
    have haccount := congrArg (Option.map Account.satisfied) (hkeeps.account challengeId)
    simp only [Option.map_map] at haccount
    have hsatisfied : ∀ rows : Option ChallengeRow,
        (∃ row, rows = some row ∧ row.satisfied = true) ↔
          rows.map (Account.satisfied ∘ ChallengeRow.account) = some true := by
      intro rows
      rw [Option.map_eq_some_iff]
      rfl
    rw [hkeeps.intents, hinv.intents, hsatisfied, hsatisfied, haccount]
  · rw [hkeeps.events]
    exact hinv.credit_eq

theorem issues (hinv : AccountingInvariant db) {new : NewChallenge}
    (hfresh : new.challengeId ∉ db.challenges) :
    AccountingInvariant { db with
      challenges := db.challenges.insert new.challengeId (issuedChallenge new) } := by
  have hnone : db.challenges.lookup new.challengeId = none := AList.lookup_eq_none.mpr hfresh
  have hlookup : ∀ challengeId row,
      (db.challenges.insert new.challengeId (issuedChallenge new)).lookup challengeId = some row →
      (challengeId = new.challengeId ∧ row = issuedChallenge new) ∨
        db.challenges.lookup challengeId = some row := by
    intro challengeId row hrow
    rw [Rows.lookup_insert_eq] at hrow
    split at hrow
    · next heq =>
        cases hrow
        exact .inl ⟨heq, rfl⟩
    · exact .inr hrow
  have hmono : ∀ account amount, db.goal account = some amount →
      ((db.challenges.insert new.challengeId (issuedChallenge new)).lookup account).map
        (fun row => row.workRequirement.value.toNat) = some amount := by
    intro account amount hamount
    have hne : account ≠ new.challengeId := by
      rintro rfl
      rw [goal, hnone] at hamount
      cases hamount
    rw [AList.lookup_insert_ne hne]
    exact hamount
  refine ⟨hinv.valid.mono hmono, hinv.fingerprints, ?_, ?_, ?_, hinv.credit_eq⟩
  · intro challengeId row hrow
    rcases hlookup challengeId row hrow with ⟨rfl, rfl⟩ | hold
    · -- No event was recorded against a challenge that did not exist.
      refine (Journal.balance_eq_zero_of_not_mem ?_).symm
      rintro entry hentry haccount
      obtain ⟨amount, hopen⟩ := hinv.valid.account_open hentry
      rw [haccount, goal, hnone] at hopen
      cases hopen
    · exact hinv.progress_eq challengeId row hold
  · intro challengeId row hrow
    rcases hlookup challengeId row hrow with ⟨rfl, rfl⟩ | hold
    · have hzero : ¬ VerifiedProgress.zero.meets new.requiredWork = true := by
        rw [VerifiedProgress.meets_iff, not_le]
        exact new.requiredWork.positive
      exact (Bool.not_eq_true _ ▸ hzero).symm
    · exact hinv.flag challengeId row hold
  · intro challengeId
    rw [hinv.intents]
    by_cases heq : challengeId = new.challengeId
    · subst heq
      simp [hnone, issuedChallenge]
    · simp [AList.lookup_insert_ne heq]

section Accepts

variable {event : AcceptedWorkEvent} {now : ℕ} {challengeId : ChallengeId}
  {challenge : ChallengeRow} {transition : AcceptedWorkTransition}

theorem journal_accepts
    (h : AcceptsWork db event now after challengeId challenge transition) :
    after.journal = journalEntry event.eventId
      (eventRow event challengeId challenge.workRequirement transition) :: db.journal := by
  rw [journal, h.events_eq, AList.entries_insert_of_notMem h.fresh, List.map_cons]
  rfl

/-- The challenge rows after an accepted event. -/
theorem lookup_accepts (h : AcceptsWork db event now after challengeId challenge transition)
    {other : ChallengeId} {row : ChallengeRow} (hrow : after.challenges.lookup other = some row) :
    (other = challengeId ∧ row.workRequirement = challenge.workRequirement ∧
      row.verifiedProgress = transition.verifiedProgress ∧
      row.satisfied = transition.satisfied) ∨
    (other ≠ challengeId ∧ db.challenges.lookup other = some row) := by
  rw [h.challenges_eq, updateProgress, Rows.lookup_updateRow_eq] at hrow
  split at hrow
  · next heq =>
      subst heq
      rw [h.challenge_eq] at hrow
      cases hrow
      exact .inl ⟨rfl, rfl, rfl, rfl⟩
  · next hne => exact .inr ⟨hne, hrow⟩

theorem goal_accepts (h : AcceptsWork db event now after challengeId challenge transition) :
    after.goal = db.goal := by
  funext other
  rw [goal, goal, h.challenges_eq, updateProgress, Rows.lookup_updateRow_eq]
  split
  · rw [Option.map_map]
    rfl
  · rfl

theorem fresh_iff (hinv : AccountingInvariant db) (event : AcceptedWorkEvent) :
    decide (event.shareFingerprint ∉ db.shareFingerprints) = true ↔
      ∀ entry ∈ db.journal, entry.mark ≠ event.shareFingerprint := by
  rw [decide_eq_true_eq, hinv.fingerprints, not_exists]
  exact forall_congr' fun entry => not_and

theorem valid_accepts (hinv : AccountingInvariant db)
    (h : AcceptsWork db event now after challengeId challenge transition) :
    Journal.Valid after.goal after.journal ∧
      transition.verifiedProgress.value.toNat = Journal.balance after.journal challengeId := by
  have hopen : db.goal challengeId = some challenge.workRequirement.value.toNat := by
    rw [goal, h.challenge_eq]
    rfl
  rw [goal_accepts h, journal_accepts h]
  refine h.spec.valid_record hinv.valid hopen
    (hinv.progress_eq challengeId challenge h.challenge_eq) ?_ (hinv.fresh_iff event) rfl rfl rfl
  intro entry hentry heq
  obtain ⟨eventId, row, hlookup, rfl⟩ := mem_journal.mp hentry
  have hsame : eventId = event.eventId := heq
  exact h.fresh (hsame ▸ Rows.mem_of_lookup hlookup)

/-- The flag written beside the new total says whether it meets the requirement. -/
theorem satisfied_accepts (h : AcceptsWork db event now after challengeId challenge transition) :
    transition.satisfied = transition.verifiedProgress.meets challenge.workRequirement := by
  rw [Bool.eq_iff_iff, h.spec.satisfied_iff, VerifiedProgress.meets_iff]

/-- An intent is created exactly when the flag turns. -/
theorem intent_accepts (h : AcceptsWork db event now after challengeId challenge transition) :
    transition.satisfied = true ↔
      challenge.satisfied = true ∨ transition.issuanceIntentCreated = true := by
  have hgrows := h.spec.progress_eq
  rw [h.flag, VerifiedProgress.meets_iff, h.spec.satisfied_iff, h.spec.intent_iff]
  omega

theorem accepts (hinv : AccountingInvariant db)
    (h : AcceptsWork db event now after challengeId challenge transition) :
    AccountingInvariant after := by
  obtain ⟨hvalid, hbalance⟩ := hinv.valid_accepts h
  have hevents : ∀ eventId, after.events.lookup eventId = if eventId = event.eventId then
      some (eventRow event challengeId challenge.workRequirement transition)
      else db.events.lookup eventId := by
    intro eventId
    rw [h.events_eq, Rows.lookup_insert_eq]
  refine ⟨hvalid, ?_, ?_, ?_, ?_, ?_⟩
  · intro fingerprint
    have hold := hinv.fingerprints fingerprint
    rw [journal_accepts h, List.exists_mem_cons_iff, ← hold, h.fingerprints_eq]
    have hmark : (journalEntry event.eventId (eventRow event challengeId
        challenge.workRequirement transition)).mark = event.shareFingerprint := rfl
    rw [hmark]
    split
    · next hseen =>
        refine ⟨.inr, ?_⟩
        rintro (rfl | hmem)
        · exact hseen
        · exact hmem
    · rw [AList.mem_insert, eq_comm]
  · intro other row hrow
    rcases lookup_accepts h hrow with ⟨rfl, -, hverified, -⟩ | ⟨hne, hold⟩
    · rw [hverified, hbalance]
    · rw [hinv.progress_eq other row hold, journal_accepts h, Journal.balance_cons,
        Journal.contribution, if_neg fun hboth => hne hboth.1.symm, Nat.zero_add]
  · intro other row hrow
    rcases lookup_accepts h hrow with ⟨rfl, hrequirement, hverified, hsatisfied⟩ | ⟨hne, hold⟩
    · rw [hrequirement, hverified, hsatisfied, satisfied_accepts h]
    · exact hinv.flag other row hold
  · intro other
    have hintents := hinv.intents other
    have hturn := intent_accepts h
    by_cases heq : other = challengeId
    · subst heq
      have hrow : ∃ row, after.challenges.lookup other = some row ∧
          row.satisfied = transition.satisfied := by
        rw [h.challenges_eq, updateProgress, Rows.lookup_updateRow, h.challenge_eq]
        exact ⟨_, rfl, rfl⟩
      obtain ⟨row, hlookup, hsatisfied⟩ := hrow
      rw [h.challenge_eq] at hintents
      simp only [Option.some.injEq, exists_eq_left'] at hintents
      rw [hlookup]
      simp only [Option.some.injEq, exists_eq_left', hsatisfied, hturn]
      rcases h.intents_eq with ⟨hcreated, -, passUuid, hinserted⟩ | ⟨hquiet, hsame⟩
      · simp [hinserted, hcreated]
      · simp [hsame, hquiet, hintents]
    · have hrows : after.challenges.lookup other = db.challenges.lookup other := by
        rw [h.challenges_eq, updateProgress, Rows.lookup_updateRow_ne heq]
      rw [hrows, ← hintents]
      rcases h.intents_eq with ⟨-, -, passUuid, hinserted⟩ | ⟨-, hsame⟩
      · simp [hinserted, heq]
      · rw [hsame]
  · intro eventId row hrow
    rw [hevents] at hrow
    split at hrow
    · cases hrow
      exact h.spec.maybeCreditedWork_eq
    · exact hinv.credit_eq eventId row hrow

end Accepts

/-- Every transaction keeps the accounting. -/
theorem step (hinv : AccountingInvariant db) (request : AuthorityRequest) :
    AccountingInvariant (authorityStep db request).1 := by
  have heffect := authorityEffect_of_step db request
  generalize (authorityStep db request).1 = after at heffect ⊢
  cases heffect with
  | moves hmoves => exact hinv.keeps (.of_moves hmoves)
  | issues hfresh => exact hinv.issues hfresh
  | accepts haccepts => exact hinv.accepts haccepts
  | fails => exact hinv.keeps (.of_failExpiredIssuance _)
  | claims hintent hclaimable =>
      exact hinv.keeps ((KeepsAccounting.of_failExpiredIssuance _).trans
        (.of_markIssuanceSigning _ _ _))
  | completes hholds => exact hinv.keeps (.of_issuePass _)

end AccountingInvariant

theorem accountingInvariant_of_run {history : List (AuthorityRequest × AuthorityReply)}
    {db : AuthorityDatabase} (hrun : authorityStore.Run history db) : AccountingInvariant db :=
  Machine.Run.invariant (P := fun _ reached => AccountingInvariant reached)
    AccountingInvariant.empty (fun _ _ request _ hinv => hinv.step request) hrun

/-! ## What the tables say -/

/-- The sum of the `credited_work` column over the challenge's events recorded as
credited. -/
def creditedWorkSum (db : AuthorityDatabase) (challengeId : ChallengeId) : ℕ :=
  (((db.events.entries.map fun entry => entry.2).filter fun row =>
    row.challengeId = challengeId ∧ row.disposition = .credited).map fun row =>
      (row.creditedWork.map fun work => work.value.toNat).getD 0).sum

/-- The accounting of a database state. -/
structure Accounting (db : AuthorityDatabase) : Prop where
  progress_eq_sum : ∀ challengeId row, db.challenges.lookup challengeId = some row →
    row.verifiedProgress.value.toNat = db.creditedWorkSum challengeId
  credited_iff : ∀ eventId row, db.events.lookup eventId = some row →
    (row.disposition = .credited ↔ row.creditedWork.isSome = true)
  satisfied_iff : ∀ challengeId row, db.challenges.lookup challengeId = some row →
    (row.satisfied = true ↔ row.workRequirement.value.toNat ≤ row.verifiedProgress.value.toNat)
  intent_count : ∀ challengeId row, db.challenges.lookup challengeId = some row →
    db.intents.keys.count challengeId = if row.satisfied then 1 else 0
  /-- A fingerprint is credited at most once, whichever challenges the events name. -/
  fingerprint_once : ∀ firstId first secondId second,
    db.events.lookup firstId = some first → db.events.lookup secondId = some second →
      first.disposition = .credited → second.disposition = .credited →
      first.shareFingerprint = second.shareFingerprint → firstId = secondId

/-- A transaction credits an event only for a challenge that is active and not yet
expired, by the event's receipt and by the Authority's clock, and rewrites no event. -/
structure CreditsOnlyOpen (db : AuthorityDatabase) (request : AuthorityRequest)
    (after : AuthorityDatabase) : Prop where
  kept : ∀ eventId row, db.events.lookup eventId = some row →
    after.events.lookup eventId = some row
  credited : ∀ eventId row, db.events.lookup eventId = none →
    after.events.lookup eventId = some row → row.disposition = .credited →
      ∃ event leaseId clock now passUuid challenge,
        request = .acceptWork event leaseId clock now passUuid ∧ event.eventId = eventId ∧
        db.challenges.lookup row.challengeId = some challenge ∧
        challenge.lifecycleState = .active ∧ row.receivedAt = event.receivedAt ∧
        max row.receivedAt.unixSeconds now < challenge.expiresAtUnixSeconds

/-- A transaction that leaves the events alone credits nothing. -/
theorem CreditsOnlyOpen.of_events_eq {db after : AuthorityDatabase} {request : AuthorityRequest}
    (hevents : after.events = db.events) : CreditsOnlyOpen db request after where
  kept := fun _ _ hrow => by rw [hevents, hrow]
  credited := fun _ _ hnone hrow _ => by
    rw [hevents, hnone] at hrow
    cases hrow

theorem creditsOnlyOpen_step (db : AuthorityDatabase) (request : AuthorityRequest) :
    CreditsOnlyOpen db request (authorityStep db request).1 := by
  have heffect := authorityEffect_of_step db request
  generalize (authorityStep db request).1 = after at heffect ⊢
  cases heffect with
  | moves hmoves => exact .of_events_eq (KeepsAccounting.of_moves hmoves).events
  | issues hfresh => exact .of_events_eq rfl
  | fails => exact .of_events_eq rfl
  | claims hintent hclaimable => exact .of_events_eq rfl
  | completes hholds => exact .of_events_eq rfl
  | @accepts event leaseId clock now passUuid after challengeId challenge transition haccepts =>
      refine ⟨?_, ?_⟩
      · intro eventId row hrow
        have hne : eventId ≠ event.eventId := by
          rintro rfl
          exact haccepts.fresh (Rows.mem_of_lookup hrow)
        rw [haccepts.events_eq, AList.lookup_insert_ne hne, hrow]
      · intro eventId row hnone hrow _
        rw [haccepts.events_eq, Rows.lookup_insert_eq] at hrow
        split at hrow
        · next heq =>
            cases hrow
            exact ⟨event, leaseId, clock, now, passUuid, challenge, rfl, heq.symm,
              haccepts.challenge_eq, haccepts.active, rfl, haccepts.timely⟩
        · rw [hnone] at hrow
          cases hrow

/-- The sum of the column is the balance of the journal. -/
theorem creditedWorkSum_eq_balance {db : AuthorityDatabase} (hinv : AccountingInvariant db)
    (challengeId : ChallengeId) :
    db.creditedWorkSum challengeId = Journal.balance db.journal challengeId := by
  have hcredit : ∀ entry ∈ db.events.entries, entry.2.disposition = .credited →
      (entry.2.creditedWork.map fun work => work.value.toNat).getD 0 =
        entry.2.assignedTarget.creditedWork.value.toNat := by
    intro entry hentry hcredited
    rw [hinv.credit_eq entry.1 entry.2 (Rows.mem_entries_iff.mp hentry), if_pos hcredited]
    rfl
  simp only [creditedWorkSum, journal]
  generalize db.events.entries = entries at hcredit ⊢
  induction entries with
  | nil => rfl
  | cons entry rest ih =>
      have hrest := ih fun e he => hcredit e (List.mem_cons_of_mem _ he)
      have hentry := hcredit entry List.mem_cons_self
      rw [List.map_cons, List.map_cons, Journal.balance_cons, ← hrest]
      by_cases hcounts : entry.2.challengeId = challengeId ∧ entry.2.disposition = .credited
      · simp [Journal.contribution, journalEntry, hcounts, hentry hcounts.2]
      · simp [Journal.contribution, journalEntry, hcounts]

theorem accounting_of_invariant {db : AuthorityDatabase} (hinv : AccountingInvariant db) :
    Accounting db := by
  have hentry : ∀ {eventId : AcceptedWorkEventId} {row : EventRow},
      db.events.lookup eventId = some row → journalEntry eventId row ∈ db.journal :=
    fun hlookup => mem_journal.mpr ⟨_, _, hlookup, rfl⟩
  refine ⟨?_, ?_, ?_, ?_, ?_⟩
  · intro challengeId row hrow
    rw [creditedWorkSum_eq_balance hinv]
    exact hinv.progress_eq challengeId row hrow
  · intro eventId row hrow
    have hcredit := hinv.credit_eq eventId row hrow
    split at hcredit
    · next hcredited =>
        obtain ⟨work, hwork, -⟩ := Option.map_eq_some_iff.mp hcredit
        simp [hcredited, hwork]
    · next hcredited => simp [hcredited, Option.map_eq_none_iff.mp hcredit]
  · intro challengeId row hrow
    rw [hinv.flag challengeId row hrow, VerifiedProgress.meets_iff]
  · intro challengeId row hrow
    have hintents := hinv.intents challengeId
    rw [hrow] at hintents
    simp only [Option.some.injEq, exists_eq_left', AList.mem_keys] at hintents
    split
    · next hsatisfied =>
        exact List.count_eq_one_of_mem db.intents.nodupKeys (hintents.mpr hsatisfied)
    · next hopen => exact List.count_eq_zero.mpr fun hmem => hopen (hintents.mp hmem)
  · intro firstId first secondId second hfirst hsecond hcfirst hcsecond hfingerprint
    have heq := hinv.valid.eq_of_credited_of_mark_eq (hentry hfirst) (hentry hsecond)
      (by simpa [journalEntry] using hcfirst) (by simpa [journalEntry] using hcsecond) hfingerprint
    exact congrArg JournalEntry.event heq

end AuthorityDatabase

/-- In every state the Authority's store reaches, progress, flags, intents and
fingerprints are in step, and the next transaction credits only work that an active
challenge may still take. -/
theorem authorityStore_accounting {history : List (AuthorityRequest × AuthorityReply)}
    {db : AuthorityDatabase} (hrun : authorityStore.Run history db) :
    db.Accounting ∧ ∀ request, db.CreditsOnlyOpen request (authorityStep db request).1 :=
  ⟨AuthorityDatabase.accounting_of_invariant (AuthorityDatabase.accountingInvariant_of_run hrun),
    AuthorityDatabase.creditsOnlyOpen_step db⟩

/-- A challenge that asks for a single expected hash, from its creation to the share
that satisfies it. -/
def singleShareRequests : List AuthorityRequest :=
  let challengeId : ChallengeId := ⟨"challenge_a", isChallengeId_a⟩
  let sessionId : WorkSessionId := ⟨"session_a", validSession_a⟩
  let commitment := "0000000000000000000000000000000000000000000000000000000000000000"
  let leaseId := "00000000-0000-4000-8000-000000000000"
  let clock : ℕ → WorkerClock := fun reading => ⟨"boot", reading, isContinuityId_boot⟩
  let event : AcceptedWorkEvent := {
    eventId := ⟨"event_a", validEvent_a⟩
    workSessionId := sessionId
    assignedTarget := ⟨List.replicate 32 255, length_easiest, easiest_ne_zero⟩
    receivedAt := ⟨5, receivedAt_five⟩
    shareFingerprint := ⟨"share_a", validShare_a⟩
    networkTargetOutcome := .belowNetworkTarget
    maybeWorkerReport := none }
  [.insertChallenge ⟨challengeId, ⟨Uint256.one, toNat_one_pos⟩, 900, "seed", false⟩,
    .proposePoolSelection challengeId "offer" commitment 1,
    .confirmPoolSelection challengeId commitment 2,
    .insertWorkSession challengeId sessionId 3,
    .startWorkLease ⟨sessionId, none, clock 10, leaseId, 20, 60, 4⟩,
    .acceptWork event leaseId (clock 15) 6 "1"]

theorem singleShareRequests_accounting :
    (authorityStore.replay singleShareRequests).2.Accounting ∧
      (authorityStore.replay singleShareRequests).2.challenges.entries.map
        (fun entry => (entry.2.satisfied, entry.2.verifiedProgress.value.toNat)) = [(true, 1)] :=
  ⟨(authorityStore_accounting (Machine.run_replay singleShareRequests
    ⟨trivial, trivial, trivial, trivial, trivial, trivial, trivial⟩)).1, by decide +kernel⟩

end WorkGate
