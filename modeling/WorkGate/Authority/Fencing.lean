/-
# What the store's transactions do to issuance

Signing happens outside the database, so a worker may come back long after its claim
has run out, the challenge has expired or another worker has signed.  A transaction of
the store, taken by itself and no earlier than those before it, reopens nothing that is
settled.  Completing an issuance is the exception, and `Completions.lean` is about it.
-/

import WorkGate.Authority.Accounting

namespace WorkGate

open WorkGate.Library

/-- Whether a transaction completes an issuance. -/
def AuthorityRequest.completes : AuthorityRequest → Bool
  | .completeIssuance _ _ _ => true
  | _ => false

namespace AuthorityDatabase

/-- How the intent of a challenge and the state of the challenge go together at `clock`. -/
def StatusAgrees (clock : ℕ) (intent : IntentRow) (state : ChallengeLifecycleState) : Prop :=
  match intent.status with
  | .pending | .signing => state = .satisfied ∨
      (state = .expired ∧ intent.signingDeadlineUnixSeconds ≤ clock)
  | .issued => state = .passIssued ∨ state = .expired
  | .failed => state = .expired

/-- Every intent belongs to a challenge that was satisfied, and has its deadline. -/
def FenceInvariant (clock : ℕ) (db : AuthorityDatabase) : Prop :=
  ∀ challengeId intent, db.intents.lookup challengeId = some intent →
    ∃ row, db.challenges.lookup challengeId = some row ∧
      intent.signingDeadlineUnixSeconds = row.expiresAtUnixSeconds ∧
      StatusAgrees clock intent row.lifecycleState

/-- Issued and failed intents stay as they are. -/
def KeepsIntents (db after : AuthorityDatabase) : Prop :=
  ∀ challengeId intent, db.intents.lookup challengeId = some intent →
    intent.status = .issued ∨ intent.status = .failed →
      after.intents.lookup challengeId = some intent

theorem KeepsIntents.trans {db after later : AuthorityDatabase} (hfirst : KeepsIntents db after)
    (hsecond : KeepsIntents after later) : KeepsIntents db later :=
  fun challengeId intent hintent hsettled =>
    hsecond challengeId intent (hfirst challengeId intent hintent hsettled) hsettled

/-- What is settled stays settled. -/
structure KeepsSettled (db after : AuthorityDatabase) : Prop where
  intents : KeepsIntents db after
  terminal : ∀ challengeId row, db.challenges.lookup challengeId = some row →
    row.lifecycleState = .cancelled ∨ row.lifecycleState = .expired →
      ∃ later, after.challenges.lookup challengeId = some later ∧
        later.lifecycleState = row.lifecycleState
  noPass : ∀ challengeId row, db.challenges.lookup challengeId = some row →
    row.lifecycleState = .cancelled ∨ row.lifecycleState = .expired →
    (∀ intent, db.intents.lookup challengeId = some intent → intent.status ≠ .issued) →
      ∀ intent, after.intents.lookup challengeId = some intent → intent.status ≠ .issued

namespace KeepsSettled

variable {db after : AuthorityDatabase}

theorem refl (db : AuthorityDatabase) : KeepsSettled db db :=
  ⟨fun _ _ hintent _ => hintent, fun _ row hrow _ => ⟨row, hrow, rfl⟩,
    fun _ _ _ _ hnone => hnone⟩

theorem trans {later : AuthorityDatabase} (hfirst : KeepsSettled db after)
    (hsecond : KeepsSettled after later) : KeepsSettled db later where
  intents := hfirst.intents.trans hsecond.intents
  terminal := by
    intro challengeId row hrow hterminal
    obtain ⟨kept, hkept, hstate⟩ := hfirst.terminal challengeId row hrow hterminal
    obtain ⟨last, hlast, hsame⟩ := hsecond.terminal challengeId kept hkept (hstate ▸ hterminal)
    exact ⟨last, hlast, hsame.trans hstate⟩
  noPass := by
    intro challengeId row hrow hterminal hnone
    obtain ⟨kept, hkept, hstate⟩ := hfirst.terminal challengeId row hrow hterminal
    exact hsecond.noPass challengeId kept hkept (hstate ▸ hterminal)
      (hfirst.noPass challengeId row hrow hterminal hnone)

/-- A transaction that writes no intent and keeps terminal challenges. -/
theorem of_intents_eq (hintents : after.intents = db.intents)
    (hterminal : ∀ challengeId row, db.challenges.lookup challengeId = some row →
      row.lifecycleState = .cancelled ∨ row.lifecycleState = .expired →
        ∃ later, after.challenges.lookup challengeId = some later ∧
          later.lifecycleState = row.lifecycleState) : KeepsSettled db after where
  intents := fun _ _ hintent _ => by rw [hintents, hintent]
  terminal := hterminal
  noPass := fun _ _ _ _ hnone => by rwa [hintents]

end KeepsSettled

section Statements

variable {clock : ℕ} {db after : AuthorityDatabase}

theorem StatusAgrees.mono {intent : IntentRow} {state : ChallengeLifecycleState} {later : ℕ}
    (h : StatusAgrees clock intent state) (hle : clock ≤ later) :
    StatusAgrees later intent state := by
  revert h
  simp only [StatusAgrees]
  cases intent.status with
  | pending => exact Or.imp_right (And.imp_right fun hdue => hdue.trans hle)
  | signing => exact Or.imp_right (And.imp_right fun hdue => hdue.trans hle)
  | issued => exact id
  | failed => exact id

/-- A challenge with an intent is past being worked on. -/
theorem StatusAgrees.past {intent : IntentRow} {state : ChallengeLifecycleState}
    (h : StatusAgrees clock intent state) :
    state = .satisfied ∨ state = .passIssued ∨ state = .expired := by
  revert h
  simp only [StatusAgrees]
  cases intent.status with
  | pending => exact fun h => h.imp_right fun hexpired => .inr hexpired.1
  | signing => exact fun h => h.imp_right fun hexpired => .inr hexpired.1
  | issued => exact .inr
  | failed => exact fun h => .inr (.inr h)

theorem FenceInvariant.mono {later : ℕ} (h : FenceInvariant clock db) (hle : clock ≤ later) :
    FenceInvariant later db := by
  intro challengeId intent hintent
  obtain ⟨row, hrow, hdeadline, hagrees⟩ := h challengeId intent hintent
  exact ⟨row, hrow, hdeadline, hagrees.mono hle⟩

/-- Moving one challenge keeps the fence when the new state suits its intent. -/
theorem FenceInvariant.setLifecycle (hinv : FenceInvariant clock db) {challengeId : ChallengeId}
    {row : ChallengeRow} (hrow : db.challenges.lookup challengeId = some row)
    (state : ChallengeLifecycleState) (changedAt : ℕ) (terminalAt : Option ℕ → Option ℕ)
    (hagrees : ∀ intent, db.intents.lookup challengeId = some intent →
      intent.signingDeadlineUnixSeconds = row.expiresAtUnixSeconds →
      StatusAgrees clock intent row.lifecycleState → StatusAgrees clock intent state) :
    FenceInvariant clock (db.setLifecycle challengeId state changedAt terminalAt) := by
  intro other intent hintent
  obtain ⟨found, hfound, hdeadline, hold⟩ := hinv other intent hintent
  rw [AuthorityDatabase.setLifecycle, Rows.lookup_updateRow_eq]
  split
  · next heq =>
      subst heq
      rw [hrow] at hfound
      cases hfound
      rw [hrow, Option.map_some]
      exact ⟨_, rfl, hdeadline, hagrees intent hintent hdeadline hold⟩
  · exact ⟨found, hfound, hdeadline, hold⟩

/-- Moving a challenge that is not terminal keeps the terminal ones. -/
theorem KeepsSettled.setLifecycle {challengeId : ChallengeId} {row : ChallengeRow}
    (hrow : db.challenges.lookup challengeId = some row) (state : ChallengeLifecycleState)
    (changedAt : ℕ) (terminalAt : Option ℕ → Option ℕ)
    (hopen : row.lifecycleState = .cancelled ∨ row.lifecycleState = .expired →
      state = row.lifecycleState) :
    KeepsSettled db (db.setLifecycle challengeId state changedAt terminalAt) := by
  refine .of_intents_eq rfl ?_
  intro other found hfound hterminal
  rw [AuthorityDatabase.setLifecycle, Rows.lookup_updateRow_eq]
  split
  · next heq =>
      subst heq
      rw [hrow] at hfound
      cases hfound
      rw [hrow, Option.map_some]
      exact ⟨_, rfl, hopen hterminal⟩
  · exact ⟨found, hfound, rfl⟩

theorem fence_statement (hinv : FenceInvariant clock db)
    (h : LifecycleStatement clock db after) :
    FenceInvariant clock after ∧ KeepsSettled db after := by
  cases h with
  | elsewhere hchallenges hfingerprints hevents hintents =>
      refine ⟨?_, .of_intents_eq hintents fun _ row hrow _ => ⟨row, by rw [hchallenges, hrow], rfl⟩⟩
      intro challengeId intent hintent
      rw [hintents] at hintent
      rw [hchallenges]
      exact hinv challengeId intent hintent
  | @expire challengeId row hrow hopen hdue changedAt terminalAt =>
      refine ⟨hinv.setLifecycle hrow _ _ _ ?_, .setLifecycle hrow _ _ _ ?_⟩
      · intro intent hintent hdeadline hagrees
        -- An open intent expires with its challenge only once its deadline has passed.
        have hpassed : intent.status ≠ .issued → intent.status ≠ .failed →
            intent.signingDeadlineUnixSeconds ≤ clock := by
          intro hnotIssued hnotFailed
          rcases hdue with hactive | ⟨deadline, hread, hle⟩
          · have hpast := hagrees.past
            simp [hactive] at hpast
          · have hstate : row.lifecycleState ≠ .passIssued := by
              intro hpass
              revert hagrees
              cases hstatus : intent.status <;> simp_all [StatusAgrees]
            rw [lifecycleDeadline, if_neg hstate] at hread
            cases hread
            omega
        cases hstatus : intent.status <;> simp_all [StatusAgrees]
      · rintro (hcancelled | hexpired)
        · exact absurd hcancelled hopen
        · exact hexpired.symm
  | @cancel challengeId row hrow hopen changedAt terminalAt =>
      refine ⟨hinv.setLifecycle hrow _ _ _ ?_, .setLifecycle hrow _ _ _ ?_⟩
      · intro intent hintent hdeadline hagrees
        have hpast := hagrees.past
        rcases hopen with hissued | hactive
        · simp [hissued] at hpast
        · simp [hactive] at hpast
      · rcases hopen with hissued | hactive
        · simp [hissued]
        · simp [hactive]
  | @activate challengeId row hrow hissued changedAt terminalAt =>
      refine ⟨hinv.setLifecycle hrow _ _ _ ?_, .setLifecycle hrow _ _ _ ?_⟩
      · intro intent hintent hdeadline hagrees
        have hpast := hagrees.past
        simp [hissued] at hpast
      · simp [hissued]

theorem fence_moves (hinv : FenceInvariant clock db) (h : LifecycleMoves clock db after) :
    FenceInvariant clock after ∧ KeepsSettled db after := by
  induction h with
  | refl => exact ⟨hinv, KeepsSettled.refl db⟩
  | tail _ hstatement ih =>
      obtain ⟨hmiddle, hkept⟩ := ih
      obtain ⟨hlast, hkept'⟩ := fence_statement hmiddle hstatement
      exact ⟨hlast, hkept.trans hkept'⟩

end Statements

section Issuance

variable {clock now : ℕ} {db after : AuthorityDatabase}

theorem fence_issues (hinv : FenceInvariant clock db) {new : NewChallenge}
    (hfresh : new.challengeId ∉ db.challenges) :
    FenceInvariant clock { db with
        challenges := db.challenges.insert new.challengeId (issuedChallenge new) } ∧
      KeepsSettled db { db with
        challenges := db.challenges.insert new.challengeId (issuedChallenge new) } := by
  have hkept : ∀ challengeId row, db.challenges.lookup challengeId = some row →
      (db.challenges.insert new.challengeId (issuedChallenge new)).lookup challengeId =
        some row := by
    intro challengeId row hrow
    have hne : challengeId ≠ new.challengeId := by
      rintro rfl
      exact hfresh (Rows.mem_of_lookup hrow)
    rw [AList.lookup_insert_ne hne, hrow]
  refine ⟨?_, .of_intents_eq rfl fun challengeId row hrow _ => ⟨row, hkept _ _ hrow, rfl⟩⟩
  intro challengeId intent hintent
  obtain ⟨row, hrow, hagrees⟩ := hinv challengeId intent hintent
  exact ⟨row, hkept challengeId row hrow, hagrees⟩

/-- A failed batch leaves each intent alone, or fails one that was open and due. -/
theorem lookup_failExpiredIssuance (now : ℕ) {challengeId : ChallengeId} {old : IntentRow}
    (hold : db.intents.lookup challengeId = some old) :
    (db.issuanceExpired challengeId now = true ∧ old.isOpen = true ∧
      old.signingDeadlineUnixSeconds ≤ now ∧
      ((db.failExpiredIssuance now).deleteExpiredProofs now).intents.lookup challengeId =
        some { old with
          status := .failed
          signingLeaseOwner := none
          signingLeaseExpiresAtUnixSeconds := none }) ∨
    (db.issuanceExpired challengeId now = false ∧
      ((db.failExpiredIssuance now).deleteExpiredProofs now).intents.lookup challengeId =
        some old) := by
  simp only [deleteExpiredProofs, failExpiredIssuance, Rows.lookup_mapRows, hold, Option.map_some]
  cases hexpired : db.issuanceExpired challengeId now with
  | false => exact .inr ⟨rfl, rfl⟩
  | true =>
      rw [issuanceExpired, hold] at hexpired
      simp only [Bool.and_eq_true, decide_eq_true_eq] at hexpired
      exact .inl ⟨rfl, hexpired.1, hexpired.2, rfl⟩

theorem lookup_failExpiredIssuance_none {challengeId : ChallengeId}
    (hnone : db.intents.lookup challengeId = none) :
    db.issuanceExpired challengeId now = false ∧
      ((db.failExpiredIssuance now).deleteExpiredProofs now).intents.lookup challengeId = none := by
  simp [deleteExpiredProofs, failExpiredIssuance, issuanceExpired, hnone]

/-- The challenges of a failed batch expire with their intents. -/
theorem lookup_failExpiredIssuance_challenges (now : ℕ) {challengeId : ChallengeId}
    {row : ChallengeRow} (hrow : db.challenges.lookup challengeId = some row) :
    ∃ later, ((db.failExpiredIssuance now).deleteExpiredProofs now).challenges.lookup
      challengeId = some later ∧
      later.expiresAtUnixSeconds = row.expiresAtUnixSeconds ∧
      later.lifecycleState = if db.issuanceExpired challengeId now then .expired
        else row.lifecycleState := by
  simp only [deleteExpiredProofs, failExpiredIssuance, Rows.lookup_mapRows, hrow, Option.map_some]
  cases db.issuanceExpired challengeId now with
  | false => exact ⟨row, rfl, rfl, rfl⟩
  | true => exact ⟨_, rfl, rfl, rfl⟩

theorem isOpen_not_settled {intent : IntentRow} (hopen : intent.isOpen = true) :
    intent.status = .pending ∨ intent.status = .signing := by
  simpa [IntentRow.isOpen] using hopen

theorem fence_fails (hinv : FenceInvariant clock db) (hle : clock ≤ now) :
    FenceInvariant now ((db.failExpiredIssuance now).deleteExpiredProofs now) ∧
      KeepsSettled db ((db.failExpiredIssuance now).deleteExpiredProofs now) := by
  refine ⟨?_, ⟨?_, ?_, ?_⟩⟩
  · intro challengeId intent hintent
    cases hold : db.intents.lookup challengeId with
    | none =>
        rw [(lookup_failExpiredIssuance_none hold).2] at hintent
        cases hintent
    | some old =>
        obtain ⟨row, hrow, hdeadline, hagrees⟩ := hinv challengeId old hold
        obtain ⟨later, hlater, hexpires, hstate⟩ :=
          lookup_failExpiredIssuance_challenges now hrow
        refine ⟨later, hlater, ?_, ?_⟩
        · rcases lookup_failExpiredIssuance now hold with ⟨-, -, -, hfailed⟩ | ⟨-, hsame⟩
          · rw [hfailed] at hintent
            cases hintent
            exact hdeadline.trans hexpires.symm
          · rw [hsame] at hintent
            cases hintent
            exact hdeadline.trans hexpires.symm
        · rcases lookup_failExpiredIssuance now hold with
            ⟨hexpired, -, -, hfailed⟩ | ⟨hexpired, hsame⟩
          · rw [hfailed] at hintent
            cases hintent
            rw [hstate, hexpired]
            exact rfl
          · rw [hsame] at hintent
            cases hintent
            rw [hstate, hexpired]
            exact hagrees.mono hle
  · intro challengeId intent hintent hsettled
    rcases lookup_failExpiredIssuance now hintent with ⟨-, hopen, -, -⟩ | ⟨-, hsame⟩
    · rcases isOpen_not_settled hopen with hpending | hsigning
      · simp [hpending] at hsettled
      · simp [hsigning] at hsettled
    · exact hsame
  · intro challengeId row hrow hterminal
    obtain ⟨later, hlater, -, hstate⟩ := lookup_failExpiredIssuance_challenges now hrow
    refine ⟨later, hlater, ?_⟩
    rw [hstate]
    cases hold : db.intents.lookup challengeId with
    | none => rw [(lookup_failExpiredIssuance_none hold).1]; rfl
    | some old =>
        rcases hterminal with hcancelled | hexpired
        · -- A cancelled challenge never had an intent.
          obtain ⟨found, hfound, -, hagrees⟩ := hinv challengeId old hold
          rw [hrow] at hfound
          cases hfound
          have hpast := hagrees.past
          simp [hcancelled] at hpast
        · rw [hexpired]
          split
          · rfl
          · rfl
  · intro challengeId row hrow hterminal hnone intent hintent
    cases hold : db.intents.lookup challengeId with
    | none =>
        rw [(lookup_failExpiredIssuance_none hold).2] at hintent
        cases hintent
    | some old =>
        rcases lookup_failExpiredIssuance now hold with ⟨-, -, -, hfailed⟩ | ⟨-, hsame⟩
        · rw [hfailed] at hintent
          cases hintent
          simp
        · rw [hsame] at hintent
          cases hintent
          exact hnone _ hold

theorem lookup_markIssuanceSigning {challengeId : ChallengeId} {intent : IntentRow}
    (hintent : db.intents.lookup challengeId = some intent) (workerId : String)
    (leaseExpiresAt : ℕ) (other : ChallengeId) :
    (db.markIssuanceSigning challengeId workerId leaseExpiresAt).intents.lookup other =
      if other = challengeId then some { intent with
        status := .signing
        signingLeaseOwner := some workerId
        signingLeaseExpiresAtUnixSeconds := some leaseExpiresAt }
      else db.intents.lookup other := by
  rw [markIssuanceSigning, Rows.lookup_updateRow_eq]
  split
  · next heq =>
      subst heq
      rw [hintent]
      rfl
  · rfl

/-- An intent that may be claimed is open and its deadline is ahead. -/
theorem claimable_open {intent : IntentRow} (h : intent.claimable now = true) :
    intent.isOpen = true ∧ now < intent.signingDeadlineUnixSeconds := by
  simp only [IntentRow.claimable, Bool.and_eq_true, decide_eq_true_eq, Bool.or_eq_true] at h
  refine ⟨?_, h.1⟩
  rcases h.2 with hpending | ⟨hsigning, -⟩
  · simp [IntentRow.isOpen, hpending]
  · simp [IntentRow.isOpen, hsigning]

theorem fence_marks (hinv : FenceInvariant clock db) {challengeId : ChallengeId}
    {intent : IntentRow} (hintent : db.intents.lookup challengeId = some intent)
    (hopen : intent.isOpen = true) (workerId : String) (leaseExpiresAt : ℕ) :
    FenceInvariant clock (db.markIssuanceSigning challengeId workerId leaseExpiresAt) ∧
      KeepsSettled db (db.markIssuanceSigning challengeId workerId leaseExpiresAt) := by
  have hlookup := lookup_markIssuanceSigning hintent workerId leaseExpiresAt
  refine ⟨?_, ⟨?_, fun _ row hrow _ => ⟨row, hrow, rfl⟩, ?_⟩⟩
  · intro other row hrow
    rw [hlookup] at hrow
    split at hrow
    · next heq =>
        subst heq
        cases hrow
        obtain ⟨challenge, hchallenge, hdeadline, hagrees⟩ := hinv other intent hintent
        refine ⟨challenge, hchallenge, hdeadline, ?_⟩
        rcases isOpen_not_settled hopen with hpending | hsigning
        · simpa [StatusAgrees, hpending] using hagrees
        · simpa [StatusAgrees, hsigning] using hagrees
    · exact hinv other row hrow
  · intro other row hrow hsettled
    rw [hlookup]
    split
    · next heq =>
        subst heq
        rw [hintent] at hrow
        cases hrow
        rcases isOpen_not_settled hopen with hpending | hsigning
        · simp [hpending] at hsettled
        · simp [hsigning] at hsettled
    · exact hrow
  · intro other row hrow hterminal hnone found hfound
    rw [hlookup] at hfound
    split at hfound
    · cases hfound
      simp
    · exact hnone found hfound

/-- What `complete_issuance` tests before it writes. -/
theorem holdsClaim_iff {challengeId : ChallengeId} {workerId : String} {instant : ℕ} :
    db.holdsClaim challengeId workerId instant = true ↔
      ∃ intent leaseExpiresAt, db.intents.lookup challengeId = some intent ∧
        intent.status = .signing ∧ intent.signingLeaseOwner = some workerId ∧
        intent.signingLeaseExpiresAtUnixSeconds = some leaseExpiresAt ∧
        instant < leaseExpiresAt ∧ instant < intent.signingDeadlineUnixSeconds := by
  rw [holdsClaim]
  cases hintent : db.intents.lookup challengeId with
  | none => simp
  | some intent =>
      cases hlease : intent.signingLeaseExpiresAtUnixSeconds with
      | none => simp [hlease]
      | some leaseExpiresAt => simp [hlease, and_assoc]

/-- A claim that is alive belongs to a challenge that is still satisfied. -/
theorem satisfied_of_claim (hinv : FenceInvariant clock db) (hle : clock ≤ now)
    {challengeId : ChallengeId} {intent : IntentRow}
    (hintent : db.intents.lookup challengeId = some intent) (hsigning : intent.status = .signing)
    (hahead : now < intent.signingDeadlineUnixSeconds) :
    ∃ row, db.challenges.lookup challengeId = some row ∧ row.lifecycleState = .satisfied ∧
      intent.signingDeadlineUnixSeconds = row.expiresAtUnixSeconds := by
  obtain ⟨row, hrow, hdeadline, hagrees⟩ := hinv challengeId intent hintent
  refine ⟨row, hrow, ?_, hdeadline⟩
  simp only [StatusAgrees, hsigning] at hagrees
  rcases hagrees with hsatisfied | ⟨-, hdue⟩
  · exact hsatisfied
  · omega

/-- The intents after a pass was written. -/
theorem lookup_issuePass {completed : CompletedIssuance} {intent : IntentRow}
    (hintent : db.intents.lookup completed.challengeId = some intent) (other : ChallengeId) :
    ∃ issued, issued.status = .issued ∧
      issued.signingDeadlineUnixSeconds = intent.signingDeadlineUnixSeconds ∧
      (db.issuePass completed).intents.lookup other =
        if other = completed.challengeId then some issued else db.intents.lookup other := by
  refine ⟨{ intent with
    status := .issued
    signingLeaseOwner := none
    signingLeaseExpiresAtUnixSeconds := none
    authorityKid := some completed.authorityKid
    gatePass := some completed.gatePass
    issuedAtUnixSeconds := some completed.issuedAt
    expiresAtUnixSeconds := some completed.expiresAt }, rfl, rfl, ?_⟩
  rw [issuePass, AuthorityDatabase.setLifecycle, Rows.lookup_updateRow_eq]
  split
  · next heq =>
      subst heq
      rw [hintent]
      rfl
  · rfl

theorem lookup_issuePass_challenges (completed : CompletedIssuance) {row : ChallengeRow}
    {other : ChallengeId} (hrow : db.challenges.lookup other = some row) :
    ∃ later, (db.issuePass completed).challenges.lookup other = some later ∧
      later.expiresAtUnixSeconds = row.expiresAtUnixSeconds ∧
      later.lifecycleState = if other = completed.challengeId then .passIssued
        else row.lifecycleState := by
  rw [issuePass, AuthorityDatabase.setLifecycle, Rows.lookup_updateRow_eq]
  split
  · rw [hrow, Option.map_some]
    exact ⟨_, rfl, rfl, rfl⟩
  · exact ⟨row, hrow, rfl, rfl⟩

/-- The pass of a signed intent keeps the fence, whatever became of the challenge. -/
theorem fence_issuePass (hinv : FenceInvariant clock db) {completed : CompletedIssuance}
    {intent : IntentRow} (hintent : db.intents.lookup completed.challengeId = some intent) :
    FenceInvariant clock (db.issuePass completed) := by
  intro other row hrow
  obtain ⟨issued, hissued, hkept, hlookup⟩ := lookup_issuePass hintent other
  rw [hlookup] at hrow
  split at hrow
  · next heq =>
      cases hrow
      obtain ⟨challenge, hchallenge, hdeadline, -⟩ := hinv _ intent hintent
      obtain ⟨later, hlater, hexpires, hstate⟩ :=
        lookup_issuePass_challenges completed (heq ▸ hchallenge)
      refine ⟨later, hlater, (hkept.trans hdeadline).trans hexpires.symm, ?_⟩
      rw [hstate, if_pos heq]
      simp [StatusAgrees, hissued]
  · next hne =>
      obtain ⟨challenge, hchallenge, hdeadline, hagrees⟩ := hinv other row hrow
      obtain ⟨later, hlater, hexpires, hstate⟩ :=
        lookup_issuePass_challenges completed hchallenge
      refine ⟨later, hlater, hdeadline.trans hexpires.symm, ?_⟩
      rw [hstate, if_neg hne]
      exact hagrees

theorem KeepsIntents.issuePass {completed : CompletedIssuance} {intent : IntentRow}
    (hintent : db.intents.lookup completed.challengeId = some intent)
    (hsigning : intent.status = .signing) : KeepsIntents db (db.issuePass completed) := by
  intro other row hrow hsettled
  obtain ⟨issued, -, -, hlookup⟩ := lookup_issuePass hintent other
  rw [hlookup]
  split
  · next heq =>
      subst heq
      rw [hintent] at hrow
      cases hrow
      simp [hsigning] at hsettled
  · exact hrow

/-- Over a challenge that is still satisfied the pass reopens nothing. -/
theorem KeepsSettled.issuePass {completed : CompletedIssuance} {intent : IntentRow}
    {satisfied : ChallengeRow}
    (hintent : db.intents.lookup completed.challengeId = some intent)
    (hsigning : intent.status = .signing)
    (hsatisfied : db.challenges.lookup completed.challengeId = some satisfied)
    (hstate : satisfied.lifecycleState = .satisfied) :
    KeepsSettled db (db.issuePass completed) := by
  refine ⟨.issuePass hintent hsigning, ?_, ?_⟩
  · intro other row hrow hterminal
    obtain ⟨later, hlater, -, hlaterState⟩ := lookup_issuePass_challenges completed hrow
    refine ⟨later, hlater, ?_⟩
    rw [hlaterState]
    split
    · next heq =>
        subst heq
        rw [hsatisfied] at hrow
        cases hrow
        simp [hstate] at hterminal
    · rfl
  · intro other row hrow hterminal hnone found hfound
    obtain ⟨issued, -, -, hlookup⟩ := lookup_issuePass hintent other
    rw [hlookup] at hfound
    split at hfound
    · next heq =>
        subst heq
        rw [hsatisfied] at hrow
        cases hrow
        simp [hstate] at hterminal
    · exact hnone found hfound

/-- Over a challenge that has expired it does. -/
theorem not_keepsSettled_issuePass {completed : CompletedIssuance} {expired : ChallengeRow}
    (hexpired : db.challenges.lookup completed.challengeId = some expired)
    (hstate : expired.lifecycleState = .expired) :
    ¬ KeepsSettled db (db.issuePass completed) := by
  intro hkeeps
  obtain ⟨kept, hkept, hsame⟩ := hkeeps.terminal _ expired hexpired (.inr hstate)
  obtain ⟨later, hlater, -, hpass⟩ := lookup_issuePass_challenges completed hexpired
  rw [if_pos rfl] at hpass
  rw [hlater, Option.some.injEq] at hkept
  rw [← hkept, hpass, hstate] at hsame
  cases hsame

section Acceptance

variable {event : AcceptedWorkEvent} {challengeId : ChallengeId} {challenge : ChallengeRow}
  {transition : AcceptedWorkTransition}

/-- A challenge that takes work has no intent yet. -/
theorem no_intent_accepts (hinv : FenceInvariant clock db)
    (h : AcceptsWork db event now after challengeId challenge transition) :
    db.intents.lookup challengeId = none := by
  rw [Option.eq_none_iff_forall_ne_some]
  intro intent hintent
  obtain ⟨row, hrow, -, hagrees⟩ := hinv challengeId intent hintent
  rw [h.challenge_eq] at hrow
  cases hrow
  have hpast := hagrees.past
  simp [h.active] at hpast

/-- So it is satisfied by the event that creates its intent. -/
theorem satisfied_iff_intent (hinv : FenceInvariant clock db) (haccounting : AccountingInvariant db)
    (h : AcceptsWork db event now after challengeId challenge transition) :
    transition.satisfied = transition.issuanceIntentCreated := by
  have hturn := AccountingInvariant.intent_accepts h
  have hopen : challenge.satisfied = false := by
    by_contra hsatisfied
    rw [Bool.not_eq_false] at hsatisfied
    have hintent := (haccounting.intents challengeId).mpr ⟨challenge, h.challenge_eq, hsatisfied⟩
    exact AList.lookup_eq_none.mp (no_intent_accepts hinv h) hintent
  rw [Bool.eq_iff_iff, hturn, hopen]
  simp

/-- The state of a challenge row after an accepted event. -/
theorem lookup_accepts_challenges
    (h : AcceptsWork db event now after challengeId challenge transition) {other : ChallengeId}
    {row : ChallengeRow} (hrow : db.challenges.lookup other = some row) :
    ∃ later, after.challenges.lookup other = some later ∧
      later.expiresAtUnixSeconds = row.expiresAtUnixSeconds ∧
      later.lifecycleState = if other = challengeId ∧ transition.satisfied = true then .satisfied
        else row.lifecycleState := by
  rw [h.challenges_eq, updateProgress, Rows.lookup_updateRow_eq]
  split
  · next heq =>
      rw [hrow, Option.map_some]
      exact ⟨_, rfl, rfl, by simp [heq]⟩
  · next hne => exact ⟨row, hrow, rfl, by simp [hne]⟩

theorem fence_accepts (hinv : FenceInvariant clock db) (haccounting : AccountingInvariant db)
    (h : AcceptsWork db event now after challengeId challenge transition) :
    FenceInvariant clock after ∧ KeepsSettled db after := by
  have hnone := no_intent_accepts hinv h
  have hcreated := satisfied_iff_intent hinv haccounting h
  -- Intents other than the new one are the old ones, of other challenges.
  have hintents : ∀ other intent, after.intents.lookup other = some intent →
      (other = challengeId ∧ transition.issuanceIntentCreated = true ∧ intent.status = .pending ∧
        intent.signingDeadlineUnixSeconds = challenge.expiresAtUnixSeconds) ∨
      (other ≠ challengeId ∧ db.intents.lookup other = some intent) := by
    intro other intent hintent
    rcases h.intents_eq with ⟨hyes, -, passUuid, hinserted⟩ | ⟨-, hsame⟩
    · rw [hinserted, Rows.lookup_insert_eq] at hintent
      split at hintent
      · next heq =>
          cases hintent
          exact .inl ⟨heq, hyes, rfl, rfl⟩
      · next hne => exact .inr ⟨hne, hintent⟩
    · rw [hsame] at hintent
      refine .inr ⟨?_, hintent⟩
      rintro rfl
      rw [hnone] at hintent
      cases hintent
  refine ⟨?_, ⟨?_, ?_, ?_⟩⟩
  · intro other intent hintent
    rcases hintents other intent hintent with ⟨rfl, hyes, hpending, hdeadline⟩ | ⟨hne, hold⟩
    · obtain ⟨later, hlater, hexpires, hstate⟩ := lookup_accepts_challenges h h.challenge_eq
      refine ⟨later, hlater, hdeadline.trans hexpires.symm, ?_⟩
      rw [hstate, if_pos ⟨rfl, hcreated.trans hyes⟩]
      simp [StatusAgrees, hpending]
    · obtain ⟨row, hrow, hdeadline, hagrees⟩ := hinv other intent hold
      obtain ⟨later, hlater, hexpires, hstate⟩ := lookup_accepts_challenges h hrow
      refine ⟨later, hlater, hdeadline.trans hexpires.symm, ?_⟩
      rw [hstate, if_neg fun hboth => hne hboth.1]
      exact hagrees
  · intro other intent hintent _
    have hne : other ≠ challengeId := by
      rintro rfl
      rw [hnone] at hintent
      cases hintent
    rcases h.intents_eq with ⟨-, -, passUuid, hinserted⟩ | ⟨-, hsame⟩
    · rw [hinserted, AList.lookup_insert_ne hne, hintent]
    · rw [hsame, hintent]
  · intro other row hrow hterminal
    obtain ⟨later, hlater, -, hstate⟩ := lookup_accepts_challenges h hrow
    refine ⟨later, hlater, ?_⟩
    rw [hstate, if_neg]
    rintro ⟨rfl, -⟩
    rw [h.challenge_eq] at hrow
    cases hrow
    simp [h.active] at hterminal
  · intro other row hrow hterminal hold intent hintent
    rcases hintents other intent hintent with ⟨-, -, hpending, -⟩ | ⟨-, hsame⟩
    · simp [hpending]
    · exact hold intent hsame

end Acceptance

end Issuance

/-- One transaction at or after `clock` keeps the fence and everything settled, unless it
completes an issuance. -/
theorem fence_step {clock : ℕ} {db : AuthorityDatabase} (hinv : FenceInvariant clock db)
    (haccounting : AccountingInvariant db) {request : AuthorityRequest}
    (hother : request.completes = false)
    (hle : ∀ now, request.maybeNow = some now → clock ≤ now) :
    FenceInvariant (max (request.maybeNow.getD 0) clock) (authorityStep db request).1 ∧
      KeepsSettled db (authorityStep db request).1 := by
  have heffect := authorityEffect_of_step db request
  generalize (authorityStep db request).1 = after at heffect ⊢
  cases heffect with
  | moves hmoves =>
      exact fence_moves (hinv.mono (le_max_right _ _))
        (LifecycleMoves.mono hmoves (le_max_left _ _))
  | issues hfresh =>
      obtain ⟨hfence, hkept⟩ := fence_issues hinv hfresh
      exact ⟨hfence.mono (le_max_right _ _), hkept⟩
  | accepts haccepts =>
      obtain ⟨hfence, hkept⟩ := fence_accepts hinv haccounting haccepts
      exact ⟨hfence.mono (le_max_right _ _), hkept⟩
  | @fails workerId now leaseExpiresAt locked =>
      obtain ⟨hfence, hkept⟩ := fence_fails hinv (hle now rfl)
      exact ⟨FenceInvariant.mono hfence (le_max_left _ _), hkept⟩
  | @claims workerId now leaseExpiresAt locked challengeId intent hintent hclaimable =>
      obtain ⟨hfence, hkept⟩ := fence_fails hinv (hle now rfl)
      obtain ⟨hmarked, hkept'⟩ := fence_marks hfence hintent (claimable_open hclaimable).1
        workerId leaseExpiresAt
      exact ⟨hmarked.mono (le_max_left _ _), hkept.trans hkept'⟩
  | completes => cases hother

theorem intents_moves {now : ℕ} {db after : AuthorityDatabase} (h : LifecycleMoves now db after) :
    after.intents = db.intents := by
  induction h with
  | refl => rfl
  | tail _ hstatement ih =>
      rw [← ih]
      cases hstatement with
      | elsewhere hchallenges hfingerprints hevents hintents => exact hintents
      | expire hrow hopen hdue changedAt terminalAt => rfl
      | cancel hrow hopen changedAt terminalAt => rfl
      | activate hrow hissued changedAt terminalAt => rfl

/-- How one transaction may leave the intent of a challenge, unless it completes an
issuance. -/
inductive IntentStep (db : AuthorityDatabase) (challengeId : ChallengeId) (after : IntentRow) :
    AuthorityRequest × AuthorityReply → Prop
  | kept {entry : AuthorityRequest × AuthorityReply}
      (hkept : db.intents.lookup challengeId = some after) : IntentStep db challengeId after entry
  | created {entry : AuthorityRequest × AuthorityReply} (hpending : after.status = .pending) :
      IntentStep db challengeId after entry
  | failed {entry : AuthorityRequest × AuthorityReply} (hfailed : after.status = .failed) :
      IntentStep db challengeId after entry
  | claimed {workerId : String} {now leaseExpiresAt : ℕ} {locked : List ChallengeId}
      {claimed : ClaimedIssuance} (hclaimed : claimed.challengeId = challengeId)
      (hsigning : after.status = .signing) (howner : after.signingLeaseOwner = some workerId)
      (hlease : after.signingLeaseExpiresAtUnixSeconds = some leaseExpiresAt) :
      IntentStep db challengeId after
        (.maybeClaimIssuance workerId now leaseExpiresAt locked, .claimed (some claimed))

theorem intentStep_fails {db : AuthorityDatabase} {now : ℕ} {challengeId : ChallengeId}
    {after : IntentRow} {entry : AuthorityRequest × AuthorityReply}
    (hafter : ((db.failExpiredIssuance now).deleteExpiredProofs now).intents.lookup challengeId =
      some after) : IntentStep db challengeId after entry := by
  cases hold : db.intents.lookup challengeId with
  | none =>
      rw [(lookup_failExpiredIssuance_none hold).2] at hafter
      cases hafter
  | some old =>
      rcases lookup_failExpiredIssuance now hold with ⟨-, -, -, hfailed⟩ | ⟨-, hsame⟩
      · rw [hfailed] at hafter
        cases hafter
        exact .failed rfl
      · rw [hsame] at hafter
        cases hafter
        exact .kept hold

/-- Apart from claims, such a transaction writes no intent that is there. -/
theorem lookup_intents_effect {clock : ℕ} {db written : AuthorityDatabase}
    (hinv : FenceInvariant clock db) {request : AuthorityRequest}
    (heffect : AuthorityEffect db request written)
    (hclaims : ∀ workerId now leaseExpiresAt locked,
      request ≠ .maybeClaimIssuance workerId now leaseExpiresAt locked)
    (hother : request.completes = false) {challengeId : ChallengeId} {intent : IntentRow}
    (hintent : db.intents.lookup challengeId = some intent) :
    written.intents.lookup challengeId = some intent := by
  cases heffect with
  | moves hmoves => rw [intents_moves hmoves, hintent]
  | issues hfresh => exact hintent
  | @accepts event leaseId clock now passUuid after accepting challenge transition haccepts =>
      rcases haccepts.intents_eq with ⟨-, -, uuid, hinserted⟩ | ⟨-, hsame⟩
      · -- A challenge that takes work has no intent yet.
        have hne : challengeId ≠ accepting := by
          rintro rfl
          rw [no_intent_accepts hinv haccepts] at hintent
          cases hintent
        rw [hinserted, AList.lookup_insert_ne hne, hintent]
      · rw [hsame, hintent]
  | fails => exact absurd rfl (hclaims _ _ _ _)
  | claims => exact absurd rfl (hclaims _ _ _ _)
  | completes => cases hother

/-- Apart from claims, such a transaction at most creates an intent. -/
theorem intentStep_of_effect {db written : AuthorityDatabase} {request : AuthorityRequest}
    {reply : AuthorityReply} {challengeId : ChallengeId} {after : IntentRow}
    (heffect : AuthorityEffect db request written)
    (hclaims : ∀ workerId now leaseExpiresAt locked,
      request ≠ .maybeClaimIssuance workerId now leaseExpiresAt locked)
    (hother : request.completes = false)
    (hafter : written.intents.lookup challengeId = some after) :
    IntentStep db challengeId after (request, reply) := by
  cases heffect with
  | moves hmoves => exact .kept (intents_moves hmoves ▸ hafter)
  | issues hfresh => exact .kept hafter
  | accepts haccepts =>
      rcases haccepts.intents_eq with ⟨-, -, uuid, hinserted⟩ | ⟨-, hsame⟩
      · rw [hinserted, Rows.lookup_insert_eq] at hafter
        split at hafter
        · cases hafter
          exact .created rfl
        · exact .kept hafter
      · exact .kept (hsame ▸ hafter)
  | fails => exact absurd rfl (hclaims _ _ _ _)
  | claims => exact absurd rfl (hclaims _ _ _ _)
  | completes => cases hother

/-- Everything such a transaction can do to the intent of a challenge. -/
theorem intentStep_of_step {db : AuthorityDatabase} {request : AuthorityRequest}
    {challengeId : ChallengeId} {after : IntentRow} (hother : request.completes = false)
    (hafter : (authorityStep db request).1.intents.lookup challengeId = some after) :
    IntentStep db challengeId after (request, (authorityStep db request).2) := by
  -- A claim also answers, so it is taken before the common effects.
  cases request with
  | maybeClaimIssuance workerId now leaseExpiresAt locked =>
      rcases maybeClaimIssuance_cases db workerId now leaseExpiresAt locked with
        ⟨error, hsame⟩ | hfailed | ⟨claimedId, intent, hintent, hclaimable, hclaimed⟩
      · simp only [authorityStep, answer, hsame] at hafter
        exact .kept hafter
      · simp only [authorityStep, answer, hfailed] at hafter
        exact intentStep_fails hafter
      · simp only [authorityStep, answer, hclaimed] at hafter ⊢
        have hcurrent : ((db.failExpiredIssuance now).deleteExpiredProofs now).intents.lookup
            claimedId = some intent := hintent
        rw [lookup_markIssuanceSigning hcurrent] at hafter
        split at hafter
        · next heq =>
            cases hafter
            exact .claimed heq.symm rfl rfl rfl
        · exact intentStep_fails hafter
  | completeIssuance => cases hother
  | _ => exact intentStep_of_effect (authorityEffect_of_step db _) (by simp) hother hafter

/-- A claim leaves an intent alone that another transaction holds locked and that is not due. -/
theorem lookup_maybeClaimIssuance_locked {db : AuthorityDatabase} {workerId : String}
    {now leaseExpiresAt : ℕ} {locked : List ChallengeId} {challengeId : ChallengeId}
    {intent : IntentRow} (hlocked : challengeId ∈ locked)
    (hahead : db.issuanceExpired challengeId now = false)
    (hintent : db.intents.lookup challengeId = some intent) :
    (authorityStep db (.maybeClaimIssuance workerId now leaseExpiresAt locked)).1.intents.lookup
      challengeId = some intent := by
  have hkept : ((db.failExpiredIssuance now).deleteExpiredProofs now).intents.lookup
      challengeId = some intent := by
    rcases lookup_failExpiredIssuance now hintent with ⟨hexpired, -⟩ | ⟨-, hsame⟩
    · rw [hahead] at hexpired
      cases hexpired
    · exact hsame
  simp only [authorityStep, answer, maybeClaimIssuance]
  split
  · exact hintent
  · exact hintent
  · next now' lease' hnow hlease =>
      obtain ⟨rfl, -⟩ := unixSecondsToI64_eq_ok hnow
      split
      · exact hkept
      · next claimedId claimed hclaim =>
          have hfree := (List.mem_filter.mp (List.argmin_mem hclaim)).2
          have hne : challengeId ≠ claimedId := by
            rintro rfl
            simp [hlocked] at hfree
          show (markIssuanceSigning _ claimedId workerId lease').intents.lookup challengeId = _
          rw [markIssuanceSigning, Rows.lookup_updateRow_ne hne, hkept]

/-- An answered claim left its intent to the worker that asked. -/
theorem lookup_claimed {db : AuthorityDatabase} {workerId : String} {now leaseExpiresAt : ℕ}
    {locked : List ChallengeId} {claimed : ClaimedIssuance}
    (h : (authorityStep db (.maybeClaimIssuance workerId now leaseExpiresAt locked)).2 =
      .claimed (some claimed)) :
    ∃ intent, (authorityStep db (.maybeClaimIssuance workerId now leaseExpiresAt
        locked)).1.intents.lookup claimed.challengeId = some intent ∧
      intent.signingLeaseOwner = some workerId ∧
      intent.signingLeaseExpiresAtUnixSeconds = some leaseExpiresAt := by
  rcases maybeClaimIssuance_cases db workerId now leaseExpiresAt locked with
    ⟨error, hsame⟩ | hfailed | ⟨claimedId, intent, hintent, hclaimable, hclaimed⟩
  · simp [authorityStep, answer, hsame] at h
  · simp [authorityStep, answer, hfailed] at h
  · simp only [authorityStep, answer, hclaimed, AuthorityReply.claimed.injEq,
      Option.some.injEq] at h ⊢
    subst h
    have hcurrent : ((db.failExpiredIssuance now).deleteExpiredProofs now).intents.lookup
        claimedId = some intent := hintent
    rw [lookup_markIssuanceSigning hcurrent, if_pos rfl]
    exact ⟨_, rfl, rfl, rfl⟩

end AuthorityDatabase

end WorkGate
