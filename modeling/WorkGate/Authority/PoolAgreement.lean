/-
# The Pool Adapter and the consented choice

Consent fixes the commitment of a choice at the Authority, while the Pool Adapter mines for
the raw choice recorded last.  The two agree as long as the records come in the order of the
consent: what is confirmed is what was recorded last, and nothing else is recorded after it.
Nothing in the code imposes that order, and a single step out of it parts the two.
-/

import WorkGate.Authority.PoolChoice
import WorkGate.Authority.Selections

namespace WorkGate

open WorkGate.Library

variable {deps : Dependencies} {challengeId : ChallengeId}

/-! ## What the Authority and the Pool Adapter hold -/

namespace ClaimantPoolState

/-- The challenge is not over: it is open, and its deadline was never reached. -/
def isLive (challengeId : ChallengeId) (state : ClaimantPoolState deps) : Bool :=
  (state.authority.challenges.lookup challengeId).any fun challenge =>
    challengeAcceptsWorkControl challenge.lifecycleState &&
      decide (state.latest < challenge.expiresAtUnixSeconds)

/-- The choice consented to, while the challenge is not over. -/
def consentedSelection (challengeId : ChallengeId) (state : ClaimantPoolState deps) :
    Option SelectionRow :=
  if state.isLive challengeId then
    (state.authority.poolSelections.lookup challengeId).filter (·.status == .consented)
  else none

/-- The raw choice under the challenge's claimant session. -/
def storedRow (challengeId : ChallengeId) (state : ClaimantPoolState deps) :
    Option SessionPoolSelectionRow :=
  match claimantSessionId deps challengeId with
  | .error _ => none
  | .ok sessionId => state.rawSelections.lookup sessionId

/-- The Pool Adapter holds exactly the choice the Authority was consented: its offer, its
commitment, and whoever it authorizes a session for. -/
def MinesConsented (challengeId : ChallengeId) (state : ClaimantPoolState deps) : Prop :=
  ∀ consented, state.consentedSelection challengeId = some consented →
    ∃ row, ∃ selection : PoolSelection deps, state.storedRow challengeId = some row ∧
      row.choice = selection.stored challengeId ∧
      selection.offerId = consented.poolOfferId ∧
      selection.commitment challengeId = consented.payoutCommitment ∧
      ∀ sessionId upstreamSecret authorization,
        claimantSessionId deps challengeId = .ok sessionId →
        (state.rawSelections.sessionUpstreamAuthorization deps sessionId upstreamSecret
          state.clock).2 = .ok (some authorization) →
        authorization.selection = ⟨consented.poolOfferId, consented.payoutCommitment⟩ ∧
          authorization.username = selection.payout.destination

/-- While the challenge is not over, a choice stored under consent stays as it is. -/
def KeepsChoice (challengeId : ChallengeId) (state reached : ClaimantPoolState deps) : Prop :=
  (state.consentedSelection challengeId).isSome → reached.isLive challengeId →
    (reached.storedRow challengeId).map SessionPoolSelectionRow.choice =
      (state.storedRow challengeId).map SessionPoolSelectionRow.choice

end ClaimantPoolState

/-! ## The order of the records -/

/-- The choice the Pool Adapter recorded last. -/
def lastRecorded : List (ClaimantPoolEvent deps × ClaimantPoolReply deps) →
    Option (PoolSelection deps)
  | [] => none
  | (_, .recorded selection) :: _ => some selection
  | _ :: earlier => lastRecorded earlier

/-- The proposal a confirmation would turn into consent. -/
def AuthorityDatabase.proposalConfirmed (db : AuthorityDatabase) (challengeId : ChallengeId)
    (payoutCommitment : String) (now : ℕ) : Option SelectionRow :=
  match db.lockOpenChallenge challengeId now .confirmPoolSelection with
  | .error _ => none
  | .ok instant => (db.poolSelections.lookup challengeId).filter fun row =>
      row.status == .proposed && row.payoutCommitment == payoutCommitment &&
        decide (row.selectedAtUnixSeconds ≤ instant)

namespace ClaimantPoolState

/-- Whether the Pool Adapter's table would take a record of `selection`. -/
def isRecordable (challengeId : ChallengeId) (state : ClaimantPoolState deps)
    (selection : PoolSelection deps) : Bool :=
  match state.intake challengeId selection with
  | .error _ => false
  | .ok intake => intake.row.toOption.isSome

/-- A record under consent repeats the choice recorded last. -/
def recordsInOrder (challengeId : ChallengeId) (state : ClaimantPoolState deps)
    (maybeLast : Option (PoolSelection deps)) (selection : PoolSelection deps) : Bool :=
  !((state.consentedSelection challengeId).isSome && state.isRecordable challengeId selection) ||
    decide (maybeLast = some selection)

/-- A confirmation consents to the choice recorded last. -/
def confirmsInOrder (challengeId : ChallengeId) (state : ClaimantPoolState deps)
    (maybeLast : Option (PoolSelection deps)) (proposed : PoolSelectionCommitment) : Bool :=
  match state.authority.proposalConfirmed challengeId proposed.commitment state.clock with
  | none => true
  | some standing => !state.isLive challengeId || maybeLast.any fun last =>
      last.offerId == standing.poolOfferId &&
        last.commitment challengeId == standing.payoutCommitment

/-- Whether a step keeps the records in the order of the consent. -/
def inOrder (challengeId : ChallengeId) (state : ClaimantPoolState deps)
    (maybeLast : Option (PoolSelection deps)) : ClaimantPoolEvent deps → Bool
  | .proceed requestId _ =>
      match state.calls.lookup requestId with
      | some ⟨selection, .record _⟩ => state.recordsInOrder challengeId maybeLast selection
      | some ⟨_, .confirm proposed⟩ => state.confirmsInOrder challengeId maybeLast proposed
      | _ => true
  | _ => true

end ClaimantPoolState

/-- The calls, in an environment whose steps keep that order. -/
def orderedClaimantPool (deps : Dependencies) (challengeId : ChallengeId) :
    Machine (ClaimantPoolState deps) (ClaimantPoolEvent deps) (ClaimantPoolReply deps) :=
  (claimantPool deps challengeId).under fun history state event =>
    state.inOrder challengeId (lastRecorded history) event = true

instance decidableAdmitsOrderedClaimantPool
    (history : List (ClaimantPoolEvent deps × ClaimantPoolReply deps))
    (state : ClaimantPoolState deps) (event : ClaimantPoolEvent deps) :
    Decidable ((orderedClaimantPool deps challengeId).admits history state event) :=
  inferInstanceAs (Decidable ((claimantPool deps challengeId).admits history state event ∧
    state.inOrder challengeId (lastRecorded history) event = true))

/-! ## What a step does -/

namespace AuthorityDatabase

variable {db : AuthorityDatabase} {payoutCommitment : String} {now : ℕ}

/-- A proposal leaves every choice consented to where it stands, and consents to none. -/
theorem lookup_proposePoolSelection_consented {poolOfferId : String} {row : SelectionRow}
    (hconsented : row.status = .consented) :
    (db.proposePoolSelection challengeId poolOfferId payoutCommitment now).1.poolSelections.lookup
      challengeId = some row ↔ db.poolSelections.lookup challengeId = some row := by
  simp only [proposePoolSelection]
  split
  · exact Iff.rfl
  · split
    · exact Iff.rfl
    · split
      · next hnone =>
          show (db.poolSelections.insert challengeId _).lookup challengeId = some row ↔ _
          rw [AList.lookup_insert, hnone]
          constructor
          · intro h
            cases h
            cases hconsented
          · intro h
            cases h
      · next existing hexisting =>
          split
          · next hproposed =>
              show (db.poolSelections.updateRow challengeId _).lookup challengeId = some row ↔ _
              rw [Rows.lookup_updateRow, hexisting, Option.map_some]
              constructor
              · intro h
                cases h
                rw [hproposed] at hconsented
                cases hconsented
              · intro h
                cases h
                rw [hproposed] at hconsented
                cases hconsented
          · split
            · exact Iff.rfl
            · exact Iff.rfl

theorem proposalConfirmed_eq_some {standing : SelectionRow}
    (h : db.proposalConfirmed challengeId payoutCommitment now = some standing) :
    db.poolSelections.lookup challengeId = some standing := by
  simp only [proposalConfirmed] at h
  split at h
  · cases h
  · exact (Option.filter_eq_some_iff.mp h).1

/-- A row that consent was given to. -/
def consentedRow (instant : ℕ) (row : SelectionRow) : SelectionRow :=
  { row with status := .consented, consentedAtUnixSeconds := some instant }

/-- A confirmation writes when it consents to the proposal that stands. -/
theorem confirmPoolSelection_writes (db : AuthorityDatabase) (challengeId : ChallengeId)
    (payoutCommitment : String) (now : ℕ) :
    (db.confirmPoolSelection challengeId payoutCommitment now).1 = db ∧
        db.proposalConfirmed challengeId payoutCommitment now = none ∨
      ∃ standing instant, db.proposalConfirmed challengeId payoutCommitment now = some standing ∧
        (db.confirmPoolSelection challengeId payoutCommitment now).1 = { db with
          poolSelections := db.poolSelections.updateRow challengeId (consentedRow instant) } := by
  simp only [confirmPoolSelection, proposalConfirmed]
  cases hlock : db.lockOpenChallenge challengeId now .confirmPoolSelection with
  | error error => exact .inl ⟨rfl, rfl⟩
  | ok instant =>
      cases hexisting : db.poolSelections.lookup challengeId with
      | none => exact .inl ⟨rfl, rfl⟩
      | some existing =>
          dsimp only
          by_cases hsame : existing.payoutCommitment = payoutCommitment
          · rw [if_neg (not_not_intro hsame)]
            cases hstatus : existing.status with
            | consented => exact .inl ⟨rfl, by simp [Option.filter, hstatus]⟩
            | proposed =>
                rw [if_neg (by simp)]
                by_cases hearly : instant < existing.selectedAtUnixSeconds
                · rw [if_pos hearly]
                  exact .inl ⟨rfl, by simp [Option.filter, Nat.not_le.mpr hearly]⟩
                · rw [if_neg hearly]
                  refine .inr ⟨existing, instant, ?_, rfl⟩
                  simp [Option.filter, hstatus, hsame, Nat.not_lt.mp hearly]
          · rw [if_pos hsame]
            exact .inl ⟨rfl, by simp [Option.filter, hsame]⟩

end AuthorityDatabase

namespace ClaimantPoolState

variable {state after : ClaimantPoolState deps} {maybeLast : Option (PoolSelection deps)}

theorem isLive_iff : state.isLive challengeId = true ↔
    ∃ challenge, state.authority.challenges.lookup challengeId = some challenge ∧
      challengeAcceptsWorkControl challenge.lifecycleState = true ∧
      state.latest < challenge.expiresAtUnixSeconds := by
  rw [isLive, Option.any_eq_true]
  simp

theorem consentedSelection_eq_some {consented : SelectionRow} :
    state.consentedSelection challengeId = some consented ↔
      state.isLive challengeId = true ∧
      state.authority.poolSelections.lookup challengeId = some consented ∧
      consented.status = .consented := by
  rw [consentedSelection]
  by_cases hlive : state.isLive challengeId = true
  · rw [if_pos hlive, Option.filter_eq_some_iff]
    simp [hlive]
  · simp [hlive]

/-- What every step but a record keeps: deadlines and closed challenges, what a challenge's
selection presupposes, and the rows of a challenge that is not over. -/
structure Later (challengeId : ChallengeId) (state after : ClaimantPoolState deps) : Prop where
  challenges : state.authority.NeverReopens after.authority
  clock : after.clock ≤ after.latest
  latest : state.latest ≤ after.latest
  issued : after.authority.poolSelections.lookup challengeId ≠ none →
    after.authority.challenges.lookup challengeId ≠ none
  rows : ∀ sessionId row, after.rawSelections.lookup sessionId = some row →
    state.rawSelections.lookup sessionId = some row
  keeps : after.isLive challengeId = true → ∀ sessionId row,
    state.rawSelections.lookup sessionId = some row →
      after.rawSelections.lookup sessionId = some row

/-- The invariant.  Every raw row is the claimant session's and holds the choice recorded last,
which stays while the challenge is not over, and which is the one consented to. -/
structure Agreed (challengeId : ChallengeId) (maybeLast : Option (PoolSelection deps))
    (state : ClaimantPoolState deps) : Prop where
  clock : state.clock ≤ state.latest
  issued : state.authority.poolSelections.lookup challengeId ≠ none →
    state.authority.challenges.lookup challengeId ≠ none
  recorded : maybeLast ≠ none → state.authority.challenges.lookup challengeId ≠ none
  session : ∀ sessionId row, state.rawSelections.lookup sessionId = some row →
    claimantSessionId deps challengeId = .ok sessionId
  choice : ∀ sessionId row, state.rawSelections.lookup sessionId = some row →
    row.challengeId = challengeId ∧ maybeLast.map (·.stored challengeId) = some row.choice
  deadline : ∀ sessionId row, state.rawSelections.lookup sessionId = some row →
    (state.authority.challenges.lookup challengeId).map (·.expiresAtUnixSeconds) =
      some row.challengeExpiresAtUnixSeconds
  kept : maybeLast ≠ none → state.isLive challengeId = true →
    ∃ row, state.storedRow challengeId = some row
  ordered : ∀ consented, state.consentedSelection challengeId = some consented →
    ∃ last, maybeLast = some last ∧ last.offerId = consented.poolOfferId ∧
      last.commitment challengeId = consented.payoutCommitment

/-- A challenge that was issued and is not over was not over before. -/
theorem isLive_of_later (hchallenges : state.authority.NeverReopens after.authority)
    (hlatest : state.latest ≤ after.latest)
    (hissued : state.authority.challenges.lookup challengeId ≠ none)
    (hlive : after.isLive challengeId = true) : state.isLive challengeId = true := by
  obtain ⟨challenge, hchallenge⟩ := Option.ne_none_iff_exists'.mp hissued
  obtain ⟨later, hfound, hopen, hahead⟩ := isLive_iff.mp hlive
  obtain ⟨kept, hkept, hdeadline, hreopens⟩ := hchallenges challengeId challenge hchallenge
  rw [hfound, Option.some.injEq] at hkept
  subst hkept
  apply isLive_iff.mpr
  exact ⟨challenge, hchallenge, hreopens hopen, lt_of_le_of_lt hlatest (hdeadline ▸ hahead)⟩

theorem Later.isLive_of (hlater : Later challengeId state after)
    (hissued : state.authority.challenges.lookup challengeId ≠ none)
    (hlive : after.isLive challengeId = true) : state.isLive challengeId = true :=
  isLive_of_later hlater.challenges hlater.latest hissued hlive

/-- While the challenge is not over, its row stays. -/
theorem Later.storedRow_eq (hlater : Later challengeId state after)
    (hlive : after.isLive challengeId = true) :
    after.storedRow challengeId = state.storedRow challengeId := by
  simp only [storedRow]
  split
  · rfl
  · next sessionId hsession =>
      cases hrow : state.rawSelections.lookup sessionId with
      | some row => exact hlater.keeps hlive sessionId row hrow
      | none =>
          cases hafter : after.rawSelections.lookup sessionId with
          | none => rfl
          | some row =>
              rw [hlater.rows sessionId row hafter] at hrow
              cases hrow

/-! ### Steps, classified -/

/-- What an event does: it leaves the choices alone, or is a confirmation that consents, or a
record that was taken. -/
inductive StepEffect (challengeId : ChallengeId) (state : ClaimantPoolState deps) :
    ClaimantPoolEvent deps → ClaimantPoolState deps → ClaimantPoolReply deps → Prop
  | keeps {event : ClaimantPoolEvent deps} {after : ClaimantPoolState deps}
      {reply : ClaimantPoolReply deps} (hlater : Later challengeId state after)
      (hconsented : ∀ row : SelectionRow, row.status = .consented →
        (after.authority.poolSelections.lookup challengeId = some row ↔
          state.authority.poolSelections.lookup challengeId = some row))
      (hreply : ∀ selection, reply ≠ .recorded selection) :
      StepEffect challengeId state event after reply
  | consents {requestId : ℕ} {maybePoolOffers : Option (Option (List PoolOffer))}
      {selection : PoolSelection deps} {proposed : PoolSelectionCommitment}
      {standing : SelectionRow} {instant : ℕ} {after : ClaimantPoolState deps}
      {reply : ClaimantPoolReply deps}
      (hcall : state.calls.lookup requestId = some ⟨selection, .confirm proposed⟩)
      (hconfirmed : state.authority.proposalConfirmed challengeId proposed.commitment state.clock =
        some standing)
      (hlater : Later challengeId state after)
      (hselection : after.authority.poolSelections.lookup challengeId =
        some (AuthorityDatabase.consentedRow instant standing))
      (hreply : ∀ selection, reply ≠ .recorded selection) :
      StepEffect challengeId state (.proceed requestId maybePoolOffers) after reply
  | records {requestId : ℕ} {maybePoolOffers : Option (Option (List PoolOffer))}
      {selection : PoolSelection deps} {proposed : PoolSelectionCommitment}
      {intake : PoolSelectionIntake deps} {written : PoolSelectionTable}
      {after : ClaimantPoolState deps}
      (hcall : state.calls.lookup requestId = some ⟨selection, .record proposed⟩)
      (hintake : state.intake challengeId selection = .ok intake)
      (hwritten : state.rawSelections.recordPoolSelection intake = .ok written)
      (hauthority : after.authority = state.authority) (hraw : after.rawSelections = written)
      (hclock : after.clock = state.clock) (hlatest : after.latest = state.latest) :
      StepEffect challengeId state (.proceed requestId maybePoolOffers) after
        (.recorded selection)

/-- A step that does not touch the raw rows. -/
theorem later_of_raw (hchallenges : state.authority.NeverReopens after.authority)
    (hissued : after.authority.poolSelections.lookup challengeId ≠ none →
      after.authority.challenges.lookup challengeId ≠ none)
    (hraw : after.rawSelections = state.rawSelections) (hclock : after.clock ≤ after.latest)
    (hlatest : state.latest ≤ after.latest) : Later challengeId state after where
  challenges := hchallenges
  clock := hclock
  latest := hlatest
  issued := hissued
  rows := fun _ _ hrow => hraw ▸ hrow
  keeps := fun _ _ _ hrow => hraw ▸ hrow

/-- A step of a call that leaves both databases as they are. -/
theorem Agreed.keeps_answers (hagreed : Agreed challengeId maybeLast state) (requestId : ℕ)
    (event : ClaimantPoolEvent deps)
    (answer : Except AuthorityApplicationError PoolSelectionCommitment) :
    StepEffect challengeId state event (state.answers requestId answer).1
      (state.answers requestId answer).2 := by
  apply StepEffect.keeps
  · exact later_of_raw (.of_eq rfl) hagreed.issued rfl hagreed.clock le_rfl
  · exact fun _ _ => Iff.rfl
  · exact fun selection h => by cases h

/-- Deleting rows no one needs while the challenge is not over. -/
theorem Agreed.later_of_deletes (hagreed : Agreed challengeId maybeLast state)
    (keep : WorkSessionId → SessionPoolSelectionRow → Bool)
    (hkeep : state.isLive challengeId = true → ∀ sessionId row,
      state.rawSelections.lookup sessionId = some row → keep sessionId row = true) :
    Later challengeId state
      { state with rawSelections := state.rawSelections.keepRows keep } where
  challenges := .of_eq rfl
  clock := hagreed.clock
  latest := le_rfl
  issued := hagreed.issued
  rows := by
    intro sessionId row hrow
    rw [Rows.lookup_keepRows, Option.filter_eq_some_iff] at hrow
    exact hrow.1
  keeps := by
    intro hlive sessionId row hrow
    rw [Rows.lookup_keepRows, hrow, Option.filter_eq_some_iff]
    exact ⟨rfl, hkeep hlive sessionId row hrow⟩

/-- While the challenge is not over, no row of it has expired. -/
theorem Agreed.unexpired (hagreed : Agreed challengeId maybeLast state)
    (hlive : state.isLive challengeId = true) {sessionId : WorkSessionId}
    {row : SessionPoolSelectionRow} (hrow : state.rawSelections.lookup sessionId = some row) :
    state.clock < row.challengeExpiresAtUnixSeconds := by
  obtain ⟨challenge, hchallenge, -, hahead⟩ := isLive_iff.mp hlive
  have hdeadline := hagreed.deadline sessionId row hrow
  rw [hchallenge, Option.map_some, Option.some.injEq] at hdeadline
  rw [← hdeadline]
  exact lt_of_le_of_lt hagreed.clock hahead

/-- The deletion of expired rows, by the sweep or by a lookup. -/
theorem Agreed.later_of_expired (hagreed : Agreed challengeId maybeLast state)
    {kept : PoolSelectionTable} {count : ℕ}
    (h : state.rawSelections.deleteExpiredPoolSelections state.clock = .ok (kept, count)) :
    Later challengeId state { state with rawSelections := kept } := by
  simp only [PoolSelectionTable.deleteExpiredPoolSelections, bind_eq_ok] at h
  obtain ⟨now, hnow, hkept⟩ := h
  cases hkept
  rw [toI64_eq_ok hnow]
  apply hagreed.later_of_deletes
  intro hlive sessionId row hrow
  simp [hagreed.unexpired hlive hrow]

theorem Agreed.effect_propose (hagreed : Agreed challengeId maybeLast state) (requestId : ℕ)
    (call : SelectCall deps) (maybePoolOffers : Option (Option (List PoolOffer)))
    (event : ClaimantPoolEvent deps) :
    StepEffect challengeId state event
      (state.propose challengeId requestId call maybePoolOffers).1
      (state.propose challengeId requestId call maybePoolOffers).2 := by
  simp only [propose]
  split
  · exact hagreed.keeps_answers requestId event _
  · next hissued =>
      rw [not_not] at hissued
      split
      · exact hagreed.keeps_answers requestId event _
      · have hreopens := state.authority.neverReopens_step
          (.proposePoolSelection challengeId call.selection.offerId
            (call.selection.commitment challengeId) state.clock)
        obtain ⟨challenge, hchallenge⟩ := Rows.exists_lookup_of_mem hissued
        obtain ⟨later, hlater, -⟩ := hreopens challengeId challenge hchallenge
        have hafter := Option.ne_none_iff_exists'.mpr ⟨later, hlater⟩
        split
        · apply StepEffect.keeps
          · exact later_of_raw hreopens (fun _ => hafter) rfl hagreed.clock le_rfl
          · exact fun row hconsented =>
              AuthorityDatabase.lookup_proposePoolSelection_consented hconsented
          · exact fun selection h => by cases h
        · apply StepEffect.keeps
          · exact later_of_raw hreopens (fun _ => hafter) rfl hagreed.clock le_rfl
          · exact fun row hconsented =>
              AuthorityDatabase.lookup_proposePoolSelection_consented hconsented
          · exact fun selection h => by cases h

theorem Agreed.effect_record (hagreed : Agreed challengeId maybeLast state) {requestId : ℕ}
    {selection : PoolSelection deps} {proposed : PoolSelectionCommitment}
    (hcall : state.calls.lookup requestId = some ⟨selection, .record proposed⟩)
    (maybePoolOffers : Option (Option (List PoolOffer))) :
    StepEffect challengeId state (.proceed requestId maybePoolOffers)
      (state.record challengeId requestId ⟨selection, .record proposed⟩ proposed).1
      (state.record challengeId requestId ⟨selection, .record proposed⟩ proposed).2 := by
  simp only [record]
  split
  · exact hagreed.keeps_answers requestId _ _
  · next intake hintake =>
      split
      · exact hagreed.keeps_answers requestId _ _
      · next written hwritten => exact .records hcall hintake hwritten rfl rfl rfl rfl

theorem Agreed.effect_confirm (hagreed : Agreed challengeId maybeLast state) {requestId : ℕ}
    {selection : PoolSelection deps} {proposed : PoolSelectionCommitment}
    (hcall : state.calls.lookup requestId = some ⟨selection, .confirm proposed⟩)
    (maybePoolOffers : Option (Option (List PoolOffer))) :
    StepEffect challengeId state (.proceed requestId maybePoolOffers)
      (state.confirm challengeId requestId proposed).1
      (state.confirm challengeId requestId proposed).2 := by
  have hauthority : (state.confirm challengeId requestId proposed).1.authority =
    (state.authority.confirmPoolSelection challengeId proposed.commitment state.clock).1 := rfl
  have hreply : ∀ recorded, (state.confirm challengeId requestId proposed).2 ≠
      .recorded recorded := fun recorded h => by cases h
  rcases state.authority.confirmPoolSelection_writes challengeId proposed.commitment state.clock
    with ⟨hsame, -⟩ | ⟨standing, instant, hconfirmed, hwritten⟩
  · rw [hsame] at hauthority
    have hlater : Later challengeId state (state.confirm challengeId requestId proposed).1 := by
      apply later_of_raw
      · exact .of_eq (congrArg _ hauthority)
      · rw [hauthority]
        exact hagreed.issued
      · rfl
      · exact hagreed.clock
      · exact le_rfl
    exact .keeps hlater (fun row _ => by rw [hauthority]) hreply
  · rw [hwritten] at hauthority
    have hstanding := AuthorityDatabase.proposalConfirmed_eq_some hconfirmed
    have hlater : Later challengeId state (state.confirm challengeId requestId proposed).1 := by
      apply later_of_raw
      · exact .of_eq (by rw [hauthority])
      · intro
        rw [hauthority]
        exact hagreed.issued (by rw [hstanding]; simp)
      · rfl
      · exact hagreed.clock
      · exact le_rfl
    have hselection :
        (state.confirm challengeId requestId proposed).1.authority.poolSelections.lookup
          challengeId = some (AuthorityDatabase.consentedRow instant standing) := by
      rw [hauthority]
      show (state.authority.poolSelections.updateRow challengeId _).lookup challengeId = _
      rw [Rows.lookup_updateRow, hstanding, Option.map_some]
    exact .consents hcall hconfirmed hlater hselection hreply

/-- Every admitted event is one of the three. -/
theorem Agreed.effect_of_step (hagreed : Agreed challengeId maybeLast state)
    {history : List (ClaimantPoolEvent deps × ClaimantPoolReply deps)}
    {event : ClaimantPoolEvent deps}
    (hadmits : (claimantPool deps challengeId).admits history state event) :
    StepEffect challengeId state event (state.step challengeId event).1
      (state.step challengeId event).2 := by
  have hsilent : ∀ selection : PoolSelection deps, ClaimantPoolReply.silent ≠ .recorded selection :=
    fun selection h => by cases h
  have hsame : ∀ row : SelectionRow, row.status = .consented →
      (state.authority.poolSelections.lookup challengeId = some row ↔
        state.authority.poolSelections.lookup challengeId = some row) := fun _ _ => Iff.rfl
  have hrefl : Later challengeId state state :=
    later_of_raw (.of_eq rfl) hagreed.issued rfl hagreed.clock le_rfl
  cases event with
  | clock now =>
      exact .keeps (later_of_raw (.of_eq rfl) hagreed.issued rfl (le_max_right _ _)
        (le_max_left _ _)) hsame hsilent
  | authority request =>
      have hreopens := state.authority.neverReopens_step request
      have hlookup := state.authority.lookup_poolSelections_step hadmits
      apply StepEffect.keeps
      · apply later_of_raw
        · exact hreopens
        · intro hselection
          change (authorityStep state.authority request).1.poolSelections.lookup challengeId ≠ none
            at hselection
          rw [hlookup] at hselection
          obtain ⟨challenge, hchallenge⟩ :=
            Option.ne_none_iff_exists'.mp (hagreed.issued hselection)
          obtain ⟨later, hlater, -⟩ := hreopens challengeId challenge hchallenge
          exact Option.ne_none_iff_exists'.mpr ⟨later, hlater⟩
        · rfl
        · exact hagreed.clock
        · exact le_rfl
      · intro row _
        exact Iff.of_eq (congrArg (· = some row) hlookup)
      · exact hsilent
  | selectPool requestId selection =>
      exact .keeps (later_of_raw (.of_eq rfl) hagreed.issued rfl hagreed.clock le_rfl) hsame hsilent
  | proceed requestId maybePoolOffers =>
      simp only [step]
      split
      · exact .keeps hrefl hsame hsilent
      · next call hcall =>
          obtain ⟨selection, next⟩ := call
          cases next with
          | propose => exact hagreed.effect_propose requestId _ maybePoolOffers _
          | record proposed => exact hagreed.effect_record hcall maybePoolOffers
          | confirm proposed => exact hagreed.effect_confirm hcall maybePoolOffers
  | release =>
      refine .keeps (hagreed.later_of_deletes _ ?_) hsame hsilent
      intro hlive
      obtain ⟨challenge, hchallenge, hopen, -⟩ := isLive_iff.mp hlive
      change state.isClosed challengeId = true at hadmits
      rw [isClosed, hchallenge, Option.any_some, hopen] at hadmits
      cases hadmits
  | deleteExpired =>
      simp only [step]
      split
      · exact .keeps hrefl hsame hsilent
      · next kept count hkept => exact .keeps (hagreed.later_of_expired hkept) hsame hsilent
  | authorize sessionId upstreamSecret =>
      have hauthorized : ∀ answer (selection : PoolSelection deps),
          ClaimantPoolReply.authorized answer ≠ .recorded selection := fun _ _ h => by cases h
      simp only [step, PoolSelectionTable.sessionUpstreamAuthorization]
      split
      · exact .keeps hrefl hsame (hauthorized _)
      · split
        · split
          · exact .keeps hrefl hsame (hauthorized _)
          · next kept count hkept =>
              exact .keeps (hagreed.later_of_expired hkept) hsame (hauthorized _)
        · exact .keeps hrefl hsame (hauthorized _)

/-! ### What steps keep -/

/-- The choice recorded last, after a step that recorded none. -/
theorem lastRecorded_of_silent {event : ClaimantPoolEvent deps} {reply : ClaimantPoolReply deps}
    {history : List (ClaimantPoolEvent deps × ClaimantPoolReply deps)}
    (hreply : ∀ selection, reply ≠ .recorded selection) :
    lastRecorded ((event, reply) :: history) = lastRecorded history := by
  cases reply with
  | recorded selection => exact absurd rfl (hreply selection)
  | silent => rfl
  | answered answer => rfl
  | authorized answer => rfl

/-- A step that records nothing keeps the invariant, if it consents to nothing new. -/
theorem Agreed.later (hagreed : Agreed challengeId maybeLast state)
    (hlater : Later challengeId state after)
    (hordered : ∀ consented, after.consentedSelection challengeId = some consented →
      ∃ last, maybeLast = some last ∧ last.offerId = consented.poolOfferId ∧
        last.commitment challengeId = consented.payoutCommitment) :
    Agreed challengeId maybeLast after where
  clock := hlater.clock
  issued := hlater.issued
  recorded := by
    intro hlast
    obtain ⟨challenge, hchallenge⟩ := Option.ne_none_iff_exists'.mp (hagreed.recorded hlast)
    obtain ⟨later, hfound, -⟩ := hlater.challenges challengeId challenge hchallenge
    exact Option.ne_none_iff_exists'.mpr ⟨later, hfound⟩
  session := fun sessionId row hrow =>
    hagreed.session sessionId row (hlater.rows sessionId row hrow)
  choice := fun sessionId row hrow =>
    hagreed.choice sessionId row (hlater.rows sessionId row hrow)
  deadline := by
    intro sessionId row hrow
    have hdeadline := hagreed.deadline sessionId row (hlater.rows sessionId row hrow)
    obtain ⟨challenge, hchallenge, hexpires⟩ := Option.map_eq_some_iff.mp hdeadline
    obtain ⟨later, hfound, hsame, -⟩ := hlater.challenges challengeId challenge hchallenge
    rw [hfound, Option.map_some, hsame, hexpires]
  kept := by
    intro hlast hlive
    rw [hlater.storedRow_eq hlive]
    exact hagreed.kept hlast (hlater.isLive_of (hagreed.recorded hlast) hlive)
  ordered := hordered

theorem intake_eq_ok {selection : PoolSelection deps} {intake : PoolSelectionIntake deps}
    (h : state.intake challengeId selection = .ok intake) :
    ∃ challenge, state.authority.challenges.lookup challengeId = some challenge ∧
      claimantSessionId deps challengeId = .ok intake.sessionId ∧
      intake.challengeId = challengeId ∧ intake.selection = selection ∧
      intake.challengeExpiresAtUnixSeconds = challenge.expiresAtUnixSeconds := by
  simp only [ClaimantPoolState.intake] at h
  split at h
  · cases h
  · next challenge hchallenge =>
      split at h
      · cases h
      · next sessionId hsession =>
          cases h
          exact ⟨challenge, hchallenge, hsession, rfl, rfl, rfl⟩

/-- What a record leaves: the claimant session's row, with the choice that came, and no
other. -/
structure Holds (challengeId : ChallengeId) (state : ClaimantPoolState deps)
    (table : PoolSelectionTable) (sessionId : WorkSessionId) (selection : PoolSelection deps) :
    Prop where
  session : claimantSessionId deps challengeId = .ok sessionId
  only : ∀ other found, table.lookup other = some found → other = sessionId
  row : ∃ row, table.lookup sessionId = some row ∧ row.challengeId = challengeId ∧
    row.choice = selection.stored challengeId ∧
    (state.authority.challenges.lookup challengeId).map (·.expiresAtUnixSeconds) =
      some row.challengeExpiresAtUnixSeconds

theorem Agreed.holds_of_record (hagreed : Agreed challengeId maybeLast state)
    {selection : PoolSelection deps} {intake : PoolSelectionIntake deps}
    (hintake : state.intake challengeId selection = .ok intake) {written : PoolSelectionTable}
    (hwritten : state.rawSelections.recordPoolSelection intake = .ok written) :
    Holds challengeId state written intake.sessionId selection := by
  obtain ⟨challenge, hchallenge, hsession, hsame, hselection, hexpires⟩ := intake_eq_ok hintake
  simp only [PoolSelectionTable.recordPoolSelection, bind_eq_ok] at hwritten
  obtain ⟨row, hrow, hwritten⟩ := hwritten
  obtain ⟨hrowChallenge, hchoice, hrowExpires⟩ := PoolSelectionIntake.row_eq_ok hrow
  rw [hsame] at hrowChallenge hchoice
  rw [hselection] at hchoice
  have honly : ∀ other found, state.rawSelections.lookup other = some found →
      other = intake.sessionId := by
    intro other found hfound
    have hother := hagreed.session other found hfound
    rw [hsession, Except.ok.injEq] at hother
    exact hother.symm
  split at hwritten
  · next kept hkept =>
      have hkeptChallenge := (hagreed.choice _ kept hkept).1
      rw [if_pos (hkeptChallenge.trans hrowChallenge.symm)] at hwritten
      cases hwritten
      refine ⟨hsession, ?_, kept.replacedBy row, ?_, hkeptChallenge, hchoice, ?_⟩
      · intro other found hfound
        by_cases heq : other = intake.sessionId
        · exact heq
        · rw [Rows.lookup_updateRow_ne heq] at hfound
          exact honly other found hfound
      · rw [Rows.lookup_updateRow, hkept, Option.map_some]
      · exact hagreed.deadline _ kept hkept
  · split at hwritten
    · cases hwritten
    · cases hwritten
      refine ⟨hsession, ?_, row, AList.lookup_insert _, hrowChallenge, hchoice, ?_⟩
      · intro other found hfound
        by_cases heq : other = intake.sessionId
        · exact heq
        · rw [AList.lookup_insert_ne heq] at hfound
          exact honly other found hfound
      · rw [hchallenge, Option.map_some, hrowExpires, hexpires]

theorem Holds.storedRow {table : PoolSelectionTable} {sessionId : WorkSessionId}
    {selection : PoolSelection deps} (hholds : Holds challengeId state table sessionId selection)
    (hraw : after.rawSelections = table) :
    (after.storedRow challengeId).map SessionPoolSelectionRow.choice =
      some (selection.stored challengeId) := by
  obtain ⟨row, hrow, -, hchoice, -⟩ := hholds.row
  rw [ClaimantPoolState.storedRow, hholds.session]
  show (after.rawSelections.lookup sessionId).map _ = _
  rw [hraw, hrow, Option.map_some, hchoice]

/-- A record in order keeps the invariant, with what it recorded. -/
theorem Agreed.record (hagreed : Agreed challengeId maybeLast state) {table : PoolSelectionTable}
    {sessionId : WorkSessionId} {selection : PoolSelection deps}
    (hholds : Holds challengeId state table sessionId selection)
    (hauthority : after.authority = state.authority) (hraw : after.rawSelections = table)
    (hclock : after.clock = state.clock) (hlatest : after.latest = state.latest)
    (hordered : (state.consentedSelection challengeId).isSome → maybeLast = some selection) :
    Agreed challengeId (some selection) after where
  clock := by
    rw [hclock, hlatest]
    exact hagreed.clock
  issued := by
    rw [hauthority]
    exact hagreed.issued
  recorded := by
    intro
    obtain ⟨row, -, -, -, hdeadline⟩ := hholds.row
    obtain ⟨challenge, hchallenge, -⟩ := Option.map_eq_some_iff.mp hdeadline
    rw [hauthority, hchallenge]
    simp
  session := by
    intro other found hfound
    rw [hraw] at hfound
    rw [hholds.only other found hfound]
    exact hholds.session
  choice := by
    intro other found hfound
    rw [hraw] at hfound
    obtain ⟨row, hrow, hchallenge, hchoice, -⟩ := hholds.row
    rw [hholds.only other found hfound, hrow, Option.some.injEq] at hfound
    subst hfound
    exact ⟨hchallenge, by rw [hchoice]; rfl⟩
  deadline := by
    intro other found hfound
    rw [hraw] at hfound
    obtain ⟨row, hrow, -, -, hdeadline⟩ := hholds.row
    rw [hholds.only other found hfound, hrow, Option.some.injEq] at hfound
    subst hfound
    rw [hauthority]
    exact hdeadline
  kept := by
    intro _ _
    obtain ⟨row, hrow, -⟩ := hholds.row
    refine ⟨row, ?_⟩
    rw [ClaimantPoolState.storedRow, hholds.session]
    show after.rawSelections.lookup sessionId = some row
    rw [hraw, hrow]
  ordered := by
    intro consented hconsented
    have hbefore : state.consentedSelection challengeId = some consented := by
      rw [← hconsented, consentedSelection, consentedSelection, isLive, isLive, hauthority, hlatest]
    obtain ⟨last, hlast, hoffer, hcommitment⟩ := hagreed.ordered consented hbefore
    rw [hordered (by rw [hbefore]; rfl), Option.some.injEq] at hlast
    subst hlast
    exact ⟨selection, rfl, hoffer, hcommitment⟩

theorem storedRow_eq_some {row : SessionPoolSelectionRow}
    (h : state.storedRow challengeId = some row) :
    ∃ sessionId, claimantSessionId deps challengeId = .ok sessionId ∧
      state.rawSelections.lookup sessionId = some row := by
  simp only [storedRow] at h
  split at h
  · cases h
  · next sessionId hsession => exact ⟨sessionId, hsession, h⟩

/-- While the challenge is not over, the choice recorded last is the one stored. -/
theorem Agreed.stored (hagreed : Agreed challengeId maybeLast state)
    (hlive : state.isLive challengeId = true) {last : PoolSelection deps}
    (hlast : maybeLast = some last) :
    (state.storedRow challengeId).map SessionPoolSelectionRow.choice =
      some (last.stored challengeId) := by
  obtain ⟨row, hrow⟩ := hagreed.kept (by rw [hlast]; simp) hlive
  obtain ⟨sessionId, -, hlookup⟩ := storedRow_eq_some hrow
  have hchoice := (hagreed.choice sessionId row hlookup).2
  rw [hlast] at hchoice
  rw [hrow, Option.map_some, ← hchoice]
  rfl

/-- The invariant says what the Pool Adapter mines for. -/
theorem Agreed.minesConsented (hagreed : Agreed challengeId maybeLast state) :
    state.MinesConsented challengeId := by
  intro consented hconsented
  have hlive := (consentedSelection_eq_some.mp hconsented).1
  obtain ⟨last, hlast, hoffer, hcommitment⟩ := hagreed.ordered consented hconsented
  have hstored := hagreed.stored hlive hlast
  obtain ⟨row, hrow, hchoice⟩ := Option.map_eq_some_iff.mp hstored
  refine ⟨row, last, hrow, hchoice, hoffer, hcommitment, ?_⟩
  intro sessionId upstreamSecret authorization hsession hauthorized
  obtain ⟨found, hfound, hlookup⟩ := storedRow_eq_some hrow
  rw [hsession, Except.ok.injEq] at hfound
  subst hfound
  rw [PoolSelectionTable.sessionUpstreamAuthorization, hlookup] at hauthorized
  dsimp only at hauthorized
  rw [if_neg (Nat.not_le.mpr (hagreed.unexpired hlive hlookup))] at hauthorized
  obtain ⟨derived, hderived, hsame⟩ := map_eq_ok.mp hauthorized
  cases hsame
  obtain ⟨hselection, husername⟩ := SessionPoolSelectionRow.upstreamAuthorization_eq_ok hderived
  have hcolumns := StoredChoice.mk.inj hchoice
  rw [hselection, husername, hcolumns.1, hcolumns.2.2.1, hcolumns.2.2.2, ← hoffer, ← hcommitment]
  exact ⟨rfl, rfl⟩

/-- What is kept from one state to the next, besides the invariant. -/
structure KeptByStep (challengeId : ChallengeId) (state after : ClaimantPoolState deps) :
    Prop where
  challenges : state.authority.NeverReopens after.authority
  latest : state.latest ≤ after.latest
  consented : after.isLive challengeId = true → (state.consentedSelection challengeId).isSome →
    (after.consentedSelection challengeId).isSome
  choice : state.KeepsChoice challengeId after

/-- A step in order keeps the agreement. -/
theorem Agreed.step {event : ClaimantPoolEvent deps} {reply : ClaimantPoolReply deps}
    {history : List (ClaimantPoolEvent deps × ClaimantPoolReply deps)}
    (hagreed : Agreed challengeId (lastRecorded history) state)
    (heffect : StepEffect challengeId state event after reply)
    (horder : state.inOrder challengeId (lastRecorded history) event = true) :
    Agreed challengeId (lastRecorded ((event, reply) :: history)) after ∧
      KeptByStep challengeId state after := by
  cases heffect with
  | keeps hlater hsame hreply =>
      rw [lastRecorded_of_silent hreply]
      constructor
      · apply hagreed.later hlater
        intro consented hconsented
        obtain ⟨hlive, hlookup, hstatus⟩ := consentedSelection_eq_some.mp hconsented
        have hbefore := (hsame consented hstatus).mp hlookup
        have hissued := hagreed.issued (by rw [hbefore]; simp)
        exact hagreed.ordered consented
          (consentedSelection_eq_some.mpr ⟨hlater.isLive_of hissued hlive, hbefore, hstatus⟩)
      · refine ⟨hlater.challenges, hlater.latest, ?_, ?_⟩
        · intro hlive hsome
          obtain ⟨consented, hconsented⟩ := Option.isSome_iff_exists.mp hsome
          obtain ⟨-, hlookup, hstatus⟩ := consentedSelection_eq_some.mp hconsented
          apply Option.isSome_iff_exists.mpr
          exact ⟨consented, consentedSelection_eq_some.mpr
            ⟨hlive, (hsame consented hstatus).mpr hlookup, hstatus⟩⟩
        · intro _ hlive
          rw [hlater.storedRow_eq hlive]
  | @consents requestId maybePoolOffers selection proposed standing instant _ _ hcall hconfirmed
      hlater hselection hreply =>
      rw [lastRecorded_of_silent hreply]
      constructor
      · apply hagreed.later hlater
        intro consented hconsented
        obtain ⟨hlive, hlookup, -⟩ := consentedSelection_eq_some.mp hconsented
        rw [hselection, Option.some.injEq] at hlookup
        subst hlookup
        have hstanding := AuthorityDatabase.proposalConfirmed_eq_some hconfirmed
        have hissued := hagreed.issued (by rw [hstanding]; simp)
        simp only [inOrder, hcall, confirmsInOrder, hconfirmed, hlater.isLive_of hissued hlive,
          Bool.not_true, Bool.false_or, Option.any_eq_true, Bool.and_eq_true, beq_iff_eq] at horder
        exact horder
      · refine ⟨hlater.challenges, hlater.latest, ?_, ?_⟩
        · intro hlive _
          apply Option.isSome_iff_exists.mpr
          exact ⟨_, consentedSelection_eq_some.mpr ⟨hlive, hselection, rfl⟩⟩
        · intro _ hlive
          rw [hlater.storedRow_eq hlive]
  | @records requestId maybePoolOffers selection proposed intake written _ hcall hintake hwritten
      hauthority hraw hclock hlatest =>
      have hholds := hagreed.holds_of_record hintake hwritten
      have hrecordable : state.isRecordable challengeId selection = true := by
        simp only [PoolSelectionTable.recordPoolSelection, bind_eq_ok] at hwritten
        obtain ⟨row, hrow, -⟩ := hwritten
        rw [isRecordable, hintake]
        show intake.row.toOption.isSome = true
        rw [hrow]
        rfl
      have hordered : (state.consentedSelection challengeId).isSome →
          lastRecorded history = some selection := by
        intro hsome
        simpa [inOrder, hcall, recordsInOrder, hsome, hrecordable] using horder
      constructor
      · exact hagreed.record hholds hauthority hraw hclock hlatest hordered
      · refine ⟨.of_eq (by rw [hauthority]), hlatest.ge, ?_, ?_⟩
        · intro _ hsome
          rwa [consentedSelection, isLive, hauthority, hlatest]
        · intro hsome _
          obtain ⟨consented, hconsented⟩ := Option.isSome_iff_exists.mp hsome
          have hlive := (consentedSelection_eq_some.mp hconsented).1
          rw [hholds.storedRow hraw, hagreed.stored hlive (hordered hsome)]

end ClaimantPoolState

end WorkGate
