/-
# Whom the Pool Adapter mines for

As long as every record comes in the order of the consent, the Pool Adapter mines for the
choice the Authority was consented, and goes on doing so; the first step out of that order
ends it.
-/

import WorkGate.Authority.PoolAgreement

namespace WorkGate

open WorkGate.Library

variable {deps : Dependencies} {challengeId : ChallengeId}

namespace ClaimantPoolState

variable {state : ClaimantPoolState deps}
  {history : List (ClaimantPoolEvent deps × ClaimantPoolReply deps)}

theorem agreed_of_run (hrun : (orderedClaimantPool deps challengeId).Run history state) :
    Agreed challengeId (lastRecorded history) state := by
  refine Machine.Run.invariant (P := fun h s => Agreed challengeId (lastRecorded h) s) ?_ ?_ hrun
  · constructor
    · exact le_rfl
    · intro hselection
      exact absurd rfl hselection
    · intro hlast
      exact absurd rfl hlast
    · intro sessionId row hrow
      cases hrow
    · intro sessionId row hrow
      cases hrow
    · intro sessionId row hrow
      cases hrow
    · intro hlast
      exact absurd rfl hlast
    · intro consented hconsented
      cases hconsented
  · intro h s event hadmits hagreed
    exact (hagreed.step (hagreed.effect_of_step hadmits.1) hadmits.2).1

/-- Along a run in order, consent and the choice stored under it stay until the challenge is
over. -/
theorem keepsChoice_of_continues (hrun : (orderedClaimantPool deps challengeId).Run history state)
    {later : List (ClaimantPoolEvent deps × ClaimantPoolReply deps)}
    {reached : ClaimantPoolState deps}
    (hcontinues : (orderedClaimantPool deps challengeId).Continues history state later reached) :
    state.KeepsChoice challengeId reached := by
  intro hconsented
  have hissued : state.authority.challenges.lookup challengeId ≠ none := by
    obtain ⟨consented, hfound⟩ := Option.isSome_iff_exists.mp hconsented
    obtain ⟨challenge, hchallenge, -⟩ := isLive_iff.mp (consentedSelection_eq_some.mp hfound).1
    rw [hchallenge]
    simp
  have hkept : Agreed challengeId (lastRecorded later) reached ∧
      reached.authority.challenges.lookup challengeId ≠ none ∧
      (reached.isLive challengeId = true →
        (reached.consentedSelection challengeId).isSome ∧
        (reached.storedRow challengeId).map SessionPoolSelectionRow.choice =
          (state.storedRow challengeId).map SessionPoolSelectionRow.choice) := by
    induction hcontinues with
    | refl => exact ⟨agreed_of_run hrun, hissued, fun _ => ⟨hconsented, rfl⟩⟩
    | @extend before middle prior event hadmits ih =>
        obtain ⟨hagreed, hfound, hstays⟩ := ih
        obtain ⟨hnext, hstep⟩ := hagreed.step (hagreed.effect_of_step hadmits.1) hadmits.2
        obtain ⟨challenge, hchallenge⟩ := Option.ne_none_iff_exists'.mp hfound
        obtain ⟨kept, hkept, -⟩ := hstep.challenges challengeId challenge hchallenge
        refine ⟨hnext, Option.ne_none_iff_exists'.mpr ⟨kept, hkept⟩, ?_⟩
        intro hlive
        obtain ⟨hsome, hchoice⟩ :=
          hstays (isLive_of_later hstep.challenges hstep.latest hfound hlive)
        exact ⟨hstep.consented hlive hsome, (hstep.choice hsome hlive).trans hchoice⟩
  exact fun hlive => (hkept.2.2 hlive).2

/-- A record out of order replaces the choice that was consented to. -/
theorem Agreed.record_parts {maybeLast : Option (PoolSelection deps)}
    (hagreed : Agreed challengeId maybeLast state) {requestId : ℕ}
    {selection : PoolSelection deps} {proposed : PoolSelectionCommitment}
    (hcall : state.calls.lookup requestId = some ⟨selection, .record proposed⟩)
    (maybePoolOffers : Option (Option (List PoolOffer)))
    (horder : state.recordsInOrder challengeId maybeLast selection = false) :
    ¬ state.KeepsChoice challengeId
      (state.step challengeId (.proceed requestId maybePoolOffers)).1 := by
  simp only [recordsInOrder, Bool.or_eq_false_iff, Bool.not_eq_false', Bool.and_eq_true,
    decide_eq_false_iff_not] at horder
  obtain ⟨⟨hsome, hrecordable⟩, hother⟩ := horder
  obtain ⟨consented, hconsented⟩ := Option.isSome_iff_exists.mp hsome
  have hlive := (consentedSelection_eq_some.mp hconsented).1
  obtain ⟨last, hlast, -⟩ := hagreed.ordered consented hconsented
  have hstored := hagreed.stored hlive hlast
  cases hintake : state.intake challengeId selection with
  | error error =>
      rw [isRecordable, hintake] at hrecordable
      cases hrecordable
  | ok intake =>
      cases hrow : intake.row with
      | error error =>
          rw [isRecordable, hintake] at hrecordable
          dsimp only at hrecordable
          rw [hrow] at hrecordable
          cases hrecordable
      | ok row =>
          -- The session has a row of this challenge already, so the table takes the record.
          obtain ⟨challenge, -, hsession, hsame, -⟩ := intake_eq_ok hintake
          obtain ⟨kept, hkept⟩ := hagreed.kept (by rw [hlast]; simp) hlive
          obtain ⟨sessionId, hfound, hlookup⟩ := storedRow_eq_some hkept
          rw [hsession, Except.ok.injEq] at hfound
          subst hfound
          have hwritten : state.rawSelections.recordPoolSelection intake =
              .ok (state.rawSelections.updateRow intake.sessionId (·.replacedBy row)) := by
            have hchallenge : kept.challengeId = row.challengeId := by
              rw [(hagreed.choice _ kept hlookup).1, (PoolSelectionIntake.row_eq_ok hrow).1, hsame]
            simp only [PoolSelectionTable.recordPoolSelection, hrow, hlookup]
            show (if kept.challengeId = row.challengeId then _ else _) = _
            rw [if_pos hchallenge]
          have hafter : (state.step challengeId (.proceed requestId maybePoolOffers)).1 =
              ({ state with rawSelections :=
                state.rawSelections.updateRow intake.sessionId (·.replacedBy row) }).advance
                  requestId ⟨selection, .record proposed⟩ (.confirm proposed) := by
            simp only [ClaimantPoolState.step, hcall, proceed, ClaimantPoolState.record, hintake,
              hwritten]
          intro hkeeps
          have hnew := hkeeps hsome (by rw [hafter]; exact hlive)
          have hholds := hagreed.holds_of_record hintake hwritten
          rw [hholds.storedRow (by rw [hafter]; rfl), hstored, Option.some.injEq] at hnew
          exact hother (by rw [hlast, PoolSelection.eq_of_stored hnew])

/-- A confirmation out of order consents to a choice that is not the one stored. -/
theorem Agreed.confirm_parts {maybeLast : Option (PoolSelection deps)}
    (hagreed : Agreed challengeId maybeLast state) {requestId : ℕ}
    {selection : PoolSelection deps} {proposed : PoolSelectionCommitment}
    (hcall : state.calls.lookup requestId = some ⟨selection, .confirm proposed⟩)
    (maybePoolOffers : Option (Option (List PoolOffer)))
    (horder : state.confirmsInOrder challengeId maybeLast proposed = false) :
    ¬ (state.step challengeId (.proceed requestId maybePoolOffers)).1.MinesConsented
      challengeId := by
  have hafter : (state.step challengeId (.proceed requestId maybePoolOffers)).1 =
      (state.confirm challengeId requestId proposed).1 := by
    simp only [ClaimantPoolState.step, hcall, proceed]
  rw [hafter]
  simp only [confirmsInOrder] at horder
  split at horder
  · cases horder
  · next standing hconfirmed =>
      rw [Bool.or_eq_false_iff, Bool.not_eq_false'] at horder
      obtain ⟨hlive, hother⟩ := horder
      have hstanding := AuthorityDatabase.proposalConfirmed_eq_some hconfirmed
      rcases state.authority.confirmPoolSelection_writes challengeId proposed.commitment
        state.clock with ⟨-, hnone⟩ | ⟨found, instant, hfound, hwritten⟩
      · rw [hconfirmed] at hnone
        cases hnone
      · rw [hconfirmed, Option.some.injEq] at hfound
        subst hfound
        have hauthority : (state.confirm challengeId requestId proposed).1.authority =
          (state.authority.confirmPoolSelection challengeId proposed.commitment
            state.clock).1 := rfl
        rw [hwritten] at hauthority
        have hconsented : (state.confirm challengeId requestId proposed).1.consentedSelection
            challengeId = some (AuthorityDatabase.consentedRow instant standing) := by
          apply consentedSelection_eq_some.mpr
          refine ⟨?_, ?_, rfl⟩
          · rw [isLive, hauthority]
            exact hlive
          · rw [hauthority]
            show (state.authority.poolSelections.updateRow challengeId _).lookup challengeId = _
            rw [Rows.lookup_updateRow, hstanding, Option.map_some]
        intro hmines
        obtain ⟨row, chosen, hrow, hchoice, hoffer, hcommitment, -⟩ := hmines _ hconsented
        obtain ⟨sessionId, -, hlookup⟩ := storedRow_eq_some (show state.storedRow challengeId =
          some row from hrow)
        have hlast := (hagreed.choice sessionId row hlookup).2
        rw [hchoice] at hlast
        obtain ⟨last, hsome, hsame⟩ := Option.map_eq_some_iff.mp hlast
        rw [PoolSelection.eq_of_stored hsame] at hsome
        have hmatches : (chosen.offerId == standing.poolOfferId &&
            chosen.commitment challengeId == standing.payoutCommitment) = true := by
          rw [hoffer, hcommitment]
          simp [AuthorityDatabase.consentedRow]
        rw [hsome, Option.any_some, hmatches] at hother
        cases hother

end ClaimantPoolState

open ClaimantPoolState in
/-- For every order of the steps of concurrent calls, and of whatever else the Authority and
the Pool Adapter do: as long as the records come in the order of the consent, the Pool Adapter
holds and authorizes exactly the choice consented to, and keeps it until the challenge is over;
and the first step out of that order ends one or the other. -/
theorem claimantPool_minesConsented (deps : Dependencies) (challengeId : ChallengeId)
    {history : List (ClaimantPoolEvent deps × ClaimantPoolReply deps)}
    {state : ClaimantPoolState deps}
    (hrun : (orderedClaimantPool deps challengeId).Run history state) :
    state.MinesConsented challengeId ∧
    (∀ later reached,
      (orderedClaimantPool deps challengeId).Continues history state later reached →
        state.KeepsChoice challengeId reached) ∧
    (∀ event, (claimantPool deps challengeId).admits history state event →
      state.inOrder challengeId (lastRecorded history) event = false →
        ¬ ((state.step challengeId event).1.MinesConsented challengeId ∧
          state.KeepsChoice challengeId (state.step challengeId event).1)) := by
  have hagreed := agreed_of_run hrun
  refine ⟨hagreed.minesConsented, fun later reached hcontinues =>
    keepsChoice_of_continues hrun hcontinues, ?_⟩
  intro event _ horder hboth
  cases event with
  | proceed requestId maybePoolOffers =>
      simp only [inOrder] at horder
      split at horder
      · next selection proposed hcall =>
          exact hagreed.record_parts hcall maybePoolOffers horder hboth.2
      · next selection proposed hcall =>
          exact hagreed.confirm_parts hcall maybePoolOffers horder hboth.1
      · cases horder
  | _ => cases horder

/-! ## Two calls for one challenge -/

section Sample

def sharedChallengeId : ChallengeId := ⟨"challenge_a", isChallengeId_a⟩

/-- What the two choices and their session are the digests of. -/
def choiceDigests : List (List UInt8 × List UInt8) :=
  [(selectionPreimage sharedChallengeId "pool_offer_hydra_solo_v1"
      (.bitcoinAddress "bc1qw508d6qejxtdg4y5r3zarvary0c5xw7kv8f3t4"),
    [151, 170, 96, 56, 56, 45, 104, 73, 141, 128, 72, 178, 17, 181, 36, 100, 60, 104, 129, 77, 28,
      28, 170, 201, 125, 228, 6, 14, 240, 177, 238, 117]),
   (selectionPreimage sharedChallengeId "pool_offer_hydra_solo_v1"
      (.bitcoinAddress "bc1qar0srrr7xfkvy5l643lydnw9re59gtzzwf5mdq"),
    [172, 157, 73, 108, 80, 157, 24, 187, 195, 225, 233, 248, 172, 199, 252, 1, 211, 160, 61, 47,
      77, 89, 19, 167, 185, 160, 11, 167, 134, 226, 224, 202]),
   (asBytes "BWG/0.1 claimant Work Session\x00" ++ asBytes "challenge_a",
    [142, 119, 120, 164, 229, 248, 40, 186, 90, 9, 1, 80, 45, 82, 202, 130, 3, 239, 8, 66, 236, 218,
      137, 227, 39, 243, 223, 178, 239, 236, 107, 226])]

def choiceDeps : Dependencies := .ofTables [] [] choiceDigests

def firstSelection : PoolSelection choiceDeps :=
  ⟨"pool_offer_hydra_solo_v1", .bitcoinAddress "bc1qw508d6qejxtdg4y5r3zarvary0c5xw7kv8f3t4",
    by decide +kernel⟩

def secondSelection : PoolSelection choiceDeps :=
  ⟨"pool_offer_hydra_solo_v1", .bitcoinAddress "bc1qar0srrr7xfkvy5l643lydnw9re59gtzzwf5mdq",
    by decide +kernel⟩

/-- A call's next step, with the offers its challenge discloses. -/
def nextStep (requestId : ℕ) : ClaimantPoolEvent choiceDeps :=
  .proceed requestId (some (some [⟨"pool_offer_hydra_solo_v1",
    ["bitcoin_mainnet_address", "approved_beneficiary"], []⟩]))

/-- Two calls that have both proposed, the second one after the first. -/
def proposedEvents : List (ClaimantPoolEvent choiceDeps) :=
  [.authority (.insertChallenge ⟨sharedChallengeId, ⟨Uint256.one, toNat_one_pos⟩, 900, "seed", false⟩),
    .clock 10, .selectPool 1 firstSelection, .selectPool 2 secondSelection, nextStep 1, nextStep 2]

/-- Both record, and the later record is the one confirmed. -/
def orderedRecordEvents : List (ClaimantPoolEvent choiceDeps) :=
  proposedEvents ++ [nextStep 1, nextStep 2, nextStep 2]

theorem orderedRecordEvents_minesConsented :
    ∃ consented row, ∃ selection : PoolSelection choiceDeps,
      ((claimantPool choiceDeps sharedChallengeId).replay orderedRecordEvents).2.consentedSelection
        sharedChallengeId = some consented ∧
      ((claimantPool choiceDeps sharedChallengeId).replay orderedRecordEvents).2.storedRow
        sharedChallengeId = some row ∧
      row.choice = selection.stored sharedChallengeId ∧
      selection.offerId = consented.poolOfferId ∧
      selection.commitment sharedChallengeId = consented.payoutCommitment := by
  have hruns : (orderedClaimantPool choiceDeps sharedChallengeId).AdmitsAll
        ([], (orderedClaimantPool choiceDeps sharedChallengeId).init) orderedRecordEvents ∧
      (((claimantPool choiceDeps sharedChallengeId).replay
        orderedRecordEvents).2.consentedSelection sharedChallengeId).isSome = true := by
    decide +kernel
  obtain ⟨hadmits, hconsents⟩ := hruns
  have hmines := (claimantPool_minesConsented choiceDeps sharedChallengeId
    (Machine.run_replay orderedRecordEvents hadmits)).1
  obtain ⟨consented, hconsented⟩ := Option.isSome_iff_exists.mp hconsents
  obtain ⟨row, selection, hrow, hchoice, hoffer, hcommitment, -⟩ := hmines consented hconsented
  exact ⟨consented, row, selection, hconsented, hrow, hchoice, hoffer, hcommitment⟩

/-- The first call records only after the second was confirmed. -/
def lateRecordEvents : List (ClaimantPoolEvent choiceDeps) :=
  proposedEvents ++ [nextStep 2, nextStep 2, nextStep 1]

/-- The challenge is not over and the second choice consented to, but the first one is
stored. -/
theorem lateRecordEvents_diverted :
    (claimantPool choiceDeps sharedChallengeId).Run
      ((claimantPool choiceDeps sharedChallengeId).replay lateRecordEvents).1
      ((claimantPool choiceDeps sharedChallengeId).replay lateRecordEvents).2 ∧
    ¬ ((claimantPool choiceDeps sharedChallengeId).replay lateRecordEvents).2.MinesConsented
      sharedChallengeId := by
  refine ⟨Machine.run_replay lateRecordEvents
    ⟨rfl, trivial, trivial, trivial, trivial, trivial, trivial, trivial, trivial, trivial⟩, ?_⟩
  have hends : (((claimantPool choiceDeps sharedChallengeId).replay
        lateRecordEvents).2.consentedSelection sharedChallengeId).map (·.payoutCommitment) =
          some "ac9d496c509d18bbc3e1e9f8acc7fc01d3a03d2f4d5913a7b9a00ba786e2e0ca" ∧
      (((claimantPool choiceDeps sharedChallengeId).replay lateRecordEvents).2.storedRow
        sharedChallengeId).map (·.payoutCommitment) =
          some "97aa6038382d68498d8048b211b524643c68814d1c1caac97de4060ef0b1ee75" := by
    decide +kernel
  obtain ⟨hconsents, hstores⟩ := hends
  obtain ⟨consented, hconsented, hcommitment⟩ := Option.map_eq_some_iff.mp hconsents
  intro hmines
  obtain ⟨row, selection, hrow, hchoice, -, hsame, -⟩ := hmines consented hconsented
  have hcolumn : row.payoutCommitment = consented.payoutCommitment := by
    rw [← hsame]
    exact congrArg StoredChoice.payoutCommitment hchoice
  rw [hrow, Option.map_some, Option.some.injEq, hcolumn, hcommitment] at hstores
  exact absurd hstores (by decide)

end Sample

end WorkGate
