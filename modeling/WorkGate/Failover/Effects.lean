/-
# What a step does to sessions and decisions

A step of the store leaves the registrations and the decisions alone, registers a session,
replaces one, or stores a decision.  The invariants of replacement and of consented terms go
through these cases and never unfold a transaction again.
-/

import WorkGate.Authority.Fencing
import WorkGate.Authority.Frames
import WorkGate.Failover.Replacing

namespace WorkGate

open WorkGate.Library

/-- A decision without its confirmation. -/
def DecisionColumns.decided (columns : DecisionColumns) : DecisionColumns :=
  { columns with maybeConfirmation := none }

namespace FailoverDatabase

variable {world : OfferWorld} {db after : FailoverDatabase}

/-- The decisions, without their confirmations. -/
def decided (db : FailoverDatabase) (replacedSessionId : WorkSessionId) : Option DecisionColumns :=
  (db.decisions.lookup replacedSessionId).map DecisionColumns.decided

/-- What a new decision writes into the columns that sessions do not read. -/
def newDecision (input : PersistPoolOfferReplacement) (decidedAt : ℕ) : DecisionColumns where
  challengeId := input.challengeId
  priorOffer := input.priorOffer
  candidateOffer := input.candidateOffer
  candidateSignature := input.candidateSignature
  candidateSetDigest := input.candidateSetDigest
  change := input.change
  decidedAtUnixSeconds := decidedAt
  maybeConfirmation := none

/-- A session is added, the others are registered as before. -/
def AddsSession (db after : AuthorityDatabase) (sessionId : WorkSessionId) (row : SessionRow) :
    Prop :=
  ∀ other, after.registrations other =
    if other = sessionId then some row.registration else db.registrations other

/-- A decision is stored for a predecessor that had none. -/
structure StoresDecision (db after : FailoverDatabase) (input : PersistPoolOfferReplacement) :
    Prop where
  undecided : input.replacedSessionId ∉ db.authority.replacements
  known : input.replacedSessionId ∈ db.authority.sessions
  fresh : input.candidateSessionId ∉ db.authority.sessions
  unique : ∀ other row, db.authority.replacements.lookup other = some row →
    row.candidateSessionId ≠ input.candidateSessionId
  unreplaced : ∀ other row, db.authority.sessions.lookup other = some row →
    row.replacesSessionId ≠ some input.replacedSessionId
  replacements : after.authority.replacements = db.authority.replacements.insert
    input.replacedSessionId ⟨input.candidateSessionId, input.change.isMaterial⟩
  decisions : ∃ decidedAt, after.decisions =
    db.decisions.insert input.replacedSessionId (newDecision input decidedAt)

/-- The decisions are those there were. -/
structure KeepsDecisions (db after : FailoverDatabase) : Prop where
  replacements : after.authority.replacements = db.authority.replacements
  decided : after.decided = db.decided

/-- The effects of the store's steps. -/
inductive Effect (db after : FailoverDatabase) : Prop
  | keeps (hregistrations : after.authority.registrations = db.authority.registrations)
      (hflags : ∀ sessionId, db.authority.flags sessionId = some true →
        after.authority.flags sessionId = some true)
      (hdecisions : KeepsDecisions db after)
  | registers (sessionId : WorkSessionId) (row : SessionRow)
      (hfresh : sessionId ∉ db.authority.sessions)
      (hunreserved : db.authority.reservedPredecessor sessionId = none)
      (hchallenge : row.challengeId ∈ db.authority.challenges)
      (hready : row.replacesSessionId = none ∧ row.replacementGeneration = 0)
      (hadds : AddsSession db.authority after.authority sessionId row)
      (hflags : ∀ other, other ≠ sessionId → after.authority.flags other = db.authority.flags other)
      (hdecisions : KeepsDecisions db after)
  | replaces (replacedSessionId sessionId : WorkSessionId) (row : SessionRow) (released : Bool)
      (hmay : db.authority.MayReplace replacedSessionId sessionId released)
      (hnew : db.authority.NewReplacement replacedSessionId sessionId row)
      (hadds : AddsSession db.authority after.authority sessionId row)
      (hflags : ∀ other, after.authority.flags other =
        if other = sessionId then some released else db.authority.flags other)
      (hdecisions : KeepsDecisions db after)
  | decides (input : PersistPoolOfferReplacement) (row : SessionRow)
      (hequivalent : input.change.isMaterial = false) (hstores : StoresDecision db after input)
      (hnew : db.authority.NewReplacement input.replacedSessionId input.candidateSessionId row)
      (hadds : AddsSession db.authority after.authority input.candidateSessionId row)
      (hflags : ∀ other, other ≠ input.candidateSessionId →
        after.authority.flags other = db.authority.flags other)
  | holds (input : PersistPoolOfferReplacement) (hmaterial : input.change.isMaterial = true)
      (hstores : StoresDecision db after input)
      (hregistrations : after.authority.registrations = db.authority.registrations)
      (hflags : after.authority.flags = db.authority.flags)

theorem KeepsDecisions.refl (db : FailoverDatabase) : KeepsDecisions db db := ⟨rfl, rfl⟩

theorem Effect.refl (db : FailoverDatabase) : Effect db db :=
  .keeps rfl (fun _ h => h) (.refl db)

/-! ## The Authority's transactions -/

theorem addsSession_insert {authority : AuthorityDatabase} {sessionId : WorkSessionId}
    {row : SessionRow} {sessions : Rows WorkSessionId SessionRow}
    (h : sessions = authority.sessions.insert sessionId row) :
    AddsSession authority { authority with sessions := sessions } sessionId row := by
  intro other
  simp only [AuthorityDatabase.registrations, h, Rows.lookup_insert_eq]
  split
  · rfl
  · rfl

theorem flags_insert {authority : AuthorityDatabase} {sessionId : WorkSessionId}
    {row : SessionRow} (other : WorkSessionId) :
    ({ authority with sessions := authority.sessions.insert sessionId row } :
      AuthorityDatabase).flags other =
        if other = sessionId then some row.materialTrustedConfirmationRequired
        else authority.flags other := by
  simp only [AuthorityDatabase.flags, Rows.lookup_insert_eq]
  split
  · rfl
  · rfl

theorem effect_insertWorkSession (db : FailoverDatabase) (challengeId : ChallengeId)
    (sessionId : WorkSessionId) (now : ℕ) :
    Effect db { db with
      authority := (db.authority.insertWorkSession challengeId sessionId now).1 } := by
  simp only [AuthorityDatabase.insertWorkSession]
  split
  · exact .refl db
  · next instant hopen =>
      obtain ⟨challenge, target, hchallenge, -⟩ :=
        AuthorityDatabase.SessionEffect.lockOpenChallenge_eq_ok hopen
      split
      · exact .refl db
      · split
        · exact .refl db
        · split
          · exact .refl db
          · next hunreserved =>
              split
              · exact .refl db
              · next hfresh =>
                  refine .registers sessionId _ hfresh ?_ ?_ ⟨rfl, rfl⟩ (addsSession_insert rfl)
                    ?_ ⟨rfl, rfl⟩
                  · exact Option.not_isSome_iff_eq_none.mp hunreserved
                  · exact Rows.mem_of_lookup hchallenge
                  · intro other hne
                    exact (flags_insert other).trans (if_neg hne)

theorem effect_replaceWorkSession (db : FailoverDatabase)
    (replacedSessionId sessionId : WorkSessionId) (now : ℕ) :
    Effect db { db with
      authority := (db.authority.replaceWorkSession replacedSessionId sessionId now).1 } := by
  simp only [AuthorityDatabase.replaceWorkSession]
  split
  · exact .refl db
  · next written replacement hreplaced =>
      obtain ⟨hmay, ⟨row, rfl, -⟩ | ⟨row, rfl, hnew, -⟩⟩ :=
        AuthorityDatabase.replaceWorkSessionInTransaction_spec hreplaced
      · exact .refl db
      · refine .replaces replacedSessionId sessionId row false hmay hnew (addsSession_insert rfl) ?_
          ⟨rfl, rfl⟩
        intro other
        rw [← hnew.unflagged]
        exact flags_insert other

/-- Asking for the confirmation of a session leaves its registration alone. -/
theorem registrations_flag (authority : AuthorityDatabase) (sessionId : WorkSessionId) :
    ({ authority with sessions := authority.sessions.updateRow sessionId fun row =>
      { row with materialTrustedConfirmationRequired := true } } :
        AuthorityDatabase).registrations = authority.registrations := by
  funext other
  simp only [AuthorityDatabase.registrations, Rows.lookup_updateRow_eq]
  split
  · rw [Option.map_map]
    rfl
  · rfl

theorem flags_flag {authority : AuthorityDatabase} (sessionId : WorkSessionId)
    (other : WorkSessionId) :
    ({ authority with sessions := authority.sessions.updateRow sessionId fun row =>
      { row with materialTrustedConfirmationRequired := true } } : AuthorityDatabase).flags other =
        if other = sessionId then (authority.flags other).map fun _ => true
        else authority.flags other := by
  simp only [AuthorityDatabase.flags, Rows.lookup_updateRow_eq]
  split
  · rw [Option.map_map, Option.map_map]
    rfl
  · rfl

theorem effect_releaseMaterialPoolOfferReplacement (db : FailoverDatabase)
    (replacedSessionId candidateSessionId : WorkSessionId) (now : ℕ) :
    Effect db { db with
      authority := (db.authority.releaseMaterialPoolOfferReplacement replacedSessionId
        candidateSessionId now).1 } := by
  simp only [AuthorityDatabase.releaseMaterialPoolOfferReplacement]
  split
  · exact .refl db
  · next written replacement hreplaced =>
      obtain ⟨hmay, ⟨row, rfl, -⟩ | ⟨row, rfl, hnew, -⟩⟩ :=
        AuthorityDatabase.replaceWorkSessionInTransaction_spec hreplaced
      · refine .keeps (registrations_flag _ _) ?_ ⟨rfl, rfl⟩
        intro other hflag
        refine (flags_flag candidateSessionId other).trans ?_
        rw [hflag]
        split
        · rfl
        · rfl
      · refine .replaces replacedSessionId candidateSessionId row true hmay hnew ?_ ?_ ⟨rfl, rfl⟩
        · intro other
          exact (congrFun (registrations_flag _ _) other).trans (addsSession_insert rfl other)
        · intro other
          refine (flags_flag candidateSessionId other).trans ?_
          rw [flags_insert]
          split
          · rfl
          · rfl

/-- The tables of consent are the same after every other transaction. -/
theorem replacements_step (authority : AuthorityDatabase) {request : AuthorityRequest}
    (hother : (FailoverRequest.authority request).bypasses = false) :
    (authorityStep authority request).1.replacements = authority.replacements := by
  by_cases hside : request.isSide = false
  · exact congrArg (fun side => side.2.2.2) (AuthorityDatabase.sideTables_step authority hside)
  · cases request with
    | proposePoolSelection selected poolOfferId payoutCommitment now =>
        simp only [authorityStep, answer, AuthorityDatabase.proposePoolSelection]
        repeat' split
        all_goals rfl
    | confirmPoolSelection selected payoutCommitment now =>
        simp only [authorityStep, answer, AuthorityDatabase.confirmPoolSelection]
        repeat' split
        all_goals rfl
    | consumeIssuanceProof selected proofId expiresAt now =>
        simp only [authorityStep, answer, AuthorityDatabase.consumeIssuanceProof]
        repeat' split
        all_goals rfl
    | maybeClaimIssuance workerId now leaseExpiresAt locked =>
        rcases authority.sideTables_maybeClaimIssuance workerId now leaseExpiresAt locked with
          hkept | hexpired
        · exact congrArg (fun side => side.2.2.2) hkept
        · exact congrArg (fun side => side.2.2.2) hexpired
    | consentTables ceremonies replacements => cases hother
    | _ => exact absurd rfl hside

theorem effect_authority (db : FailoverDatabase) {request : AuthorityRequest}
    (hother : (FailoverRequest.authority request).bypasses = false) :
    Effect db { db with authority := (authorityStep db.authority request).1 } := by
  by_cases hregisters : request.registers = false
  · have horigins := AuthorityDatabase.origins_step db.authority hregisters
    refine .keeps (AuthorityDatabase.registrations_of_origins horigins) ?_
      ⟨replacements_step db.authority hother, rfl⟩
    intro sessionId hflag
    rw [← hflag]
    exact congrFun (AuthorityDatabase.flags_of_origins horigins) sessionId
  · cases request with
    | insertWorkSession challengeId sessionId now =>
        exact effect_insertWorkSession db challengeId sessionId now
    | replaceWorkSession replacedSessionId sessionId now =>
        exact effect_replaceWorkSession db replacedSessionId sessionId now
    | releaseMaterialPoolOfferReplacement replacedSessionId candidateSessionId now =>
        exact effect_releaseMaterialPoolOfferReplacement db replacedSessionId candidateSessionId now
    | _ => exact absurd rfl hregisters

/-! ## Decisions -/

theorem insertReplacement_cases {input : PersistPoolOfferReplacement} {decidedAt : ℕ}
    {inserted : FailoverDatabase} (h : db.insertReplacement input decidedAt = .ok inserted) :
    (input.candidateSignature.isEmpty = false ∧ validDigest input.candidateSetDigest = true ∧
        decidedAt ≠ 0) ∧
      (inserted = db ∧ input.replacedSessionId ∈ db.authority.replacements ∨
        input.replacedSessionId ∉ db.authority.replacements ∧
          (∀ other row, db.authority.replacements.lookup other = some row →
            row.candidateSessionId ≠ input.candidateSessionId) ∧
          inserted = ⟨{ db.authority with
            replacements := db.authority.replacements.insert input.replacedSessionId
              ⟨input.candidateSessionId, input.change.isMaterial⟩ },
            db.decisions.insert input.replacedSessionId (newDecision input decidedAt)⟩) := by
  rw [insertReplacement] at h
  obtain ⟨hchecks, h⟩ := guard_eq_ok h
  simp only [Bool.or_eq_true, Bool.not_eq_true', beq_iff_eq, not_or, Bool.not_eq_true,
    Bool.not_eq_false] at hchecks
  refine ⟨⟨hchecks.1.1, hchecks.1.2, hchecks.2⟩, ?_⟩
  split at h
  · next hdecided =>
      cases h
      exact .inl ⟨rfl, hdecided⟩
  · next hundecided =>
      obtain ⟨hunique, h⟩ := guard_eq_ok h
      cases h
      refine .inr ⟨hundecided, ?_, rfl⟩
      intro other row hrow hsame
      rw [Bool.not_eq_true, List.any_eq_false] at hunique
      exact hunique _ (Rows.mem_entries_iff.mpr hrow) (beq_iff_eq.mpr hsame)

theorem replacementOf_eq_none {authority : AuthorityDatabase} {replacedSessionId : WorkSessionId}
    (h : replacementOf authority replacedSessionId = none) (other : WorkSessionId)
    (row : SessionRow) (hrow : authority.sessions.lookup other = some row) :
    row.replacesSessionId ≠ some replacedSessionId := by
  intro hreplaces
  rw [replacementOf, List.find?_eq_none] at h
  exact h _ (Rows.mem_entries_iff.mpr hrow) (beq_iff_eq.mpr hreplaces)

/-- What a decision that is stored or found again went through. -/
structure Persists (db : FailoverDatabase) (input : PersistPoolOfferReplacement)
    (inserted : FailoverDatabase) (row : ReplacementRow) (columns : DecisionColumns)
    (decision : PoolOfferReplacementDecision) : Prop where
  known : ∃ predecessor, db.authority.sessions.lookup input.replacedSessionId =
    some predecessor ∧ predecessor.challengeId ∈ db.authority.challenges ∧
      predecessor.challengeId = input.challengeId
  fresh : input.candidateSessionId ∈ db.authority.sessions →
    input.replacedSessionId ∈ db.authority.replacements
  inserts : ∃ decidedAt, unixSecondsToI64 input.now = .ok decidedAt ∧
    db.insertReplacement input decidedAt = .ok inserted
  selected : inserted.selectReplacement input.replacedSessionId = some (row, columns)
  read : decisionFromRow input.replacedSessionId row columns = .ok decision
  same : decision.priorOffer = input.priorOffer ∧ decision.candidateOffer = input.candidateOffer ∧
    decision.change = input.change ∧ row.candidateSessionId = input.candidateSessionId ∧
    columns.candidateSetDigest = input.candidateSetDigest

theorem persistInTransaction_eq_ok {input : PersistPoolOfferReplacement}
    {result : FailoverDatabase × PoolOfferReplacementDecision} :
    db.persistInTransaction input = .ok result ↔
      ∃ inserted row columns decision, Persists db input inserted row columns decision ∧
        inserted.releaseEquivalent input decision = .ok result := by
  constructor
  · intro h
    simp only [persistInTransaction] at h
    split at h
    · cases h
    · next predecessor hpredecessor =>
        obtain ⟨hchallenge, h⟩ := guard_eq_ok h
        obtain ⟨hsame, h⟩ := guard_eq_ok h
        obtain ⟨hfresh, h⟩ := guard_eq_ok h
        rw [not_not] at hchallenge hsame
        rw [not_and, not_not] at hfresh
        obtain ⟨decidedAt, hinstant, h⟩ := bind_eq_ok.mp h
        obtain ⟨inserted, hinserted, h⟩ := bind_eq_ok.mp h
        split at h
        · cases h
        · next row columns hselected =>
            obtain ⟨decision, hread, h⟩ := bind_eq_ok.mp h
            obtain ⟨hequal, h⟩ := guard_eq_ok h
            simp only [not_or, not_not] at hequal
            exact ⟨inserted, row, columns, decision, ⟨⟨predecessor, hpredecessor, hchallenge,
              hsame⟩, hfresh, ⟨decidedAt, hinstant, hinserted⟩, hselected, hread, hequal⟩, h⟩
  · rintro ⟨inserted, row, columns, decision, hpersists, hreleased⟩
    obtain ⟨⟨predecessor, hpredecessor, hchallenge, hsame⟩, hfresh, ⟨decidedAt, hinstant,
      hinserted⟩, hselected, hread, hequal⟩ := hpersists
    simp only [persistInTransaction, hpredecessor]
    rw [if_neg (not_not.mpr hchallenge), if_neg (not_not.mpr hsame),
      if_neg (not_and.mpr fun hknown => not_not.mpr (hfresh hknown))]
    refine bind_eq_ok.mpr ⟨decidedAt, hinstant, bind_eq_ok.mpr ⟨inserted, hinserted, ?_⟩⟩
    rw [hselected]
    refine bind_eq_ok.mpr ⟨decision, hread, ?_⟩
    rw [if_neg]
    · exact hreleased
    · simp only [not_or, not_not]
      exact hequal

theorem effect_persist (db : FailoverDatabase) (input : PersistPoolOfferReplacement) :
    Effect db (db.persist input).1 := by
  simp only [persist]
  split
  · exact .refl db
  · next written decision hpersisted =>
      obtain ⟨inserted, row, columns, found, hpersists, hreleased⟩ :=
        persistInTransaction_eq_ok.mp hpersisted
      obtain ⟨decidedAt, -, hinserted⟩ := hpersists.inserts
      obtain ⟨predecessor, hpredecessor, -⟩ := hpersists.known
      have hknown := Rows.mem_of_lookup hpredecessor
      rw [releaseEquivalent] at hreleased
      obtain ⟨-, ⟨rfl, -⟩ | ⟨hundecided, hunique, rfl⟩⟩ := insertReplacement_cases hinserted
      · split at hreleased
        · obtain ⟨-, hreleased⟩ := guard_eq_ok hreleased
          cases hreleased
          exact .refl _
        · obtain ⟨⟨authority, replacement⟩, hreplaced, hreleased⟩ := bind_eq_ok.mp hreleased
          cases hreleased
          obtain ⟨hmay, ⟨session, rfl, -⟩ | ⟨session, rfl, hnew, -⟩⟩ :=
            AuthorityDatabase.replaceWorkSessionInTransaction_spec hreplaced
          · exact .refl _
          · refine .replaces _ _ session false hmay hnew (addsSession_insert rfl) ?_ ⟨rfl, rfl⟩
            intro other
            rw [← hnew.unflagged]
            exact flags_insert other
      · have hfresh : input.candidateSessionId ∉ db.authority.sessions := fun hcandidate =>
          hundecided (hpersists.fresh hcandidate)
        split at hreleased
        · next hmaterial =>
            obtain ⟨hunreplaced, hreleased⟩ := guard_eq_ok hreleased
            cases hreleased
            exact .holds input hmaterial ⟨hundecided, hknown, hfresh, hunique,
              replacementOf_eq_none (Option.not_isSome_iff_eq_none.mp hunreplaced), rfl,
              decidedAt, rfl⟩ rfl rfl
        · next hequivalent =>
            obtain ⟨⟨authority, replacement⟩, hreplaced, hreleased⟩ := bind_eq_ok.mp hreleased
            cases hreleased
            obtain ⟨-, ⟨session, -, hsession, -⟩ | ⟨session, rfl, hnew, -⟩⟩ :=
              AuthorityDatabase.replaceWorkSessionInTransaction_spec hreplaced
            · exact absurd (Rows.mem_of_lookup hsession) hfresh
            · refine .decides input session (Bool.eq_false_iff.mpr hequivalent) ⟨hundecided,
                hknown, hfresh, hunique, hnew.unreplaced, rfl, decidedAt, rfl⟩ ⟨hnew.fresh,
                hnew.ready, hnew.unflagged, hnew.replaces, hnew.replaced, hnew.unreplaced,
                hnew.next⟩ ?_ ?_
              · exact addsSession_insert rfl
              · intro other hne
                exact (flags_insert other).trans (if_neg hne)

/-- Filling in a confirmation leaves the decisions alone. -/
theorem decided_confirmed (db : FailoverDatabase) (replacedSessionId : WorkSessionId)
    (filled : ConfirmationColumns) :
    ({ db with decisions := db.decisions.updateRow replacedSessionId fun columns =>
      { columns with maybeConfirmation := some filled } } : FailoverDatabase).decided =
        db.decided := by
  funext other
  simp only [decided, Rows.lookup_updateRow_eq]
  split
  · rw [Option.map_map]
    rfl
  · rfl

theorem persistConfirmation_authority (world : OfferWorld) (db : FailoverDatabase)
    (confirmation : MaterialOfferConfirmation) (signatureDigestSha256 : String) :
    (db.persistConfirmation world confirmation signatureDigestSha256).1.authority =
      db.authority := by
  simp only [persistConfirmation]
  repeat' split
  all_goals rfl

theorem persistConfirmation_decided (world : OfferWorld) (db : FailoverDatabase)
    (confirmation : MaterialOfferConfirmation) (signatureDigestSha256 : String) :
    (db.persistConfirmation world confirmation signatureDigestSha256).1.decided = db.decided := by
  simp only [persistConfirmation]
  repeat' split
  all_goals first
    | rfl
    | exact decided_confirmed db _ _

theorem effect_persistConfirmation (world : OfferWorld) (db : FailoverDatabase)
    (confirmation : MaterialOfferConfirmation) (signatureDigestSha256 : String) :
    Effect db (db.persistConfirmation world confirmation signatureDigestSha256).1 := by
  have hauthority := persistConfirmation_authority world db confirmation signatureDigestSha256
  refine .keeps (by rw [hauthority]) ?_ ⟨by rw [hauthority], ?_⟩
  · intro sessionId hflag
    rw [hauthority]
    exact hflag
  · exact persistConfirmation_decided world db confirmation signatureDigestSha256

/-- Every step has one of the effects. -/
theorem effect_step (world : OfferWorld) (db : FailoverDatabase) {request : FailoverRequest}
    (hadmits : request.bypasses = false) : Effect db (failoverStep world db request).1 := by
  cases request with
  | authority request => exact effect_authority db hadmits
  | ceremonies rows => exact .keeps rfl (fun _ h => h) ⟨rfl, rfl⟩
  | persist input => exact effect_persist db input
  | persistConfirmation confirmation signatureDigestSha256 =>
      exact effect_persistConfirmation world db confirmation signatureDigestSha256

end FailoverDatabase

end WorkGate
