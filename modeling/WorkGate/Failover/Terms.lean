/-
# Consented terms do not drift

The offer a session works under never changes once the session is there: new decisions name
candidates that are not there yet.  So what a request read about its prior offer still holds
when its transaction comes, an equivalent decision keeps the terms of the predecessor, and by
induction along its lineage every session works under the terms last consented to.
-/

import WorkGate.Failover.Adapter
import WorkGate.Failover.Coherence

namespace WorkGate

open WorkGate.Library

namespace FailoverDatabase

variable {db after : FailoverDatabase} {sessionId : WorkSessionId}

/-! ## The decision for a session -/

/-- A row of the decisions that passes a test, with its candidate offer. -/
theorem find_candidateOffer {test : (_ : WorkSessionId) × ReplacementRow → Bool}
    (hcoherent : Coherent db) (htest : ∀ entry, test entry = true →
      entry.2.candidateSessionId = sessionId) {offer : DisclosedPoolOffer} :
    ((db.authority.replacements.entries.find? test).bind fun entry =>
      (db.decisions.lookup entry.1).map (·.candidateOffer)) = some offer ↔
    ∃ replacedSessionId row columns, db.authority.replacements.lookup replacedSessionId = some row ∧
      test ⟨replacedSessionId, row⟩ = true ∧ db.decided replacedSessionId = some columns ∧
      columns.candidateOffer = offer := by
  constructor
  · intro h
    obtain ⟨⟨replacedSessionId, row⟩, hfound, hoffer⟩ := Option.bind_eq_some_iff.mp h
    obtain ⟨columns, hcolumns, rfl⟩ := Option.map_eq_some_iff.mp hoffer
    refine ⟨replacedSessionId, row, columns.decided, ?_, List.find?_some hfound, ?_, rfl⟩
    · exact Rows.mem_entries_iff.mp (List.mem_of_find?_eq_some hfound)
    · rw [decided, hcolumns, Option.map_some]
  · rintro ⟨replacedSessionId, row, columns, hrow, hpasses, hcolumns, rfl⟩
    obtain ⟨stored, hstored, rfl⟩ := Option.map_eq_some_iff.mp hcolumns
    cases hfind : db.authority.replacements.entries.find? test with
    | none =>
        rw [List.find?_eq_none] at hfind
        exact absurd hpasses (hfind _ (Rows.mem_entries_iff.mpr hrow))
    | some entry =>
        obtain ⟨other, found⟩ := entry
        have hfound := Rows.mem_entries_iff.mp (List.mem_of_find?_eq_some hfind)
        have hsame := hcoherent.unique other replacedSessionId found row hfound hrow
          ((htest _ (List.find?_some hfind)).trans (htest _ hpasses).symm)
        rw [Option.bind_some, hsame, hstored, Option.map_some]
        rfl

theorem candidateOffer_eq_some (hcoherent : Coherent db) {offer : DisclosedPoolOffer} :
    db.candidateOffer sessionId = some offer ↔
      ∃ replacedSessionId row columns,
        db.authority.replacements.lookup replacedSessionId = some row ∧
        row.candidateSessionId = sessionId ∧ db.decided replacedSessionId = some columns ∧
        columns.candidateOffer = offer := by
  rw [candidateOffer, find_candidateOffer hcoherent fun entry hentry => beq_iff_eq.mp hentry]
  simp only [beq_iff_eq]

theorem releasedOffer_eq_some (hcoherent : Coherent db) {offer : DisclosedPoolOffer} :
    db.releasedOffer sessionId = some offer ↔
      ∃ replacedSessionId row columns,
        db.authority.replacements.lookup replacedSessionId = some row ∧
        (row.candidateSessionId = sessionId ∧ row.pendingReconfirmation = true) ∧
        db.decided replacedSessionId = some columns ∧ columns.candidateOffer = offer := by
  have hcandidate : ∀ entry : (_ : WorkSessionId) × ReplacementRow,
      (entry.2.candidateSessionId == sessionId && entry.2.pendingReconfirmation) = true →
        entry.2.candidateSessionId = sessionId := fun entry hentry =>
    beq_iff_eq.mp (Bool.and_eq_true_iff.mp hentry).1
  rw [releasedOffer, find_candidateOffer hcoherent hcandidate]
  simp only [Bool.and_eq_true, beq_iff_eq]

/-- A decision for a session that is there was there before the step. -/
theorem Effect.decision_before (h : Effect db after) (hknown : sessionId ∈ db.authority.sessions)
    {replacedSessionId : WorkSessionId} {row : ReplacementRow}
    (hrow : after.authority.replacements.lookup replacedSessionId = some row)
    (hcandidate : row.candidateSessionId = sessionId) :
    db.authority.replacements.lookup replacedSessionId = some row := by
  have hkept : KeepsDecisions db after →
      db.authority.replacements.lookup replacedSessionId = some row := by
    intro hdecisions
    rw [← hdecisions.replacements]
    exact hrow
  have hstored : ∀ {input}, StoresDecision db after input →
      db.authority.replacements.lookup replacedSessionId = some row := by
    intro input hstores
    rcases hstores.lookup hrow with ⟨-, rfl⟩ | ⟨-, hrow⟩
    · have hsame : input.candidateSessionId = sessionId := hcandidate
      rw [← hsame] at hknown
      exact absurd hknown hstores.fresh
    · exact hrow
  cases h with
  | keeps hregistrations hflags hdecisions => exact hkept hdecisions
  | registers other session hfresh hunreserved hchallenge hready hadds hflags hdecisions =>
      exact hkept hdecisions
  | replaces replaced other session released hmay hnew hadds hflags hdecisions =>
      exact hkept hdecisions
  | decides input session hequivalent hstores hnew hadds hflags => exact hstored hstores
  | holds input hmaterial hstores hregistrations hflags => exact hstored hstores

/-- The decisions for sessions that are there are found again after a step. -/
theorem Effect.decisions_for (h : Effect db after) (hknown : sessionId ∈ db.authority.sessions)
    {P : WorkSessionId → ReplacementRow → DecisionColumns → Prop} :
    (∃ replacedSessionId row columns,
      after.authority.replacements.lookup replacedSessionId = some row ∧
      row.candidateSessionId = sessionId ∧ after.decided replacedSessionId = some columns ∧
      P replacedSessionId row columns) ↔
    ∃ replacedSessionId row columns,
      db.authority.replacements.lookup replacedSessionId = some row ∧
      row.candidateSessionId = sessionId ∧ db.decided replacedSessionId = some columns ∧
      P replacedSessionId row columns := by
  constructor
  · rintro ⟨replacedSessionId, row, columns, hrow, hcandidate, hcolumns, hholds⟩
    have hbefore := h.decision_before hknown hrow hcandidate
    refine ⟨replacedSessionId, row, columns, hbefore, hcandidate, ?_, hholds⟩
    rw [← (h.decision_kept (Rows.mem_of_lookup hbefore)).2]
    exact hcolumns
  · rintro ⟨replacedSessionId, row, columns, hrow, hcandidate, hcolumns, hholds⟩
    obtain ⟨hrowKept, hcolumnsKept⟩ := h.decision_kept (Rows.mem_of_lookup hrow)
    exact ⟨replacedSessionId, row, columns, hrowKept.trans hrow, hcandidate,
      hcolumnsKept.trans hcolumns, hholds⟩

theorem Effect.candidateOffer_kept (hcoherent : Coherent db) (h : Effect db after)
    (hknown : sessionId ∈ db.authority.sessions) :
    after.candidateOffer sessionId = db.candidateOffer sessionId := by
  ext offer
  rw [candidateOffer_eq_some hcoherent, candidateOffer_eq_some (hcoherent.effect h)]
  exact h.decisions_for hknown

/-- The nodes of a database stay nodes, with the predecessors they have. -/
theorem Effect.nodes_kept (h : Effect db after) (name : WorkSessionId)
    (node : Node WorkSessionId ChallengeId) (hnode : db.authority.nodes name = some node) :
    ∃ found, after.authority.nodes name = some found ∧
      found.maybePredecessor = node.maybePredecessor := by
  obtain ⟨row, hrow, rfl⟩ := Option.map_eq_some_iff.mp hnode
  refine ⟨row.node, ?_, rfl⟩
  rw [AuthorityDatabase.nodes_eq_map_registrations, h.registrations_kept (Rows.mem_of_lookup hrow),
    AuthorityDatabase.registrations_of_lookup hrow]
  rfl

theorem mem_sessions_of_node {node : Node WorkSessionId ChallengeId}
    (hnode : db.authority.nodes sessionId = some node) : sessionId ∈ db.authority.sessions := by
  obtain ⟨row, hrow, -⟩ := Option.map_eq_some_iff.mp hnode
  exact Rows.mem_of_lookup hrow

/-- The nearest decision of a session never changes. -/
theorem Effect.nearest_kept (hcoherent : Coherent db) (h : Effect db after)
    (hknown : sessionId ∈ db.authority.sessions) :
    nearest after.authority.nodes after.candidateOffer sessionId =
      nearest db.authority.nodes db.candidateOffer sessionId := by
  obtain ⟨row, hrow⟩ := Rows.exists_lookup_of_mem hknown
  refine hcoherent.linear.nearest_eq_of_kept (hcoherent.effect h).linear h.nodes_kept ?_
    (AuthorityDatabase.nodes_of_lookup hrow)
  intro name node hnode
  exact h.candidateOffer_kept hcoherent (mem_sessions_of_node hnode)

/-- The pool selection of a session, read from its registration. -/
theorem sessionPoolSelection_eq {row : SessionRow}
    (hrow : db.authority.registrations sessionId = some row) :
    db.sessionPoolSelection sessionId =
      if (nearest db.authority.nodes db.candidateOffer sessionId).any
          (·.offerId != row.poolOfferId) then .error .invalidPersistedData
      else .ok ⟨row.challengeId, ⟨row.poolOfferId, row.payoutCommitment⟩,
        nearest db.authority.nodes db.candidateOffer sessionId⟩ := by
  obtain ⟨session, hsession, rfl⟩ := Option.map_eq_some_iff.mp hrow
  rw [sessionPoolSelection, hsession]
  rfl

theorem Effect.sessionPoolSelection_kept (hcoherent : Coherent db) (h : Effect db after)
    (hknown : sessionId ∈ db.authority.sessions) :
    after.sessionPoolSelection sessionId = db.sessionPoolSelection sessionId := by
  obtain ⟨row, hrow⟩ := Rows.exists_lookup_of_mem hknown
  have hregistered := AuthorityDatabase.registrations_of_lookup hrow
  have hkept := (h.registrations_kept hknown).trans hregistered
  rw [sessionPoolSelection_eq hregistered, sessionPoolSelection_eq hkept,
    h.nearest_kept hcoherent hknown]

end FailoverDatabase

/-! ## The Pool Adapter -/

namespace FailoverSystem

open FailoverDatabase

variable {world : PoolAdapterWorld} {system after : FailoverSystem} {sessionId : WorkSessionId}

/-- Sessions belong to challenges that are there, and descriptors of those stay. -/
structure Keeps (system after : FailoverSystem) : Prop where
  effect : Effect system.store after.store
  descriptors : ∀ challengeId ∈ system.store.authority.challenges,
    after.descriptors.lookup challengeId = system.descriptors.lookup challengeId
  challenges : ∀ challengeId ∈ system.store.authority.challenges,
    challengeId ∈ after.store.authority.challenges

theorem insertChallenge_eq_ok {db authority : AuthorityDatabase} {new : NewChallenge}
    (h : db.insertChallenge new = (authority, .ok ())) :
    new.challengeId ∉ db.challenges ∧ authority.sessions = db.sessions ∧
      authority.replacements = db.replacements ∧
      ∃ row, authority.challenges = db.challenges.insert new.challengeId row := by
  simp only [AuthorityDatabase.insertChallenge] at h
  split at h
  · cases h
  · split at h
    · cases h
    · next hfresh =>
        cases h
        exact ⟨hfresh, rfl, rfl, _, rfl⟩

/-- Every step of the Pool Adapter keeps what belongs to challenges that are there. -/
theorem keeps_step (world : PoolAdapterWorld) (system : FailoverSystem)
    {request : PoolAdapterRequest} (hadmits : system.Accepts request) :
    Keeps system (poolAdapterStep world system request).1 := by
  have hrefl : Keeps system system := ⟨.refl _, fun _ _ => rfl, fun _ h => h⟩
  have hstore : ∀ request : FailoverRequest, request.bypasses = false →
      Keeps system { system with store := (failoverStep world.offers system.store request).1 } := by
    intro request hdirect
    exact ⟨effect_step world.offers system.store hdirect, fun _ _ => rfl,
      fun _ => mem_challenges_step world.offers system.store request⟩
  cases request with
  | issueChallenge new descriptor =>
      simp only [poolAdapterStep]
      split
      · exact hrefl
      · next authority hinserted =>
          obtain ⟨hfresh, hsessions, hreplacements, row, hchallenges⟩ :=
            insertChallenge_eq_ok hinserted
          refine ⟨.keeps ?_ ?_ ⟨hreplacements, rfl⟩, ?_, ?_⟩
          · funext other
            rw [AuthorityDatabase.registrations, hsessions]
            rfl
          · intro other hflag
            rw [AuthorityDatabase.flags, hsessions]
            exact hflag
          · intro challengeId hknown
            show (system.descriptors.insert new.challengeId descriptor).lookup challengeId = _
            rw [Rows.lookup_insert_eq, if_neg]
            rintro rfl
            exact hfresh hknown
          · intro challengeId hknown
            show challengeId ∈ authority.challenges
            rw [hchallenges, AList.mem_insert]
            exact .inr hknown
  | transaction request =>
      apply hstore request
      have hdirect : request.isDirect = true := hadmits
      cases request with
      | authority request =>
          cases request with
          | consentTables ceremonies replacements => cases hdirect
          | _ => rfl
      | _ => rfl
  | prepareReplacement replacedSessionId candidateSessionId signedCandidate now =>
      simp only [poolAdapterStep]
      split
      · exact hrefl
      · exact ⟨.refl _, fun _ _ => rfl, fun _ h => h⟩
  | persistReplacement input => exact hstore (.persist input) rfl

theorem originalOffer_kept (hkeeps : Keeps system after) {challengeId : ChallengeId}
    (hknown : challengeId ∈ system.store.authority.challenges) (poolOfferId : String) :
    after.originalOffer world challengeId poolOfferId =
      system.originalOffer world challengeId poolOfferId := by
  rw [originalOffer, originalOffer, hkeeps.descriptors challengeId hknown]

/-! ## What is judged stays judged -/

/-- A change was judged against the offer that the predecessor works under. -/
structure Judged (world : PoolAdapterWorld) (system : FailoverSystem)
    (replacedSessionId : WorkSessionId) (priorOffer candidateOffer : DisclosedPoolOffer)
    (change : PoolOfferChange) : Prop where
  yielded : system.yieldedOffer world replacedSessionId = some priorOffer
  equivalent : change.isMaterial = false → priorOffer.terms = candidateOffer.terms
  offer : ∃ row, system.store.authority.registrations replacedSessionId = some row ∧
    candidateOffer.offerId = row.poolOfferId

/-- What holds in every state: sessions belong to challenges, and everything prepared or stored
was judged. -/
structure Agreed (world : PoolAdapterWorld) (system : FailoverSystem) : Prop where
  coherent : Coherent system.store
  challenges : ∀ sessionId row, system.store.authority.registrations sessionId = some row →
    row.challengeId ∈ system.store.authority.challenges
  prepared : ∀ input ∈ system.prepared, Judged world system input.replacedSessionId
    input.priorOffer input.candidateOffer input.change
  decided : ∀ replacedSessionId columns,
    system.store.decided replacedSessionId = some columns →
      Judged world system replacedSessionId columns.priorOffer columns.candidateOffer columns.change

/-- The offer a session works under never changes. -/
theorem yieldedOffer_kept (hagreed : Agreed world system) (hkeeps : Keeps system after)
    (hknown : sessionId ∈ system.store.authority.sessions) :
    after.yieldedOffer world sessionId = system.yieldedOffer world sessionId := by
  obtain ⟨row, hrow⟩ := Rows.exists_lookup_of_mem hknown
  have hchallenge := hagreed.challenges sessionId _ (AuthorityDatabase.registrations_of_lookup hrow)
  rw [yieldedOffer, yieldedOffer, hkeeps.effect.sessionPoolSelection_kept hagreed.coherent hknown,
    sessionPoolSelection_eq (AuthorityDatabase.registrations_of_lookup hrow)]
  split
  · rfl
  · next retained hretained =>
      split at hretained
      · cases hretained
      · cases hretained
        rw [originalOffer_kept hkeeps hchallenge]

theorem Judged.keeps {replacedSessionId : WorkSessionId}
    {priorOffer candidateOffer : DisclosedPoolOffer}
    {change : PoolOfferChange}
    (hjudged : Judged world system replacedSessionId priorOffer candidateOffer change)
    (hagreed : Agreed world system) (hkeeps : Keeps system after) :
    Judged world after replacedSessionId priorOffer candidateOffer change := by
  obtain ⟨row, hrow, hoffer⟩ := hjudged.offer
  have hknown := mem_sessions_of_registration hrow
  refine ⟨?_, hjudged.equivalent, row, ?_, hoffer⟩
  · rw [yieldedOffer_kept hagreed hkeeps hknown]
    exact hjudged.yielded
  · exact (hkeeps.effect.registrations_kept hknown).trans hrow

/-- What a request read and judged before its transaction. -/
theorem judged_of_prepared {replacedSessionId candidateSessionId : WorkSessionId}
    {signedCandidate : SignedOffers} {now : ℕ} {input : PersistPoolOfferReplacement}
    (h : system.prepareReplacement world replacedSessionId candidateSessionId signedCandidate
      now = .ok input) :
    Judged world system input.replacedSessionId input.priorOffer input.candidateOffer
      input.change := by
  simp only [prepareReplacement, bind_eq_ok, mapError_eq_ok] at h
  obtain ⟨retained, hretained, h⟩ := h
  split at h
  · cases h
  · next descriptor hdescriptor =>
      split at h
      · cases h
      · next signedPrior hsigned =>
          simp only [bind_eq_ok] at h
          obtain ⟨priorSet, hprior, candidateSet, hcandidate, h⟩ := h
          split at h
          · cases h
          · next priorOffer hpriorOffer =>
              split at h
              · cases h
              · next candidateOffer hcandidateOffer =>
                  simp only [bind_eq_ok, mapError_eq_ok] at h
                  obtain ⟨change, hchange, h⟩ := h
                  cases h
                  refine ⟨?_, ?_, ?_⟩
                  · simp only [yieldedOffer, hretained, originalOffer, hdescriptor, hsigned,
                      Option.bind_eq_bind, Option.bind_some, hprior, Except.toOption]
                    exact hpriorOffer
                  · intro hequivalent
                    cases change with
                    | equivalent => exact terms_of_equivalent hchange
                    | materiallyChanged changes => cases hequivalent
                  · have hsession : ∃ row,
                        system.store.authority.registrations replacedSessionId = some row ∧
                          retained.selection.poolOfferId = row.poolOfferId := by
                      rw [sessionPoolSelection] at hretained
                      split at hretained
                      · cases hretained
                      · next row hrow =>
                          obtain ⟨-, hretained⟩ := guard_eq_ok hretained
                          cases hretained
                          exact ⟨_, AuthorityDatabase.registrations_of_lookup hrow, rfl⟩
                    obtain ⟨row, hrow, hsame⟩ := hsession
                    refine ⟨row, hrow, ?_⟩
                    have hfound := List.find?_some hcandidateOffer
                    rw [← hsame]
                    exact beq_iff_eq.mp hfound

theorem agreed_start : Agreed world ⟨FailoverDatabase.empty, ∅, []⟩ where
  coherent := coherent_empty
  challenges := by
    intro _ _ hrow
    cases hrow
  prepared := by
    intro _ hprepared
    cases hprepared
  decided := by
    intro _ _ hcolumns
    cases hcolumns

/-- A decision that is there after a `persist` was there before, or is the one it was given. -/
theorem persist_decided {db : FailoverDatabase} {input : PersistPoolOfferReplacement}
    {replacedSessionId : WorkSessionId} {columns : DecisionColumns}
    (hcolumns : (db.persist input).1.decided replacedSessionId = some columns) :
    db.decided replacedSessionId = some columns ∨
      replacedSessionId = input.replacedSessionId ∧
        ∃ decidedAt, columns = newDecision input decidedAt := by
  simp only [persist] at hcolumns
  split at hcolumns
  · exact .inl hcolumns
  · next written decision hpersisted =>
      obtain ⟨inserted, row, found, other, hpersists, hreleased⟩ :=
        persistInTransaction_eq_ok.mp hpersisted
      obtain ⟨decidedAt, -, hinserted⟩ := hpersists.inserts
      have hdecisions : written.decided = inserted.decided := by
        rw [releaseEquivalent] at hreleased
        split at hreleased
        · obtain ⟨-, hreleased⟩ := guard_eq_ok hreleased
          cases hreleased
          rfl
        · obtain ⟨⟨authority, replacement⟩, -, hreleased⟩ := bind_eq_ok.mp hreleased
          cases hreleased
          rfl
      have hcolumns : inserted.decided replacedSessionId = some columns := by
        rw [← hdecisions]
        exact hcolumns
      obtain ⟨-, ⟨rfl, -⟩ | ⟨-, -, rfl⟩⟩ := insertReplacement_cases hinserted
      · exact .inl hcolumns
      · simp only [FailoverDatabase.decided, Rows.lookup_insert_eq] at hcolumns
        split at hcolumns
        · next hsame =>
            cases hcolumns
            exact .inr ⟨hsame, decidedAt, rfl⟩
        · exact .inl hcolumns

theorem decided_direct (world : OfferWorld) {db : FailoverDatabase} {request : FailoverRequest}
    (hdirect : request.isDirect = true) :
    (failoverStep world db request).1.decided = db.decided := by
  cases request with
  | authority request => rfl
  | ceremonies rows => rfl
  | persist input => cases hdirect
  | persistConfirmation confirmation signatureDigestSha256 =>
      exact persistConfirmation_decided world db confirmation signatureDigestSha256

/-- Registered sessions keep belonging to challenges. -/
theorem challenges_keeps (hagreed : Agreed world system) (hkeeps : Keeps system after)
    {row : SessionRow} (hrow : after.store.authority.registrations sessionId = some row) :
    row.challengeId ∈ after.store.authority.challenges := by
  have hadded : ∀ {other session},
      AddsSession system.store.authority after.store.authority other session →
      session.challengeId ∈ system.store.authority.challenges →
      row.challengeId ∈ after.store.authority.challenges := by
    intro other session hadds hchallenge
    rw [hadds] at hrow
    split at hrow
    · cases hrow
      exact hkeeps.challenges _ hchallenge
    · exact hkeeps.challenges _ (hagreed.challenges sessionId row hrow)
  have hreplaces : ∀ {replaced other session},
      system.store.authority.NewReplacement replaced other session →
      session.challengeId ∈ system.store.authority.challenges := by
    intro replaced other session hnew
    obtain ⟨found, hfound, hsame, -⟩ := NewReplacement.inherits hnew _ hnew.replaces
    rw [← hsame]
    exact hagreed.challenges replaced found hfound
  cases hkeeps.effect with
  | keeps hregistrations hflags hdecisions =>
      rw [hregistrations] at hrow
      exact hkeeps.challenges _ (hagreed.challenges sessionId row hrow)
  | registers other session hfresh hunreserved hchallenge hready hadds hflags hdecisions =>
      exact hadded hadds hchallenge
  | replaces replaced other session released hmay hnew hadds hflags hdecisions =>
      exact hadded hadds (hreplaces hnew)
  | decides input session hequivalent hstores hnew hadds hflags =>
      exact hadded hadds (hreplaces hnew)
  | holds input hmaterial hstores hregistrations hflags =>
      rw [hregistrations] at hrow
      exact hkeeps.challenges _ (hagreed.challenges sessionId row hrow)

/-- Every step keeps what was judged. -/
theorem agreed_step (hagreed : Agreed world system) {request : PoolAdapterRequest}
    (hadmits : system.Accepts request) : Agreed world (poolAdapterStep world system request).1 := by
  have hkeeps := keeps_step world system hadmits
  refine ⟨hagreed.coherent.effect hkeeps.effect, fun _ _ => challenges_keeps hagreed hkeeps,
    ?_, ?_⟩
  · intro input hinput
    have hjudged : Judged world system input.replacedSessionId input.priorOffer
        input.candidateOffer input.change := by
      cases request with
      | issueChallenge new descriptor =>
          apply hagreed.prepared input
          simp only [poolAdapterStep] at hinput
          split at hinput
          · exact hinput
          · exact hinput
      | transaction request => exact hagreed.prepared input hinput
      | prepareReplacement replacedSessionId candidateSessionId signedCandidate now =>
          simp only [poolAdapterStep] at hinput
          split at hinput
          · exact hagreed.prepared input hinput
          · next prepared hprepared =>
              rcases List.mem_cons.mp hinput with rfl | hearlier
              · exact judged_of_prepared hprepared
              · exact hagreed.prepared input hearlier
      | persistReplacement persisted => exact hagreed.prepared input hinput
    exact hjudged.keeps hagreed hkeeps
  · intro decidedSessionId columns hcolumns
    have hjudged : Judged world system decidedSessionId columns.priorOffer
        columns.candidateOffer columns.change := by
      cases request with
      | issueChallenge new descriptor =>
          apply hagreed.decided decidedSessionId columns
          simp only [poolAdapterStep] at hcolumns
          split at hcolumns
          · exact hcolumns
          · exact hcolumns
      | transaction request =>
          apply hagreed.decided decidedSessionId columns
          rw [← decided_direct world.offers hadmits]
          exact hcolumns
      | prepareReplacement replacedSessionId candidateSessionId signedCandidate now =>
          apply hagreed.decided decidedSessionId columns
          simp only [poolAdapterStep] at hcolumns
          split at hcolumns
          · exact hcolumns
          · exact hcolumns
      | persistReplacement input =>
          rcases persist_decided hcolumns with hbefore | ⟨rfl, decidedAt, rfl⟩
          · exact hagreed.decided decidedSessionId columns hbefore
          · exact hagreed.prepared input hadmits
    exact hjudged.keeps hagreed hkeeps

theorem agreed_run {history : List (PoolAdapterRequest × PoolAdapterReply)}
    (hrun : (poolAdapter world).Run history system) : Agreed world system := by
  refine Machine.Run.invariant (P := fun _ system => Agreed world system) agreed_start ?_ hrun
  intro history system request hadmits hagreed
  exact agreed_step hagreed hadmits

/-! ## Along a lineage -/

/-- What the nearest decisions of a registered session say about its terms. -/
structure Aligned (world : PoolAdapterWorld) (system : FailoverSystem) (sessionId : WorkSessionId)
    (row : SessionRow) : Prop where
  offerId : ∀ offer, nearest system.store.authority.nodes system.store.candidateOffer sessionId =
    some offer → offer.offerId = row.poolOfferId
  terms : ((nearest system.store.authority.nodes system.store.candidateOffer sessionId).or
      (system.originalOffer world row.challengeId row.poolOfferId)).map DisclosedPoolOffer.terms =
    ((nearest system.store.authority.nodes system.store.releasedOffer sessionId).or
      (system.originalOffer world row.challengeId row.poolOfferId)).map DisclosedPoolOffer.terms

/-- The offer of a session whose nearest decision has the selected identity. -/
theorem yieldedOffer_eq (world : PoolAdapterWorld) {row : SessionRow}
    (hrow : system.store.authority.registrations sessionId = some row)
    (hoffer : ∀ offer, nearest system.store.authority.nodes system.store.candidateOffer sessionId =
      some offer → offer.offerId = row.poolOfferId) :
    system.store.sessionPoolSelection sessionId = .ok ⟨row.challengeId,
        ⟨row.poolOfferId, row.payoutCommitment⟩,
        nearest system.store.authority.nodes system.store.candidateOffer sessionId⟩ ∧
      system.yieldedOffer world sessionId =
        (nearest system.store.authority.nodes system.store.candidateOffer sessionId).or
          (system.originalOffer world row.challengeId row.poolOfferId) := by
  have hselected : system.store.sessionPoolSelection sessionId = .ok ⟨row.challengeId,
      ⟨row.poolOfferId, row.payoutCommitment⟩,
      nearest system.store.authority.nodes system.store.candidateOffer sessionId⟩ := by
    rw [sessionPoolSelection_eq hrow, if_neg]
    rw [Bool.not_eq_true]
    cases hnearest : nearest system.store.authority.nodes system.store.candidateOffer sessionId with
    | none => rfl
    | some offer => exact bne_eq_false_iff_eq.mpr (hoffer offer hnearest)
  refine ⟨hselected, ?_⟩
  rw [yieldedOffer, hselected]

/-- A session nobody decided about has no released offer either. -/
theorem releasedOffer_eq_none (hagreed : Agreed world system)
    (hnone : system.store.candidateOffer sessionId = none) :
    system.store.releasedOffer sessionId = none := by
  cases hreleased : system.store.releasedOffer sessionId with
  | none => rfl
  | some offer =>
      obtain ⟨replacedSessionId, decision, columns, hdecision, ⟨hcandidate, -⟩, hcolumns, hoffer⟩ :=
        (releasedOffer_eq_some hagreed.coherent).mp hreleased
      have hsome := (candidateOffer_eq_some hagreed.coherent).mpr
        ⟨replacedSessionId, decision, columns, hdecision, hcandidate, hcolumns, hoffer⟩
      rw [hnone] at hsome
      cases hsome

/-- An original session works under the original offer. -/
theorem aligned_original (hagreed : Agreed world system) {row : SessionRow}
    (hrow : system.store.authority.registrations sessionId = some row)
    (hstarts : row.replacesSessionId = none) : Aligned world system sessionId row := by
  have hnone : system.store.candidateOffer sessionId = none := by
    cases hcandidate : system.store.candidateOffer sessionId with
    | none => rfl
    | some offer =>
        obtain ⟨replacedSessionId, decision, columns, hdecision, rfl, -⟩ :=
          (candidateOffer_eq_some hagreed.coherent).mp hcandidate
        have hreplaces := hagreed.coherent.worked replacedSessionId decision row hdecision hrow
        rw [hstarts] at hreplaces
        cases hreplaces
  obtain ⟨session, hsession, rfl⟩ := Option.map_eq_some_iff.mp hrow
  have hnode := AuthorityDatabase.nodes_of_lookup hsession
  have hcandidates : nearest system.store.authority.nodes system.store.candidateOffer
      sessionId = none := (Linear.nearest_original hnode hstarts).trans hnone
  have hreleases : nearest system.store.authority.nodes system.store.releasedOffer sessionId =
      none := (Linear.nearest_original hnode hstarts).trans (releasedOffer_eq_none hagreed hnone)
  refine ⟨?_, ?_⟩
  · intro offer hoffer
    rw [hcandidates] at hoffer
    cases hoffer
  · rw [hcandidates, hreleases]

/-- A successor works under terms consented to when its predecessor does. -/
theorem aligned_successor (hagreed : Agreed world system)
    {replacedSessionId : WorkSessionId} {row replaced : SessionRow}
    (hrow : system.store.authority.registrations sessionId = some row)
    (hreplaces : row.replacesSessionId = some replacedSessionId)
    (hreplaced : system.store.authority.registrations replacedSessionId = some replaced)
    (hchallenge : replaced.challengeId = row.challengeId)
    (hoffer : replaced.poolOfferId = row.poolOfferId)
    (ih : Aligned world system replacedSessionId replaced) :
    Aligned world system sessionId row := by
  obtain ⟨session, hsession, rfl⟩ := Option.map_eq_some_iff.mp hrow
  have hnode := AuthorityDatabase.nodes_of_lookup hsession
  have hlinear := hagreed.coherent.linear
  have hcandidates : nearest system.store.authority.nodes system.store.candidateOffer sessionId =
      (system.store.candidateOffer sessionId).or
        (nearest system.store.authority.nodes system.store.candidateOffer replacedSessionId) :=
    hlinear.nearest_succeeds hnode hreplaces
  have hreleases : nearest system.store.authority.nodes system.store.releasedOffer sessionId =
      (system.store.releasedOffer sessionId).or
        (nearest system.store.authority.nodes system.store.releasedOffer replacedSessionId) :=
    hlinear.nearest_succeeds hnode hreplaces
  obtain ⟨hids, hterms⟩ := ih
  rw [hchallenge, hoffer] at hterms
  rw [hoffer] at hids
  cases hcandidate : system.store.candidateOffer sessionId with
  | none =>
      -- A plain replacement works under whatever its predecessor works under.
      rw [hcandidate, Option.none_or] at hcandidates
      rw [releasedOffer_eq_none hagreed hcandidate, Option.none_or] at hreleases
      refine ⟨?_, ?_⟩
      · rw [hcandidates]
        exact hids
      · rw [hcandidates, hreleases]
        exact hterms
  | some offer =>
      rw [hcandidate, Option.some_or] at hcandidates
      obtain ⟨other, decision, columns, hdecision, rfl, hcolumns, rfl⟩ :=
        (candidateOffer_eq_some hagreed.coherent).mp hcandidate
      have hplace := hagreed.coherent.worked other decision _ hdecision hrow
      rw [hreplaces, Option.some_inj] at hplace
      subst hplace
      obtain ⟨hyielded, hequivalent, registered, hregistered, hselected⟩ :=
        hagreed.decided replacedSessionId columns hcolumns
      rw [hreplaced] at hregistered
      cases hregistered
      refine ⟨?_, ?_⟩
      · rw [hcandidates]
        rintro _ ⟨⟩
        exact hselected.trans hoffer
      · have hstatus := hagreed.coherent.status _ decision columns hdecision hcolumns
        cases hpending : decision.pendingReconfirmation with
        | true =>
            -- A released session works under the offer that was confirmed for it.
            have hreleased := (releasedOffer_eq_some hagreed.coherent).mpr
              ⟨replacedSessionId, decision, columns, hdecision, ⟨rfl, hpending⟩, hcolumns, rfl⟩
            rw [hreleased, Option.some_or] at hreleases
            rw [hcandidates, hreleases]
        | false =>
            have hreleased : system.store.releasedOffer decision.candidateSessionId = none := by
              cases hfound : system.store.releasedOffer decision.candidateSessionId with
              | none => rfl
              | some offer =>
                  obtain ⟨name, row, stored, hrow, ⟨hsame, hwaits⟩, -⟩ :=
                    (releasedOffer_eq_some hagreed.coherent).mp hfound
                  have hone := hagreed.coherent.unique name replacedSessionId row decision hrow
                    hdecision hsame
                  rw [hone, hdecision, Option.some_inj] at hrow
                  rw [← hrow, hpending] at hwaits
                  cases hwaits
            rw [hreleased, Option.none_or] at hreleases
            have hprior := (yieldedOffer_eq world hreplaced
              (by rw [hoffer]; exact hids)).2
            rw [hyielded, hchallenge, hoffer] at hprior
            rw [hcandidates, hreleases, ← hterms, ← hprior, Option.some_or, Option.map_some,
              Option.map_some, hequivalent (hstatus ▸ hpending)]

/-- Every registered session is aligned. -/
theorem aligned (hagreed : Agreed world system) {row : SessionRow}
    (hrow : system.store.authority.registrations sessionId = some row) :
    Aligned world system sessionId row := by
  have hlinear := hagreed.coherent.linear
  obtain ⟨session, hsession, -⟩ := Option.map_eq_some_iff.mp hrow
  refine hlinear.along (P := fun sessionId => ∀ row,
    system.store.authority.registrations sessionId = some row →
      Aligned world system sessionId row) ?_ ?_
    (AuthorityDatabase.nodes_of_lookup hsession) row hrow
  · intro name node hnode hstarts row hrow
    rw [AuthorityDatabase.nodes_eq_map_registrations, hrow, Option.map_some,
      Option.some_inj] at hnode
    rw [← hnode] at hstarts
    exact aligned_original hagreed hrow hstarts
  · intro name node predecessor hnode hpredecessor ih row hrow
    rw [AuthorityDatabase.nodes_eq_map_registrations, hrow, Option.map_some,
      Option.some_inj] at hnode
    rw [← hnode] at hpredecessor
    obtain ⟨replaced, hreplaced, hchallenge, hoffer⟩ :=
      hagreed.coherent.inherits name row predecessor hrow hpredecessor
    exact aligned_successor hagreed hrow hpredecessor hreplaced hchallenge hoffer
      (ih replaced hreplaced)

theorem stored_continues {history later : List (PoolAdapterRequest × PoolAdapterReply)}
    (hcontinues : (poolAdapter world).Continues history system later after)
    {replacedSessionId : WorkSessionId} {row : ReplacementRow} {columns : DecisionColumns}
    (hstored : Stored system.store replacedSessionId row columns) :
    Stored after.store replacedSessionId row columns := by
  refine hcontinues.preserves (P := fun _ system =>
    Stored system.store replacedSessionId row columns) ?_ hstored
  intro history system request hadmits hstored
  exact hstored.effect (keeps_step world system hadmits).effect

end FailoverSystem

/-- Consented terms do not drift: whatever replaced whatever, a session works under the terms
last consented to along its lineage, and a decision never changes once it is stored. -/
theorem consentedTerms_stable (world : PoolAdapterWorld)
    {history : List (PoolAdapterRequest × PoolAdapterReply)} {system : FailoverSystem}
    (hrun : (poolAdapter world).Run history system) :
    (∀ sessionId ∈ system.store.authority.sessions,
      (∃ retained, system.store.sessionPoolSelection sessionId = .ok retained) ∧
      (system.yieldedOffer world sessionId).map DisclosedPoolOffer.terms =
        (system.consentedOffer world sessionId).map DisclosedPoolOffer.terms) ∧
    ∀ later reached, (poolAdapter world).Continues history system later reached →
      ∀ replacedSessionId row columns,
        FailoverDatabase.Stored system.store replacedSessionId row columns →
          FailoverDatabase.Stored reached.store replacedSessionId row columns := by
  refine ⟨?_, fun later reached hcontinues replacedSessionId row columns hstored =>
    FailoverSystem.stored_continues hcontinues hstored⟩
  intro sessionId hknown
  obtain ⟨row, hrow⟩ := Rows.exists_lookup_of_mem hknown
  have hregistered := AuthorityDatabase.registrations_of_lookup hrow
  have haligned := FailoverSystem.aligned (FailoverSystem.agreed_run hrun) hregistered
  obtain ⟨hselected, hyielded⟩ := FailoverSystem.yieldedOffer_eq world hregistered
    haligned.offerId
  refine ⟨⟨_, hselected⟩, ?_⟩
  rw [hyielded, FailoverSystem.consentedOffer, hrow]
  exact haligned.terms

/-! ## A chain of replacements -/

/-- An offer of examples, with its endpoint and its privacy terms. -/
def exampleOffer (endpoint privacyTermsUrl : String) : DisclosedPoolOffer where
  offerId := "offer"
  miningPool := ⟨"pool", "Pool", "1", "https://pool.example", "AGPL-3.0"⟩
  poolAdapter := ⟨"adapter", "Adapter", "1", "https://adapter.example", "MIT"⟩
  miningTransport := "stratum_v1"
  endpoint := endpoint
  rewardPolicy := ⟨"solo_direct_coinbase", 9800, 100, 100, false, false, "direct_coinbase_payout"⟩
  payoutRequirements := ⟨true, true, ["bitcoin_mainnet_address", "approved_beneficiary"], []⟩
  privacyTermsUrl := privacyTermsUrl
  operatorTermsUrl := "https://operator.example"

def signedExampleOffer : SignedOffers := ⟨[exampleOffer "first" "https://privacy.example"], "a.b.1"⟩

/-- The same terms at another endpoint. -/
def movedExampleOffer : SignedOffers := ⟨[exampleOffer "second" "https://privacy.example"], "a.b.2"⟩

/-- Other privacy terms. -/
def changedExampleOffer : SignedOffers := ⟨[exampleOffer "second" "https://other.example"], "a.b.3"⟩

/-- An Authority that signed three sets of offers for one challenge. -/
def exampleAdapterWorld : PoolAdapterWorld where
  offers := {
    parseEndpoint := fun text =>
      if text = "https://authority.example" then
        some ⟨"https", true, none, "", none, "/", none, none⟩
      else some ⟨"stratum+tcp", true, some 3333, "", none, "/", none, none⟩
    verifyAuthorityPayload := fun signature =>
      ([signedExampleOffer, movedExampleOffer, changedExampleOffer].find? fun signed =>
        signed.signature == signature).map fun signed =>
          ⟨"https://authority.example", "challenge_a", "account-creation.light.v1", signed.offers,
            false, none, "BWG/0.1"⟩ }
  issuer := "https://authority.example"
  canonicalOfferSetDigest := fun _ => "AAAAAAAAAAAAAAAAAAAAAAAAAAAAAAAAAAAAAAAAAAA"

/-- A session moves to another endpoint, then to other privacy terms once they are confirmed,
and is at last replaced without a decision. -/
def replacedOfferRequests : List PoolAdapterRequest :=
  let challengeId : ChallengeId := ⟨"challenge_a", isChallengeId_a⟩
  let session : WorkSessionId := ⟨"session_a", validSession_a⟩
  let moved : WorkSessionId := ⟨"session_b", validSession_b⟩
  let changed : WorkSessionId := ⟨"session_c", validSession_c⟩
  let commitment := "0000000000000000000000000000000000000000000000000000000000000000"
  let digest := "AAAAAAAAAAAAAAAAAAAAAAAAAAAAAAAAAAAAAAAAAAA"
  let first := exampleOffer "first" "https://privacy.example"
  let second := exampleOffer "second" "https://privacy.example"
  let third := exampleOffer "second" "https://other.example"
  [.issueChallenge ⟨challengeId, ⟨Uint256.one, toNat_one_pos⟩, 900, "seed", false⟩
      ⟨some signedExampleOffer, .accountCreationLightV1⟩,
    .transaction (.authority (.proposePoolSelection challengeId "offer" commitment 1)),
    .transaction (.authority (.confirmPoolSelection challengeId commitment 2)),
    .transaction (.authority (.insertWorkSession challengeId session 3)),
    .transaction (.authority (.failWorkSession session)),
    .prepareReplacement session moved movedExampleOffer 4,
    .persistReplacement ⟨session, moved, challengeId, first, second, "a.b.2", digest,
      .equivalent, 4⟩,
    .transaction (.authority (.failWorkSession moved)),
    .prepareReplacement moved changed changedExampleOffer 5,
    .persistReplacement ⟨moved, changed, challengeId, second, third, "a.b.3", digest,
      .materiallyChanged [.privacyTerms], 5⟩,
    .transaction (.authority (.releaseMaterialPoolOfferReplacement moved changed 6)),
    .transaction (.authority (.failWorkSession changed)),
    .transaction (.authority (.replaceWorkSession changed ⟨"session_d", by decide⟩ 7))]

theorem replacedOfferRequests_termsStable :
    ∃ history system, (poolAdapter exampleAdapterWorld).Run history system ∧
      (system.yieldedOffer exampleAdapterWorld ⟨"session_b", by decide⟩).map
          DisclosedPoolOffer.terms = some (exampleOffer "first" "https://privacy.example").terms ∧
      (system.yieldedOffer exampleAdapterWorld ⟨"session_d", by decide⟩).map
          DisclosedPoolOffer.terms =
        some (exampleOffer "second" "https://other.example").terms := by
  have hrun := Machine.run_replay (M := poolAdapter exampleAdapterWorld) replacedOfferRequests
    (by decide +kernel)
  have hconsented :
      ⟨"session_b", by decide⟩ ∈ ((poolAdapter exampleAdapterWorld).replay
        replacedOfferRequests).2.store.authority.sessions ∧
      ⟨"session_d", by decide⟩ ∈ ((poolAdapter exampleAdapterWorld).replay
        replacedOfferRequests).2.store.authority.sessions ∧
      ((poolAdapter exampleAdapterWorld).replay replacedOfferRequests).2.consentedOffer
        exampleAdapterWorld ⟨"session_b", by decide⟩ =
          some (exampleOffer "first" "https://privacy.example") ∧
      ((poolAdapter exampleAdapterWorld).replay replacedOfferRequests).2.consentedOffer
        exampleAdapterWorld ⟨"session_d", by decide⟩ =
          some (exampleOffer "second" "https://other.example") := by decide +kernel
  generalize (poolAdapter exampleAdapterWorld).replay replacedOfferRequests = point
    at hrun hconsented
  obtain ⟨hmoved, hlast, hfirst, hsecond⟩ := hconsented
  obtain ⟨hterms, -⟩ := consentedTerms_stable exampleAdapterWorld hrun
  refine ⟨point.1, point.2, hrun, ?_, ?_⟩
  · rw [(hterms _ hmoved).2, hfirst, Option.map_some]
  · rw [(hterms _ hlast).2, hsecond, Option.map_some]

end WorkGate
