/-
# Sessions and decisions agree

A decision names the session that is to work on its offer before that session is there.  This
invariant says what the two tables always agree about: a candidate belongs to one decision,
works, once it works, in the place of that decision's predecessor, and is there from the start
where nothing has to be confirmed.
-/

import WorkGate.Failover.Linearity

namespace WorkGate

open WorkGate.Library

namespace FailoverDatabase

variable {world : OfferWorld} {db after : FailoverDatabase}

/-- What sessions and decisions agree about. -/
structure Coherent (db : FailoverDatabase) : Prop where
  linear : Linear db.authority.nodes
  paired : ∀ replacedSessionId, (db.authority.replacements.lookup replacedSessionId).isSome =
    (db.decided replacedSessionId).isSome
  status : ∀ replacedSessionId row columns,
    db.authority.replacements.lookup replacedSessionId = some row →
      db.decided replacedSessionId = some columns →
        row.pendingReconfirmation = columns.change.isMaterial
  known : ∀ replacedSessionId ∈ db.authority.replacements,
    replacedSessionId ∈ db.authority.sessions
  unique : ∀ first second row other, db.authority.replacements.lookup first = some row →
    db.authority.replacements.lookup second = some other →
      row.candidateSessionId = other.candidateSessionId → first = second
  worked : ∀ replacedSessionId row session,
    db.authority.replacements.lookup replacedSessionId = some row →
      db.authority.registrations row.candidateSessionId = some session →
        session.replacesSessionId = some replacedSessionId
  released : ∀ replacedSessionId row,
    db.authority.replacements.lookup replacedSessionId = some row →
      row.pendingReconfirmation = false → row.candidateSessionId ∈ db.authority.sessions
  inherits : ∀ sessionId row replacedSessionId,
    db.authority.registrations sessionId = some row →
      row.replacesSessionId = some replacedSessionId →
        ∃ replaced, db.authority.registrations replacedSessionId = some replaced ∧
          replaced.challengeId = row.challengeId ∧ replaced.poolOfferId = row.poolOfferId

theorem coherent_empty : Coherent FailoverDatabase.empty where
  linear := Linear.start
  paired := fun _ => rfl
  status := by
    intro _ _ _ hrow
    cases hrow
  known := by
    intro replacedSessionId hmem
    exact absurd hmem (AList.notMem_empty replacedSessionId)
  unique := by
    intro _ _ _ _ hrow
    cases hrow
  worked := by
    intro _ _ _ hrow
    cases hrow
  released := by
    intro _ _ hrow
    cases hrow
  inherits := by
    intro _ _ _ hrow
    cases hrow

/-! ## Reservations -/

/-- Who reserved a session has a pending decision for it. -/
theorem reservedPredecessor_eq_some {authority : AuthorityDatabase}
    {sessionId reserved : WorkSessionId}
    (h : authority.reservedPredecessor sessionId = some reserved) :
    ∃ row, authority.replacements.lookup reserved = some row ∧
      row.candidateSessionId = sessionId ∧ row.pendingReconfirmation = true := by
  rw [AuthorityDatabase.reservedPredecessor, Option.map_eq_some_iff] at h
  obtain ⟨⟨other, row⟩, hfound, rfl⟩ := h
  have htest := List.find?_some hfound
  rw [Bool.and_eq_true, beq_iff_eq] at htest
  exact ⟨row, Rows.mem_entries_iff.mp (List.mem_of_find?_eq_some hfound), htest⟩

/-- A session with a pending decision for it is reserved. -/
theorem reservedPredecessor_isSome {authority : AuthorityDatabase}
    {replacedSessionId : WorkSessionId} {row : ReplacementRow}
    (hrow : authority.replacements.lookup replacedSessionId = some row)
    (hpending : row.pendingReconfirmation = true) :
    ∃ reserved, authority.reservedPredecessor row.candidateSessionId = some reserved := by
  cases hreserved : authority.reservedPredecessor row.candidateSessionId with
  | some reserved => exact ⟨reserved, rfl⟩
  | none =>
      rw [AuthorityDatabase.reservedPredecessor, Option.map_eq_none_iff,
        List.find?_eq_none] at hreserved
      have hother := hreserved _ (Rows.mem_entries_iff.mpr hrow)
      rw [hpending, Bool.and_true] at hother
      exact absurd (beq_self_eq_true row.candidateSessionId) hother

/-- Only the predecessor that decided for a session can reserve it. -/
theorem Coherent.reservedPredecessor_eq (hcoherent : Coherent db)
    {replacedSessionId : WorkSessionId} {row : ReplacementRow}
    (hrow : db.authority.replacements.lookup replacedSessionId = some row)
    (hpending : row.pendingReconfirmation = true) :
    db.authority.reservedPredecessor row.candidateSessionId = some replacedSessionId := by
  obtain ⟨reserved, hreserved⟩ := reservedPredecessor_isSome hrow hpending
  obtain ⟨other, hother, hsame, -⟩ := reservedPredecessor_eq_some hreserved
  rw [hreserved, hcoherent.unique reserved replacedSessionId other row hother hrow hsame]

/-! ## One step -/

/-- Sessions and decisions that are looked at the same way agree the same way. -/
theorem Coherent.of_kept (hcoherent : Coherent db)
    (hregistrations : after.authority.registrations = db.authority.registrations)
    (hdecisions : KeepsDecisions db after) : Coherent after where
  linear := linear_of_registrations hcoherent.linear hregistrations
  paired := by
    rw [hdecisions.replacements, hdecisions.decided]
    exact hcoherent.paired
  status := by
    rw [hdecisions.replacements, hdecisions.decided]
    exact hcoherent.status
  known := by
    intro replacedSessionId hdecided
    rw [AuthorityDatabase.mem_sessions_of_registrations hregistrations]
    rw [hdecisions.replacements] at hdecided
    exact hcoherent.known replacedSessionId hdecided
  unique := by
    rw [hdecisions.replacements]
    exact hcoherent.unique
  worked := by
    rw [hdecisions.replacements, hregistrations]
    exact hcoherent.worked
  released := by
    intro replacedSessionId row hrow hplain
    rw [AuthorityDatabase.mem_sessions_of_registrations hregistrations]
    rw [hdecisions.replacements] at hrow
    exact hcoherent.released replacedSessionId row hrow hplain
  inherits := by
    rw [hregistrations]
    exact hcoherent.inherits

theorem mem_sessions_of_registration {authority : AuthorityDatabase} {sessionId : WorkSessionId}
    {row : SessionRow} (h : authority.registrations sessionId = some row) :
    sessionId ∈ authority.sessions := by
  by_contra hfresh
  rw [AuthorityDatabase.registrations_eq_none.mpr hfresh] at h
  cases h

theorem AddsSession.mem {authority later : AuthorityDatabase} {sessionId other : WorkSessionId}
    {row : SessionRow} (hadds : AddsSession authority later sessionId row) :
    other ∈ later.sessions ↔ other = sessionId ∨ other ∈ authority.sessions := by
  rw [← not_iff_not, ← AuthorityDatabase.registrations_eq_none, hadds, not_or,
    ← AuthorityDatabase.registrations_eq_none]
  by_cases hsame : other = sessionId
  · simp [hsame]
  · simp [hsame]

/-- A session that is added agrees with the decisions, when it takes the place that the decision
for it names and inherits from there. -/
theorem Coherent.adds (hcoherent : Coherent db) {sessionId : WorkSessionId} {row : SessionRow}
    (hlinear : Linear after.authority.nodes)
    (hadds : AddsSession db.authority after.authority sessionId row)
    (hfresh : sessionId ∉ db.authority.sessions) (hdecisions : KeepsDecisions db after)
    (hplace : ∀ replacedSessionId decision,
      db.authority.replacements.lookup replacedSessionId = some decision →
        decision.pendingReconfirmation = true → decision.candidateSessionId = sessionId →
          row.replacesSessionId = some replacedSessionId)
    (hinherits : ∀ replacedSessionId, row.replacesSessionId = some replacedSessionId →
      ∃ replaced, db.authority.registrations replacedSessionId = some replaced ∧
        replaced.challengeId = row.challengeId ∧ replaced.poolOfferId = row.poolOfferId) :
    Coherent after where
  linear := hlinear
  paired := by
    rw [hdecisions.replacements, hdecisions.decided]
    exact hcoherent.paired
  status := by
    rw [hdecisions.replacements, hdecisions.decided]
    exact hcoherent.status
  known := by
    intro replacedSessionId hdecided
    rw [hdecisions.replacements] at hdecided
    exact hadds.mem.mpr (.inr (hcoherent.known replacedSessionId hdecided))
  unique := by
    rw [hdecisions.replacements]
    exact hcoherent.unique
  worked := by
    intro replacedSessionId decision session hdecision hsession
    rw [hdecisions.replacements] at hdecision
    rw [hadds] at hsession
    split at hsession
    · next hcandidate =>
        cases hsession
        cases hpending : decision.pendingReconfirmation with
        | true => exact hplace replacedSessionId decision hdecision hpending hcandidate
        | false =>
            exact absurd (hcandidate ▸ hcoherent.released _ decision hdecision hpending) hfresh
    · exact hcoherent.worked replacedSessionId decision session hdecision hsession
  released := by
    intro replacedSessionId decision hdecision hplain
    rw [hdecisions.replacements] at hdecision
    exact hadds.mem.mpr (.inr (hcoherent.released replacedSessionId decision hdecision hplain))
  inherits := by
    intro other session replacedSessionId hsession hreplaces
    have hkept : ∀ {name registered}, db.authority.registrations name = some registered →
        after.authority.registrations name = some registered := by
      intro name registered hregistered
      rw [hadds, if_neg]
      · exact hregistered
      · rintro rfl
        exact hfresh (mem_sessions_of_registration hregistered)
    rw [hadds] at hsession
    split at hsession
    · cases hsession
      obtain ⟨replaced, hreplaced, hsame⟩ := hinherits replacedSessionId hreplaces
      exact ⟨replaced, hkept hreplaced, hsame⟩
    · obtain ⟨replaced, hreplaced, hsame⟩ :=
        hcoherent.inherits other session replacedSessionId hsession hreplaces
      exact ⟨replaced, hkept hreplaced, hsame⟩

theorem NewReplacement.inherits {authority : AuthorityDatabase}
    {replacedSessionId sessionId : WorkSessionId} {row : SessionRow}
    (hnew : authority.NewReplacement replacedSessionId sessionId row) :
    ∀ other, row.replacesSessionId = some other →
      ∃ replaced, authority.registrations other = some replaced ∧
        replaced.challengeId = row.challengeId ∧ replaced.poolOfferId = row.poolOfferId := by
  intro other hreplaces
  rw [hnew.replaces, Option.some_inj] at hreplaces
  obtain ⟨replaced, reason, hreplaced, -, -, -, hchallenge, hoffer, -⟩ := hnew.replaced
  rw [← hreplaces]
  exact ⟨_, AuthorityDatabase.registrations_of_lookup hreplaced, hchallenge.symm, hoffer.symm⟩

/-- The rows of a database that stores a decision. -/
theorem StoresDecision.lookup {input : PersistPoolOfferReplacement}
    (hstores : StoresDecision db after input) {replacedSessionId : WorkSessionId}
    {row : ReplacementRow}
    (hrow : after.authority.replacements.lookup replacedSessionId = some row) :
    replacedSessionId = input.replacedSessionId ∧
        row = ⟨input.candidateSessionId, input.change.isMaterial⟩ ∨
      replacedSessionId ≠ input.replacedSessionId ∧
        db.authority.replacements.lookup replacedSessionId = some row := by
  rw [hstores.replacements, Rows.lookup_insert_eq] at hrow
  split at hrow
  · next hsame =>
      cases hrow
      exact .inl ⟨hsame, rfl⟩
  · next hother => exact .inr ⟨hother, hrow⟩

theorem StoresDecision.decided {input : PersistPoolOfferReplacement}
    (hstores : StoresDecision db after input) :
    ∃ decidedAt, ∀ replacedSessionId, after.decided replacedSessionId =
      if replacedSessionId = input.replacedSessionId then some (newDecision input decidedAt)
      else db.decided replacedSessionId := by
  obtain ⟨decidedAt, hdecisions⟩ := hstores.decisions
  refine ⟨decidedAt, fun replacedSessionId => ?_⟩
  rw [FailoverDatabase.decided, hdecisions, Rows.lookup_insert_eq]
  split
  · rfl
  · rfl

/-- A decision that is stored agrees with the sessions, when its candidate is there only where
nothing has to be confirmed and then takes its predecessor's place. -/
theorem Coherent.stores (hcoherent : Coherent db) {input : PersistPoolOfferReplacement}
    (hstores : StoresDecision db after input) (hlinear : Linear after.authority.nodes)
    (hkept : ∀ sessionId ∈ db.authority.sessions,
      after.authority.registrations sessionId = db.authority.registrations sessionId)
    (hcandidates : ∀ sessionId, sessionId ∈ after.authority.sessions →
      sessionId ∈ db.authority.sessions ∨ sessionId = input.candidateSessionId)
    (hcandidate : ∀ session,
      after.authority.registrations input.candidateSessionId = some session →
        session.replacesSessionId = some input.replacedSessionId ∧
          ∃ replaced, db.authority.registrations input.replacedSessionId = some replaced ∧
            replaced.challengeId = session.challengeId ∧
            replaced.poolOfferId = session.poolOfferId)
    (hworks : input.change.isMaterial = false →
      input.candidateSessionId ∈ after.authority.sessions) : Coherent after where
  linear := hlinear
  paired := by
    obtain ⟨decidedAt, hdecided⟩ := hstores.decided
    intro replacedSessionId
    rw [hstores.replacements, Rows.lookup_insert_eq, hdecided]
    split
    · rfl
    · exact hcoherent.paired replacedSessionId
  status := by
    obtain ⟨decidedAt, hdecided⟩ := hstores.decided
    intro replacedSessionId row columns hrow hcolumns
    rw [hdecided] at hcolumns
    rcases hstores.lookup hrow with ⟨hsame, rfl⟩ | ⟨hother, hrow⟩
    · rw [if_pos hsame] at hcolumns
      cases hcolumns
      rfl
    · rw [if_neg hother] at hcolumns
      exact hcoherent.status replacedSessionId row columns hrow hcolumns
  known := by
    intro replacedSessionId hdecided
    obtain ⟨row, hrow⟩ := Rows.exists_lookup_of_mem hdecided
    have hbefore : replacedSessionId ∈ db.authority.sessions := by
      rcases hstores.lookup hrow with ⟨rfl, -⟩ | ⟨-, hrow⟩
      · exact hstores.known
      · exact hcoherent.known replacedSessionId (Rows.mem_of_lookup hrow)
    by_contra hgone
    rw [← AuthorityDatabase.registrations_eq_none, hkept _ hbefore,
      AuthorityDatabase.registrations_eq_none] at hgone
    exact hgone hbefore
  unique := by
    intro first second row other hrow hother hcandidates
    rcases hstores.lookup hrow with ⟨rfl, rfl⟩ | ⟨-, hrow⟩
    · rcases hstores.lookup hother with ⟨rfl, -⟩ | ⟨-, hother⟩
      · rfl
      · exact absurd hcandidates.symm (hstores.unique second other hother)
    · rcases hstores.lookup hother with ⟨rfl, rfl⟩ | ⟨-, hother⟩
      · exact absurd hcandidates (hstores.unique first row hrow)
      · exact hcoherent.unique first second row other hrow hother hcandidates
  worked := by
    intro replacedSessionId row session hrow hsession
    rcases hstores.lookup hrow with ⟨rfl, rfl⟩ | ⟨-, hrow⟩
    · exact (hcandidate session hsession).1
    · rcases hcandidates _ (mem_sessions_of_registration hsession) with hbefore | hnew
      · rw [hkept _ hbefore] at hsession
        exact hcoherent.worked replacedSessionId row session hrow hsession
      · exact absurd hnew (hstores.unique replacedSessionId row hrow)
  released := by
    intro replacedSessionId row hrow hplain
    rcases hstores.lookup hrow with ⟨rfl, rfl⟩ | ⟨-, hrow⟩
    · exact hworks hplain
    · have hbefore := hcoherent.released replacedSessionId row hrow hplain
      by_contra hgone
      rw [← AuthorityDatabase.registrations_eq_none, hkept _ hbefore,
        AuthorityDatabase.registrations_eq_none] at hgone
      exact hgone hbefore
  inherits := by
    intro sessionId row replacedSessionId hrow hreplaces
    have hinherited : ∃ replaced, db.authority.registrations replacedSessionId = some replaced ∧
        replaced.challengeId = row.challengeId ∧ replaced.poolOfferId = row.poolOfferId := by
      rcases hcandidates _ (mem_sessions_of_registration hrow) with hbefore | rfl
      · rw [hkept _ hbefore] at hrow
        exact hcoherent.inherits sessionId row replacedSessionId hrow hreplaces
      · obtain ⟨hplace, hinherited⟩ := hcandidate row hrow
        rw [hreplaces, Option.some_inj] at hplace
        rw [hplace]
        exact hinherited
    obtain ⟨replaced, hreplaced, hsame⟩ := hinherited
    exact ⟨replaced, (hkept _ (mem_sessions_of_registration hreplaced)).trans hreplaced, hsame⟩

/-- Every step keeps sessions and decisions in agreement. -/
theorem Coherent.effect (hcoherent : Coherent db) (h : Effect db after) : Coherent after := by
  have hlinear := linear_effect h hcoherent.linear
  have hkept : ∀ sessionId ∈ db.authority.sessions,
      after.authority.registrations sessionId = db.authority.registrations sessionId :=
    fun sessionId hknown => h.registrations_kept hknown
  cases h with
  | keeps hregistrations hflags hdecisions => exact hcoherent.of_kept hregistrations hdecisions
  | registers sessionId row hfresh hunreserved hchallenge hready hadds hflags hdecisions =>
      apply hcoherent.adds hlinear hadds hfresh hdecisions
      · intro replacedSessionId decision hdecision hpending hcandidate
        have hreserved := hcoherent.reservedPredecessor_eq hdecision hpending
        rw [hcandidate, hunreserved] at hreserved
        cases hreserved
      · intro replacedSessionId hreplaces
        rw [hready.1] at hreplaces
        cases hreplaces
  | replaces replacedSessionId sessionId row released hmay hnew hadds hflags hdecisions =>
      apply hcoherent.adds hlinear hadds hnew.fresh hdecisions
      · intro other decision hdecision hpending hcandidate
        have hreserved := hcoherent.reservedPredecessor_eq hdecision hpending
        rw [hcandidate] at hreserved
        rw [(hmay.unreserved other hreserved).2]
        exact hnew.replaces
      · exact NewReplacement.inherits hnew
  | decides input row hequivalent hstores hnew hadds hflags =>
      apply hcoherent.stores hstores hlinear hkept
      · intro sessionId hmem
        exact (hadds.mem.mp hmem).symm
      · intro session hsession
        rw [hadds, if_pos rfl] at hsession
        cases hsession
        exact ⟨hnew.replaces, NewReplacement.inherits hnew _ hnew.replaces⟩
      · intro _
        exact hadds.mem.mpr (.inl rfl)
  | holds input hmaterial hstores hregistrations hflags =>
      apply hcoherent.stores hstores hlinear hkept
      · intro sessionId hmem
        exact .inl ((AuthorityDatabase.mem_sessions_of_registrations hregistrations).mp hmem)
      · intro session hsession
        rw [hregistrations] at hsession
        exact absurd (mem_sessions_of_registration hsession) hstores.fresh
      · intro hplain
        rw [hmaterial] at hplain
        cases hplain

end FailoverDatabase

end WorkGate
