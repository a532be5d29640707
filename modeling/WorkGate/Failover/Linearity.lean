/-
# Replacements form lines

Every step adds at most one session, at the start of a line or after a session nothing
succeeded, so the sessions stay in lines.  A replacement and a decision that are there stay
there, which is why a request that made one finds it when it comes again.
-/

import WorkGate.Failover.Effects

namespace WorkGate

open WorkGate.Library

namespace FailoverDatabase

variable {world : OfferWorld} {db after : FailoverDatabase}

/-! ## What a step keeps -/

/-- Registered sessions keep their registration. -/
theorem Effect.registrations_kept (h : Effect db after) {sessionId : WorkSessionId}
    (hknown : sessionId ∈ db.authority.sessions) :
    after.authority.registrations sessionId = db.authority.registrations sessionId := by
  have hadded : ∀ {other row}, other ∉ db.authority.sessions →
      AddsSession db.authority after.authority other row →
      after.authority.registrations sessionId = db.authority.registrations sessionId := by
    intro other row hfresh hadds
    rw [hadds, if_neg]
    rintro rfl
    exact hfresh hknown
  cases h with
  | keeps hregistrations hflags hdecisions => exact congrFun hregistrations sessionId
  | registers other row hfresh hunreserved hchallenge hready hadds hflags hdecisions =>
      exact hadded hfresh hadds
  | replaces replacedSessionId other row released hmay hnew hadds hflags hdecisions =>
      exact hadded hnew.fresh hadds
  | decides input row hequivalent hstores hnew hadds hflags => exact hadded hnew.fresh hadds
  | holds input hmaterial hstores hregistrations hflags => exact congrFun hregistrations sessionId

/-- A registered session is still there, with its registration. -/
theorem Effect.lookup_kept (h : Effect db after) {sessionId : WorkSessionId} {row : SessionRow}
    (hrow : db.authority.sessions.lookup sessionId = some row) :
    ∃ later, after.authority.sessions.lookup sessionId = some later ∧
      later.registration = row.registration :=
  AuthorityDatabase.lookup_of_registrations (h.registrations_kept (Rows.mem_of_lookup hrow)) hrow

/-- A session that must be confirmed on its own stays so. -/
theorem Effect.flags_kept (h : Effect db after) {sessionId : WorkSessionId}
    (hflag : db.authority.flags sessionId = some true) :
    after.authority.flags sessionId = some true := by
  have hknown : sessionId ∈ db.authority.sessions := by
    by_contra hfresh
    rw [AuthorityDatabase.flags, AList.lookup_eq_none.mpr hfresh] at hflag
    cases hflag
  cases h with
  | keeps hregistrations hflags hdecisions => exact hflags sessionId hflag
  | registers other row hfresh hunreserved hchallenge hready hadds hflags hdecisions =>
      rw [hflags]
      · exact hflag
      · rintro rfl
        exact hfresh hknown
  | replaces replacedSessionId other row released hmay hnew hadds hflags hdecisions =>
      rw [hflags, if_neg]
      · exact hflag
      · rintro rfl
        exact hnew.fresh hknown
  | decides input row hequivalent hstores hnew hadds hflags =>
      rw [hflags]
      · exact hflag
      · rintro rfl
        exact hnew.fresh hknown
  | holds input hmaterial hstores hregistrations hflags => rw [hflags, hflag]

/-- A decision that is there stays as it is, its confirmation apart. -/
theorem Effect.decision_kept (h : Effect db after) {replacedSessionId : WorkSessionId}
    (hdecided : replacedSessionId ∈ db.authority.replacements) :
    after.authority.replacements.lookup replacedSessionId =
        db.authority.replacements.lookup replacedSessionId ∧
      after.decided replacedSessionId = db.decided replacedSessionId := by
  have hkept : KeepsDecisions db after → _ := fun hdecisions =>
    (⟨by rw [hdecisions.replacements], by rw [hdecisions.decided]⟩ :
      after.authority.replacements.lookup replacedSessionId =
          db.authority.replacements.lookup replacedSessionId ∧
        after.decided replacedSessionId = db.decided replacedSessionId)
  have hstored : ∀ {input}, StoresDecision db after input →
      after.authority.replacements.lookup replacedSessionId =
          db.authority.replacements.lookup replacedSessionId ∧
        after.decided replacedSessionId = db.decided replacedSessionId := by
    intro input hstores
    have hne : replacedSessionId ≠ input.replacedSessionId := by
      rintro rfl
      exact hstores.undecided hdecided
    obtain ⟨decidedAt, hdecisions⟩ := hstores.decisions
    constructor
    · rw [hstores.replacements, Rows.lookup_insert_eq, if_neg hne]
    · rw [decided, decided, hdecisions, Rows.lookup_insert_eq, if_neg hne]
  cases h with
  | keeps hregistrations hflags hdecisions => exact hkept hdecisions
  | registers other row hfresh hunreserved hchallenge hready hadds hflags hdecisions =>
      exact hkept hdecisions
  | replaces replaced other row released hmay hnew hadds hflags hdecisions => exact hkept hdecisions
  | decides input row hequivalent hstores hnew hadds hflags => exact hstored hstores
  | holds input hmaterial hstores hregistrations hflags => exact hstored hstores

theorem persist_challenges (db : FailoverDatabase) (input : PersistPoolOfferReplacement) :
    (db.persist input).1.authority.challenges = db.authority.challenges := by
  simp only [persist]
  split
  · rfl
  · next written decision hpersisted =>
      obtain ⟨inserted, row, columns, found, hpersists, hreleased⟩ :=
        persistInTransaction_eq_ok.mp hpersisted
      obtain ⟨decidedAt, -, hinserted⟩ := hpersists.inserts
      have hsame : inserted.authority.challenges = db.authority.challenges := by
        obtain ⟨-, ⟨rfl, -⟩ | ⟨-, -, rfl⟩⟩ := insertReplacement_cases hinserted
        · rfl
        · rfl
      rw [releaseEquivalent] at hreleased
      split at hreleased
      · obtain ⟨-, hreleased⟩ := guard_eq_ok hreleased
        cases hreleased
        exact hsame
      · obtain ⟨⟨authority, replacement⟩, hreplaced, hreleased⟩ := bind_eq_ok.mp hreleased
        cases hreleased
        obtain ⟨-, ⟨session, rfl, -⟩ | ⟨session, rfl, -⟩⟩ :=
          AuthorityDatabase.replaceWorkSessionInTransaction_spec hreplaced
        · exact hsame
        · exact hsame

/-- Challenges stay. -/
theorem mem_challenges_step (world : OfferWorld) (db : FailoverDatabase)
    (request : FailoverRequest) {challengeId : ChallengeId}
    (hknown : challengeId ∈ db.authority.challenges) :
    challengeId ∈ (failoverStep world db request).1.authority.challenges := by
  cases request with
  | authority request =>
      obtain ⟨row, hrow⟩ := Rows.exists_lookup_of_mem hknown
      obtain ⟨later, hlater, -⟩ :=
        AuthorityDatabase.neverReopens_step db.authority request challengeId row hrow
      exact Rows.mem_of_lookup hlater
  | ceremonies rows => exact hknown
  | persist input =>
      show challengeId ∈ (db.persist input).1.authority.challenges
      rw [persist_challenges]
      exact hknown
  | persistConfirmation confirmation signatureDigestSha256 =>
      show challengeId ∈
        (db.persistConfirmation world confirmation signatureDigestSha256).1.authority.challenges
      rw [persistConfirmation_authority]
      exact hknown

/-! ## Lines -/

theorem nodes_addsSession {authority later : AuthorityDatabase} {sessionId : WorkSessionId}
    {row : SessionRow} (hadds : AddsSession authority later sessionId row)
    (other : WorkSessionId) :
    later.nodes other = if other = sessionId then some row.node else authority.nodes other := by
  rw [AuthorityDatabase.nodes_eq_map_registrations, AuthorityDatabase.nodes_eq_map_registrations,
    hadds]
  split
  · rfl
  · rfl

theorem nodes_eq_none {authority : AuthorityDatabase} {sessionId : WorkSessionId}
    (hfresh : sessionId ∉ authority.sessions) : authority.nodes sessionId = none := by
  rw [AuthorityDatabase.nodes, AList.lookup_eq_none.mpr hfresh]
  rfl

/-- A replacement made anew goes at the end of its line. -/
theorem linear_newReplacement {authority later : AuthorityDatabase}
    {replacedSessionId sessionId : WorkSessionId} {row : SessionRow}
    (hlinear : Linear authority.nodes)
    (hnew : authority.NewReplacement replacedSessionId sessionId row)
    (hadds : AddsSession authority later sessionId row) : Linear later.nodes := by
  obtain ⟨replaced, reason, hreplaced, -, -, -, hchallenge, -⟩ := hnew.replaced
  have hpredecessor : row.node.maybePredecessor = some replacedSessionId := hnew.replaces
  apply hlinear.succeed (nodes_eq_none hnew.fresh) (AuthorityDatabase.nodes_of_lookup hreplaced)
    hpredecessor hchallenge.symm
  · intro other found hfound
    obtain ⟨session, hsession, rfl⟩ := Option.map_eq_some_iff.mp hfound
    exact hnew.unreplaced other session hsession
  · intro other found hfound hgroup
    obtain ⟨session, hsession, rfl⟩ := Option.map_eq_some_iff.mp hfound
    exact hnew.next other session hsession hgroup
  · exact nodes_addsSession hadds

theorem linear_of_registrations {authority later : AuthorityDatabase}
    (hlinear : Linear authority.nodes) (hsame : later.registrations = authority.registrations) :
    Linear later.nodes := by
  have hnodes : later.nodes = authority.nodes := by
    funext sessionId
    rw [AuthorityDatabase.nodes_eq_map_registrations,
      AuthorityDatabase.nodes_eq_map_registrations, hsame]
  rw [hnodes]
  exact hlinear

/-- The sessions stay in lines. -/
theorem linear_effect (h : Effect db after) (hlinear : Linear db.authority.nodes) :
    Linear after.authority.nodes := by
  cases h with
  | keeps hregistrations hflags hdecisions => exact linear_of_registrations hlinear hregistrations
  | registers sessionId row hfresh hunreserved hchallenge hready hadds hflags hdecisions =>
      exact hlinear.register (nodes_eq_none hfresh) hready.1 hready.2 (nodes_addsSession hadds)
  | replaces replacedSessionId sessionId row released hmay hnew hadds hflags hdecisions =>
      exact linear_newReplacement hlinear hnew hadds
  | decides input row hequivalent hstores hnew hadds hflags =>
      exact linear_newReplacement hlinear hnew hadds
  | holds input hmaterial hstores hregistrations hflags =>
      exact linear_of_registrations hlinear hregistrations

theorem linear_run {history : List (FailoverRequest × FailoverReply)}
    (hrun : (failoverStore world).Run history db) : Linear db.authority.nodes := by
  refine Machine.Run.invariant (P := fun _ db => Linear db.authority.nodes) Linear.start ?_ hrun
  intro history db request hadmits hlinear
  exact linear_effect (effect_step world db hadmits) hlinear

/-! ## Replacements that are there -/

/-- A replacement there is to find: a request for it passes the guards and then reads it. -/
structure Replaced (db : FailoverDatabase) (replacedSessionId sessionId : WorkSessionId)
    (allowMaterialPending : Bool) (replacement : SessionReplacement) : Prop where
  may : db.authority.MayReplace replacedSessionId sessionId allowMaterialPending
  found : ∃ row, db.authority.sessions.lookup sessionId = some row ∧
    row.replacesSessionId = some replacedSessionId ∧
    AuthorityDatabase.replacementFromRow sessionId row = .ok replacement

theorem replacementFromRow_registration (sessionId : WorkSessionId) (row : SessionRow) :
    AuthorityDatabase.replacementFromRow sessionId row.registration =
      AuthorityDatabase.replacementFromRow sessionId row := rfl

/-- A decision for another session reserves nothing for this one. -/
theorem reservedPredecessor_insert {authority later : AuthorityDatabase}
    {replacedSessionId sessionId : WorkSessionId} {row : ReplacementRow}
    (hlater : later.replacements = authority.replacements.insert replacedSessionId row)
    (hundecided : replacedSessionId ∉ authority.replacements)
    (hother : row.candidateSessionId ≠ sessionId) :
    later.reservedPredecessor sessionId = authority.reservedPredecessor sessionId := by
  have hrow : (row.candidateSessionId == sessionId && row.pendingReconfirmation) = false := by
    rw [beq_false_of_ne hother, Bool.false_and]
  rw [AuthorityDatabase.reservedPredecessor, AuthorityDatabase.reservedPredecessor, hlater,
    AList.entries_insert_of_notMem hundecided, List.find?_cons, hrow]

/-- A replacement that is there stays there. -/
theorem Replaced.effect {replacedSessionId sessionId : WorkSessionId}
    {allowMaterialPending : Bool} {replacement : SessionReplacement}
    (hreplaced : Replaced db replacedSessionId sessionId allowMaterialPending replacement)
    (h : Effect db after)
    (hchallenges : ∀ challengeId ∈ db.authority.challenges,
      challengeId ∈ after.authority.challenges) :
    Replaced after replacedSessionId sessionId allowMaterialPending replacement := by
  obtain ⟨⟨⟨replaced, hlookup, hchallenge⟩, hreleased, hunreserved⟩, row, hrow, hreplaces,
    hread⟩ := hreplaced
  obtain ⟨later, hlater, hregistration⟩ := h.lookup_kept hrow
  have hfound : ∃ row, after.authority.sessions.lookup sessionId = some row ∧
      row.replacesSessionId = some replacedSessionId ∧
      AuthorityDatabase.replacementFromRow sessionId row = .ok replacement := by
    refine ⟨later, hlater, ?_, ?_⟩
    · exact (congrArg SessionRow.replacesSessionId hregistration).trans hreplaces
    · rw [← replacementFromRow_registration, hregistration, replacementFromRow_registration]
      exact hread
  have hknown : ∃ replaced, after.authority.sessions.lookup replacedSessionId = some replaced ∧
      replaced.challengeId ∈ after.authority.challenges := by
    obtain ⟨other, hother, hsame⟩ := h.lookup_kept hlookup
    refine ⟨other, hother, ?_⟩
    show other.registration.challengeId ∈ _
    rw [hsame]
    exact hchallenges _ hchallenge
  have hkept : KeepsDecisions db after → Replaced after replacedSessionId sessionId
      allowMaterialPending replacement := by
    intro hdecisions
    refine ⟨⟨hknown, ?_, ?_⟩, hfound⟩
    · rw [hdecisions.replacements]
      exact hreleased
    · rw [AuthorityDatabase.reservedPredecessor, hdecisions.replacements]
      exact hunreserved
  -- A new decision is for a session nothing replaced, and its candidate is not there yet.
  have hstored : ∀ {input}, StoresDecision db after input → Replaced after replacedSessionId
      sessionId allowMaterialPending replacement := by
    intro input hstores
    refine ⟨⟨hknown, ?_, ?_⟩, hfound⟩
    · intro hplain found hdecision
      rw [hstores.replacements, Rows.lookup_insert_eq, if_neg] at hdecision
      · exact hreleased hplain found hdecision
      · rintro rfl
        exact hstores.unreplaced sessionId row hrow hreplaces
    · rw [reservedPredecessor_insert hstores.replacements hstores.undecided]
      · exact hunreserved
      · rintro rfl
        exact hstores.fresh (Rows.mem_of_lookup hrow)
  cases h with
  | keeps hregistrations hflags hdecisions => exact hkept hdecisions
  | registers other row hfresh hunreserved hchallenge hready hadds hflags hdecisions =>
      exact hkept hdecisions
  | replaces other session row released hmay hnew hadds hflags hdecisions => exact hkept hdecisions
  | decides input row hequivalent hstores hnew hadds hflags => exact hstored hstores
  | holds input hmaterial hstores hregistrations hflags => exact hstored hstores

/-- Where a transaction answers a replacement, it is there afterwards. -/
theorem replaced_of_transaction {authority written : AuthorityDatabase}
    (decisions : Rows WorkSessionId DecisionColumns) {replacedSessionId sessionId : WorkSessionId}
    {now : ℕ} {allowMaterialPending : Bool} {replacement : SessionReplacement}
    (h : authority.replaceWorkSessionInTransaction replacedSessionId sessionId now
      allowMaterialPending = .ok (written, replacement)) :
    Replaced ⟨written, decisions⟩ replacedSessionId sessionId allowMaterialPending
      replacement := by
  obtain ⟨hmay, ⟨row, rfl, hrow, hreplaces, hread⟩ | ⟨row, rfl, hnew, hread⟩⟩ :=
    AuthorityDatabase.replaceWorkSessionInTransaction_spec h
  · exact ⟨hmay, row, hrow, hreplaces, hread⟩
  · obtain ⟨⟨replaced, hreplaced, hchallenge⟩, hreleased, hunreserved⟩ := hmay
    refine ⟨⟨⟨replaced, ?_, hchallenge⟩, hreleased, hunreserved⟩, row, ?_, hnew.replaces, hread⟩
    · show (authority.sessions.insert sessionId row).lookup replacedSessionId = _
      rw [Rows.lookup_insert_eq, if_neg]
      · exact hreplaced
      · rintro rfl
        exact hnew.fresh (Rows.mem_of_lookup hreplaced)
    · show (authority.sessions.insert sessionId row).lookup sessionId = _
      rw [Rows.lookup_insert_eq, if_pos rfl]

end FailoverDatabase

end WorkGate
