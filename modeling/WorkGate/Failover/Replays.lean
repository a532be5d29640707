/-
# Requests that come again

A request that was answered with a replacement, or with a decision that is worked on at once,
leaves everything behind that the same request looks for.  However many transactions later it
comes again, it gets the same answer and writes nothing.
-/

import WorkGate.Authority.Selections
import WorkGate.Failover.Linearity

namespace WorkGate

open WorkGate.Library

namespace FailoverDatabase

variable {world : OfferWorld} {db after : FailoverDatabase}

/-! ## Stored decisions -/

/-- A decision that is stored, whatever its confirmation. -/
structure Stored (db : FailoverDatabase) (replacedSessionId : WorkSessionId)
    (row : ReplacementRow) (columns : DecisionColumns) : Prop where
  row : db.authority.replacements.lookup replacedSessionId = some row
  columns : db.decided replacedSessionId = some columns.decided

theorem Stored.effect {replacedSessionId : WorkSessionId} {row : ReplacementRow}
    {columns : DecisionColumns} (hstored : Stored db replacedSessionId row columns)
    (h : Effect db after) : Stored after replacedSessionId row columns := by
  obtain ⟨hrow, hcolumns⟩ := h.decision_kept (Rows.mem_of_lookup hstored.row)
  exact ⟨hrow.trans hstored.row, hcolumns.trans hstored.columns⟩

/-- A decision that is selected is stored. -/
theorem stored_of_selected {replacedSessionId : WorkSessionId} {row : ReplacementRow}
    {columns : DecisionColumns} (h : db.selectReplacement replacedSessionId = some (row, columns)) :
    Stored db replacedSessionId row columns := by
  rw [selectReplacement] at h
  split at h
  · next found stored hfound hstored =>
      cases h
      exact ⟨hfound, by rw [decided, hstored, Option.map_some]⟩
  · cases h

/-- A decision that is stored is selected, with some confirmation. -/
theorem Stored.selected {replacedSessionId : WorkSessionId} {row : ReplacementRow}
    {columns : DecisionColumns} (hstored : Stored db replacedSessionId row columns) :
    ∃ later, db.selectReplacement replacedSessionId = some (row, later) ∧
      later.decided = columns.decided := by
  obtain ⟨later, hlater, hsame⟩ := Option.map_eq_some_iff.mp hstored.columns
  exact ⟨later, by rw [selectReplacement, hstored.row, hlater], hsame⟩

/-- Reading a decision does not look at its confirmation. -/
theorem decisionFromRow_decided (replacedSessionId : WorkSessionId) (row : ReplacementRow)
    (columns : DecisionColumns) :
    decisionFromRow replacedSessionId row columns.decided =
      decisionFromRow replacedSessionId row columns := rfl

/-! ## Decisions that are worked on -/

/-- A decision for an equivalent offer is there, and the session that works on it. -/
structure WorkedOn (db : FailoverDatabase) (input : PersistPoolOfferReplacement)
    (decision : PoolOfferReplacementDecision) : Prop where
  equivalent : input.change.isMaterial = false
  challenge : ∃ predecessor, db.authority.sessions.lookup input.replacedSessionId =
    some predecessor ∧ predecessor.challengeId = input.challengeId
  checked : input.candidateSignature.isEmpty = false ∧
    validDigest input.candidateSetDigest = true
  stored : ∃ row columns, Stored db input.replacedSessionId row columns ∧
    decisionFromRow input.replacedSessionId row columns = .ok decision ∧
    row.candidateSessionId = input.candidateSessionId ∧
    columns.candidateSetDigest = input.candidateSetDigest
  same : decision.priorOffer = input.priorOffer ∧ decision.candidateOffer = input.candidateOffer ∧
    decision.change = input.change
  replaced : ∃ replacement, Replaced db input.replacedSessionId input.candidateSessionId false
    replacement

theorem WorkedOn.effect {input : PersistPoolOfferReplacement}
    {decision : PoolOfferReplacementDecision} (hworked : WorkedOn db input decision)
    (h : Effect db after) (hchallenges : ∀ challengeId ∈ db.authority.challenges,
      challengeId ∈ after.authority.challenges) : WorkedOn after input decision := by
  obtain ⟨hequivalent, ⟨predecessor, hpredecessor, hchallenge⟩, hchecked, ⟨row, columns, hstored,
    hread⟩, hsame, replacement, hreplaced⟩ := hworked
  obtain ⟨later, hlater, hregistration⟩ := h.lookup_kept hpredecessor
  refine ⟨hequivalent, ⟨later, hlater, ?_⟩, hchecked, ⟨row, columns, hstored.effect h, hread⟩,
    hsame, replacement, hreplaced.effect h hchallenges⟩
  show later.registration.challengeId = _
  rw [hregistration]
  exact hchallenge

/-- An answer that names a replacement session leaves the decision worked on. -/
theorem workedOn_of_persist {input : PersistPoolOfferReplacement}
    {decision : PoolOfferReplacementDecision} (h : (db.persist input).2 = .ok decision)
    (hworks : decision.maybeReplacementSessionId.isSome = true) :
    WorkedOn (db.persist input).1 input decision := by
  simp only [persist] at h ⊢
  split at h
  · cases h
  · next written persisted hpersisted =>
      cases h
      obtain ⟨inserted, row, columns, found, hpersists, hreleased⟩ :=
        persistInTransaction_eq_ok.mp hpersisted
      obtain ⟨⟨predecessor, hpredecessor, -, hchallenge⟩, -, ⟨decidedAt, -, hinserted⟩, hselected,
        hread, hprior, hcandidate, hchange, hname, hdigest⟩ := hpersists
      obtain ⟨⟨hsignature, hdigests, -⟩, hcases⟩ := insertReplacement_cases hinserted
      have hsessions : inserted.authority.sessions = db.authority.sessions := by
        obtain ⟨rfl, -⟩ | ⟨-, -, rfl⟩ := hcases
        · rfl
        · rfl
      have hstored := stored_of_selected hselected
      rw [releaseEquivalent] at hreleased
      split at hreleased
      · next hmaterial =>
          -- A decision on a material change is read without a replacement session.
          obtain ⟨-, hreleased⟩ := guard_eq_ok hreleased
          cases hreleased
          rw [← hchange] at hmaterial
          simp only [decisionFromRow, mapError_eq_ok, PoolOfferReplacementDecision.persisted]
            at hread
          obtain ⟨hshape, hread⟩ := guard_eq_ok hread
          cases hread
          simp [hmaterial, hworks] at hshape
      · next hequivalent =>
          obtain ⟨⟨authority, replacement⟩, hreplaced, hreleased⟩ := bind_eq_ok.mp hreleased
          cases hreleased
          have hthere := replaced_of_transaction inserted.decisions hreplaced
          have hkept : authority.replacements = inserted.authority.replacements ∧
              ∃ later, authority.sessions.lookup input.replacedSessionId = some later ∧
                later.challengeId = input.challengeId := by
            obtain ⟨-, ⟨session, rfl, -⟩ | ⟨session, rfl, hnew, -⟩⟩ :=
              AuthorityDatabase.replaceWorkSessionInTransaction_spec hreplaced
            · exact ⟨rfl, predecessor, by rw [hsessions, hpredecessor], hchallenge⟩
            · refine ⟨rfl, predecessor, ?_, hchallenge⟩
              show (inserted.authority.sessions.insert _ session).lookup _ = _
              rw [Rows.lookup_insert_eq, if_neg, hsessions, hpredecessor]
              intro hsame
              apply hnew.fresh
              rw [← hsame, hsessions]
              exact Rows.mem_of_lookup hpredecessor
          refine ⟨Bool.eq_false_iff.mpr hequivalent, hkept.2, ⟨hsignature, hdigests⟩, ⟨row,
            columns, ⟨?_, hstored.columns⟩, hread, hname, hdigest⟩, ⟨hprior, hcandidate, hchange⟩,
            replacement, hthere⟩
          rw [hkept.1]
          exact hstored.row

/-- A decision that is worked on is found again, and nothing changes. -/
theorem WorkedOn.replay {input : PersistPoolOfferReplacement}
    {decision : PoolOfferReplacementDecision} (hworked : WorkedOn db input decision)
    (hlinear : Linear db.authority.nodes) {later decidedAt : ℕ}
    (hinstant : unixSecondsToI64 later = .ok decidedAt) (hpositive : decidedAt ≠ 0) :
    db.persist { input with now := later } = (db, .ok decision) := by
  obtain ⟨hequivalent, ⟨predecessor, hpredecessor, hchallenge⟩, ⟨hsignature, hdigest⟩, ⟨row,
    columns, hstored, hread, hname, hsetDigest⟩, ⟨hprior, hcandidate, hchange⟩, replacement,
    hmay, session, hsession, hreplaces, hreplacement⟩ := hworked
  obtain ⟨found, hselected, hsame⟩ := hstored.selected
  have hdecided := Rows.mem_of_lookup hstored.row
  have hinserted : db.insertReplacement { input with now := later } decidedAt = .ok db := by
    have hchecks : (input.candidateSignature.isEmpty || !validDigest input.candidateSetDigest ||
        decidedAt == 0) = false := by
      simp [hsignature, hdigest, hpositive]
    rw [insertReplacement, if_neg (ne_true_of_eq_false hchecks), if_pos hdecided]
  have hpersists : Persists db { input with now := later } db row found decision := by
    obtain ⟨replaced, hreplaced, hknown⟩ := hmay.known
    rw [hpredecessor] at hreplaced
    cases hreplaced
    refine ⟨⟨predecessor, hpredecessor, hknown, hchallenge⟩, fun _ => hdecided,
      ⟨decidedAt, hinstant, hinserted⟩, hselected, ?_, hprior, hcandidate, hchange, hname, ?_⟩
    · rw [← decisionFromRow_decided, hsame, decisionFromRow_decided]
      exact hread
    · exact (congrArg DecisionColumns.candidateSetDigest hsame).trans hsetDigest
  have htransaction : db.persistInTransaction { input with now := later } = .ok (db, decision) := by
    refine persistInTransaction_eq_ok.mpr ⟨db, row, found, decision, hpersists, ?_⟩
    apply (if_neg (ne_true_of_eq_false hequivalent)).trans
    refine bind_eq_ok.mpr ⟨(db.authority, replacement), ?_, rfl⟩
    exact AuthorityDatabase.replaceWorkSessionInTransaction_replay hlinear hmay hsession
      hreplaces hreplacement later
  rw [persist, htransaction]

/-! ## Replays -/

/-- A request for a replacement that was answered, and the same request at another time. -/
inductive Replays : FailoverRequest → FailoverReply → FailoverRequest → Prop
  | replaced (replacedSessionId sessionId : WorkSessionId) (now later : ℕ)
      (replacement : SessionReplacement) :
      Replays (.authority (.replaceWorkSession replacedSessionId sessionId now))
        (.authority (.replacement replacement))
        (.authority (.replaceWorkSession replacedSessionId sessionId later))
  | released (replacedSessionId candidateSessionId : WorkSessionId) (now later : ℕ)
      (replacement : SessionReplacement) :
      Replays
        (.authority (.releaseMaterialPoolOfferReplacement replacedSessionId candidateSessionId now))
        (.authority (.replacement replacement))
        (.authority
          (.releaseMaterialPoolOfferReplacement replacedSessionId candidateSessionId later))
  | decided (input : PersistPoolOfferReplacement) (decision : PoolOfferReplacementDecision)
      (later decidedAt : ℕ) (hworks : decision.maybeReplacementSessionId.isSome = true)
      (hinstant : unixSecondsToI64 later = .ok decidedAt) (hpositive : decidedAt ≠ 0) :
      Replays (.persist input) (.decided (.ok decision)) (.persist { input with now := later })

/-- What an answered request leaves behind for its replay. -/
def Leaves (db : FailoverDatabase) : FailoverRequest → FailoverReply → Prop
  | .authority (.replaceWorkSession replacedSessionId sessionId _),
      .authority (.replacement replacement) =>
        Replaced db replacedSessionId sessionId false replacement
  | .authority (.releaseMaterialPoolOfferReplacement replacedSessionId candidateSessionId _),
      .authority (.replacement replacement) =>
        Replaced db replacedSessionId candidateSessionId true replacement ∧
          db.authority.flags candidateSessionId = some true
  | .persist input, .decided (.ok decision) =>
      decision.maybeReplacementSessionId.isSome = true → WorkedOn db input decision
  | _, _ => True

/-- What a request leaves behind stays. -/
theorem Leaves.effect {request : FailoverRequest} {reply : FailoverReply}
    (hleaves : Leaves db request reply) (h : Effect db after)
    (hchallenges : ∀ challengeId ∈ db.authority.challenges,
      challengeId ∈ after.authority.challenges) : Leaves after request reply := by
  unfold Leaves at hleaves ⊢
  split
  · exact hleaves.effect h hchallenges
  · exact ⟨hleaves.1.effect h hchallenges, h.flags_kept hleaves.2⟩
  · intro hworks
    exact (hleaves hworks).effect h hchallenges
  · exact trivial

theorem replaced_of_replaceWorkSession (db : FailoverDatabase)
    {replacedSessionId sessionId : WorkSessionId} {now : ℕ} {replacement : SessionReplacement}
    (h : (db.authority.replaceWorkSession replacedSessionId sessionId now).2 = .ok replacement) :
    Replaced { db with
      authority := (db.authority.replaceWorkSession replacedSessionId sessionId now).1 }
      replacedSessionId sessionId false replacement := by
  simp only [AuthorityDatabase.replaceWorkSession] at h ⊢
  split at h
  · cases h
  · next written found hreplaced =>
      cases h
      exact replaced_of_transaction db.decisions hreplaced

theorem replaced_of_release (db : FailoverDatabase)
    {replacedSessionId candidateSessionId : WorkSessionId} {now : ℕ}
    {replacement : SessionReplacement}
    (h : (db.authority.releaseMaterialPoolOfferReplacement replacedSessionId candidateSessionId
      now).2 = .ok replacement) :
    Replaced { db with
      authority := (db.authority.releaseMaterialPoolOfferReplacement replacedSessionId
        candidateSessionId now).1 } replacedSessionId candidateSessionId true replacement ∧
      (db.authority.releaseMaterialPoolOfferReplacement replacedSessionId candidateSessionId
        now).1.flags candidateSessionId = some true := by
  simp only [AuthorityDatabase.releaseMaterialPoolOfferReplacement] at h ⊢
  split at h
  · cases h
  · next written found hreplaced =>
      cases h
      have hthere := replaced_of_transaction db.decisions hreplaced
      obtain ⟨row, hrow, -⟩ := hthere.found
      refine ⟨hthere.effect (.keeps (registrations_flag _ _) ?_ ⟨rfl, rfl⟩) fun _ h => h, ?_⟩
      · intro other hflag
        refine (flags_flag candidateSessionId other).trans ?_
        rw [hflag]
        split
        · rfl
        · rfl
      · refine (flags_flag candidateSessionId candidateSessionId).trans ?_
        rw [if_pos rfl, AuthorityDatabase.flags, show written.sessions.lookup candidateSessionId =
          some row from hrow]
        rfl

/-- A request leaves behind what its replay needs. -/
theorem leaves_step (world : OfferWorld) (db : FailoverDatabase) (request : FailoverRequest) :
    Leaves (failoverStep world db request).1 request (failoverStep world db request).2 := by
  cases request with
  | authority request =>
      cases request with
      | replaceWorkSession replacedSessionId sessionId now =>
          simp only [failoverStep, authorityStep, answer]
          cases hresult : (db.authority.replaceWorkSession replacedSessionId sessionId now).2 with
          | error error => exact trivial
          | ok replacement => exact replaced_of_replaceWorkSession db hresult
      | releaseMaterialPoolOfferReplacement replacedSessionId candidateSessionId now =>
          simp only [failoverStep, authorityStep, answer]
          cases hresult : (db.authority.releaseMaterialPoolOfferReplacement replacedSessionId
              candidateSessionId now).2 with
          | error error => exact trivial
          | ok replacement => exact replaced_of_release db hresult
      | _ => exact trivial
  | ceremonies rows => exact trivial
  | persist input =>
      simp only [failoverStep]
      cases hresult : (db.persist input).2 with
      | error error => exact trivial
      | ok decision => exact workedOn_of_persist hresult
  | persistConfirmation confirmation signatureDigestSha256 => exact trivial

/-- Whatever was left behind, the replay finds it. -/
theorem Leaves.replay {request replayed : FailoverRequest} {reply : FailoverReply}
    (hleaves : Leaves db request reply) (hreplays : Replays request reply replayed)
    (hlinear : Linear db.authority.nodes) : failoverStep world db replayed = (db, reply) := by
  cases hreplays with
  | replaced replacedSessionId sessionId now later replacement =>
      obtain ⟨hmay, row, hrow, hreplaces, hread⟩ := hleaves
      have hreplay := AuthorityDatabase.replaceWorkSessionInTransaction_replay hlinear hmay hrow
        hreplaces hread later
      simp only [failoverStep, authorityStep, answer, AuthorityDatabase.replaceWorkSession, hreplay,
        commit]
  | released replacedSessionId candidateSessionId now later replacement =>
      obtain ⟨⟨hmay, row, hrow, hreplaces, hread⟩, hflag⟩ := hleaves
      have hreplay := AuthorityDatabase.replaceWorkSessionInTransaction_replay hlinear hmay hrow
        hreplaces hread later
      have hwritten : db.authority.sessions.updateRow candidateSessionId (fun row =>
          { row with materialTrustedConfirmationRequired := true }) = db.authority.sessions := by
        apply Rows.updateRow_eq_self hrow
        rw [AuthorityDatabase.flags, hrow, Option.map_some, Option.some_inj] at hflag
        rw [← hflag]
      simp only [failoverStep, authorityStep, answer,
        AuthorityDatabase.releaseMaterialPoolOfferReplacement, hreplay, hwritten,
        commit]
  | decided input decision later decidedAt hworks hinstant hpositive =>
      have hreplay := (hleaves hworks).replay hlinear hinstant hpositive
      simp only [failoverStep, hreplay]

/-- Everything that a run answered can be asked again. -/
theorem replay_run {history : List (FailoverRequest × FailoverReply)}
    (hrun : (failoverStore world).Run history db) {request replayed : FailoverRequest}
    {reply : FailoverReply} (hanswered : (request, reply) ∈ history)
    (hreplays : Replays request reply replayed) : failoverStep world db replayed = (db, reply) := by
  have hleaves : ∀ entry ∈ history, Leaves db entry.1 entry.2 := by
    refine Machine.Run.invariant (P := fun history db => ∀ entry ∈ history,
      Leaves db entry.1 entry.2) ?_ ?_ hrun
    · intro entry hentry
      cases hentry
    · intro history db request hadmits hearlier entry hentry
      rcases List.mem_cons.mp hentry with rfl | hentry
      · exact leaves_step world db request
      · exact (hearlier entry hentry).effect (effect_step world db hadmits)
          fun challengeId => mem_challenges_step world db request
  exact (hleaves _ hanswered).replay hreplays (linear_run hrun)

end FailoverDatabase

/-! ## The history of replacements -/

/-- One session replaced another. -/
def AuthorityDatabase.Replaces (db : AuthorityDatabase) (later earlier : WorkSessionId) : Prop :=
  ∃ row, db.sessions.lookup later = some row ∧ row.replacesSessionId = some earlier

/-- The history of replacements: at most one for a session, generations that tell sessions of a
challenge apart and grow along the relation, and 0 for those registered originally. -/
structure AuthorityDatabase.LinearHistory (db : AuthorityDatabase) : Prop where
  single : ∀ replacedSessionId, db.sessions.entries.countP (fun entry =>
    entry.2.replacesSessionId == some replacedSessionId) ≤ 1
  original : ∀ sessionId row, db.sessions.lookup sessionId = some row →
    (row.replacesSessionId = none → row.replacementGeneration = 0) ∧
      (row.replacesSessionId.isSome = true → 0 < row.replacementGeneration)
  distinct : ∀ first second row other, db.sessions.lookup first = some row →
    db.sessions.lookup second = some other → row.challengeId = other.challengeId →
      row.replacesSessionId.isSome = true → other.replacesSessionId.isSome = true →
        row.replacementGeneration = other.replacementGeneration → first = second
  increasing : ∀ later earlier, Relation.TransGen db.Replaces later earlier →
    ∃ row found, db.sessions.lookup later = some row ∧ db.sessions.lookup earlier = some found ∧
      found.challengeId = row.challengeId ∧
      found.replacementGeneration < row.replacementGeneration
  acyclic : ∀ sessionId, ¬ Relation.TransGen db.Replaces sessionId sessionId

namespace AuthorityDatabase

theorem replaces_iff {db : AuthorityDatabase} {later earlier : WorkSessionId} :
    db.Replaces later earlier ↔ Succeeds db.nodes later earlier := by
  constructor
  · rintro ⟨row, hrow, hreplaces⟩
    exact ⟨row.node, nodes_of_lookup hrow, hreplaces⟩
  · rintro ⟨node, hnode, hpredecessor⟩
    obtain ⟨row, hrow, rfl⟩ := Option.map_eq_some_iff.mp hnode
    exact ⟨row, hrow, hpredecessor⟩

/-- Sessions in lines have a linear history. -/
theorem linearHistory {db : AuthorityDatabase} (hlinear : Linear db.nodes) :
    db.LinearHistory where
  single := by
    intro replacedSessionId
    apply Rows.countP_entries_le_one
    intro first second hfirst hsecond hone htwo
    exact hlinear.single first.1 second.1 _ _ replacedSessionId
      (nodes_of_lookup (Rows.mem_entries_iff.mp hfirst))
      (nodes_of_lookup (Rows.mem_entries_iff.mp hsecond)) (beq_iff_eq.mp hone)
      (beq_iff_eq.mp htwo)
  original := by
    intro sessionId row hrow
    have hzero : row.replacesSessionId = none ↔ row.replacementGeneration = 0 :=
      hlinear.original sessionId row.node (nodes_of_lookup hrow)
    refine ⟨hzero.mp, fun hreplaces => Nat.pos_of_ne_zero fun hgeneration => ?_⟩
    rw [hzero.mpr hgeneration] at hreplaces
    cases hreplaces
  distinct := by
    intro first second row other hrow hother hchallenge hreplaces _ hsame
    apply hlinear.distinct first second row.node other.node (nodes_of_lookup hrow)
      (nodes_of_lookup hother) hchallenge hsame
    apply Nat.pos_of_ne_zero
    intro hgeneration
    have hnone := (hlinear.original first row.node (nodes_of_lookup hrow)).mpr hgeneration
    rw [show row.replacesSessionId = none from hnone] at hreplaces
    cases hreplaces
  increasing := by
    intro later earlier hreplaces
    induction hreplaces with
    | single hstep =>
        obtain ⟨row, hrow, hreplaces⟩ := hstep
        obtain ⟨node, hnode, hgroup, hless⟩ :=
          hlinear.succeeds later row.node _ (nodes_of_lookup hrow) hreplaces
        obtain ⟨found, hfound, rfl⟩ := Option.map_eq_some_iff.mp hnode
        exact ⟨row, found, hrow, hfound, hgroup, hless⟩
    | tail _ hstep ih =>
        obtain ⟨row, middle, hrow, hmiddle, hchallenge, hless⟩ := ih
        obtain ⟨next, hnext, hreplaces⟩ := hstep
        rw [hmiddle] at hnext
        cases hnext
        obtain ⟨node, hnode, hgroup, hlower⟩ :=
          hlinear.succeeds _ middle.node _ (nodes_of_lookup hmiddle) hreplaces
        obtain ⟨found, hfound, rfl⟩ := Option.map_eq_some_iff.mp hnode
        exact ⟨row, found, hrow, hfound, Eq.trans hgroup hchallenge, hlower.trans hless⟩
  acyclic := by
    intro sessionId hcycle
    apply hlinear.acyclic sessionId
    exact Relation.TransGen.mono (fun _ _ hstep => replaces_iff.mp hstep) sessionId sessionId hcycle

/-- A session that may be replaced: it stopped, or failed, for a reason that allows it. -/
def Replaceable (db : AuthorityDatabase) (sessionId : WorkSessionId) : Prop :=
  ∃ row reason, db.sessions.lookup sessionId = some row ∧
    (row.lifecycleState = .stopping ∨ row.lifecycleState = .failed) ∧
    row.stopReason = some reason ∧ reason.allowsReplacement = true

theorem NewReplacement.replaceable {db : AuthorityDatabase}
    {replacedSessionId sessionId : WorkSessionId} {row : SessionRow}
    (hnew : db.NewReplacement replacedSessionId sessionId row) :
    db.Replaceable replacedSessionId := by
  obtain ⟨replaced, reason, hreplaced, hstate, hreason, hallowed, -⟩ := hnew.replaced
  exact ⟨replaced, reason, hreplaced, hstate, hreason, hallowed⟩

end AuthorityDatabase

namespace FailoverDatabase

variable {db after : FailoverDatabase}

/-- A session that appears as a replacement has a predecessor that could be replaced. -/
theorem replaceable_of_effect (h : Effect db after) {replacedSessionId sessionId : WorkSessionId}
    {row : SessionRow} (hfresh : sessionId ∉ db.authority.sessions)
    (hrow : after.authority.sessions.lookup sessionId = some row)
    (hreplaces : row.replacesSessionId = some replacedSessionId) :
    db.authority.Replaceable replacedSessionId := by
  have hregistered := AuthorityDatabase.registrations_of_lookup hrow
  have hunknown := AuthorityDatabase.registrations_eq_none.mpr hfresh
  have hadded : ∀ {other added}, AddsSession db.authority after.authority other added →
      added.replacesSessionId = row.replacesSessionId := by
    intro other added hadds
    rw [hadds] at hregistered
    split at hregistered
    · have hsame := congrArg (Option.map SessionRow.replacesSessionId) hregistered
      exact Option.some.inj hsame
    · rw [hunknown] at hregistered
      cases hregistered
  have hanew : ∀ {replaced other added}, db.authority.NewReplacement replaced other added →
      AddsSession db.authority after.authority other added →
      db.authority.Replaceable replacedSessionId := by
    intro replaced other added hnew hadds
    have hsame := hadded hadds
    rw [hreplaces, hnew.replaces, Option.some_inj] at hsame
    rw [← hsame]
    exact hnew.replaceable
  cases h with
  | keeps hregistrations hflags hdecisions =>
      rw [hregistrations, hunknown] at hregistered
      cases hregistered
  | registers other added hfresh hunreserved hchallenge hready hadds hflags hdecisions =>
      have hsame := hadded hadds
      rw [hreplaces, hready.1] at hsame
      cases hsame
  | replaces replaced other added released hmay hnew hadds hflags hdecisions =>
      exact hanew hnew hadds
  | decides input added hequivalent hstores hnew hadds hflags => exact hanew hnew hadds
  | holds input hmaterial hstores hregistrations hflags =>
      rw [hregistrations, hunknown] at hregistered
      cases hregistered

end FailoverDatabase

/-- Replacement sessions form a linear history in every state: at most one replacement for a
session, generations that are 0 for original sessions, positive and distinct for the
replacements of a challenge, and growing along the relation.  A replacement is only made for a
session that may be replaced, and whatever request made one gets it again and changes nothing. -/
theorem replacementSessions_linear (world : OfferWorld)
    {history : List (FailoverRequest × FailoverReply)} {db : FailoverDatabase}
    (hrun : (failoverStore world).Run history db) :
    db.authority.LinearHistory ∧
    (∀ request replacedSessionId sessionId row, request.bypasses = false →
      sessionId ∉ db.authority.sessions →
      (failoverStep world db request).1.authority.sessions.lookup sessionId = some row →
      row.replacesSessionId = some replacedSessionId →
        db.authority.Replaceable replacedSessionId) ∧
    ∀ request reply replayed, (request, reply) ∈ history →
      FailoverDatabase.Replays request reply replayed →
        failoverStep world db replayed = (db, reply) := by
  refine ⟨AuthorityDatabase.linearHistory (FailoverDatabase.linear_run hrun), ?_, ?_⟩
  · intro request replacedSessionId sessionId row hadmits hfresh hrow hreplaces
    exact FailoverDatabase.replaceable_of_effect
      (FailoverDatabase.effect_step world db hadmits) hfresh hrow hreplaces
  · intro request reply replayed hanswered hreplays
    exact FailoverDatabase.replay_run hrun hanswered hreplays

/-- The world of examples: no set of offers verifies, and no endpoint parses. -/
def closedOfferWorld : OfferWorld where
  parseEndpoint := fun _ => none
  verifyAuthorityPayload := fun _ => none

/-- The replaced session of a single share challenge fails, and is replaced in turn. -/
def replacedTwiceRequests : List FailoverRequest :=
  replacedSessionRequests.map .authority ++
    [.authority (.failWorkSession ⟨"session_b", validSession_b⟩)] ++
    [.authority (.replaceWorkSession ⟨"session_b", validSession_b⟩ ⟨"session_c", validSession_c⟩ 8)]

theorem replacedTwiceRequests_linear :
    ∃ history db, (failoverStore closedOfferWorld).Run history db ∧
      db.authority.LinearHistory ∧
      db.authority.Replaces ⟨"session_c", by decide⟩ ⟨"session_b", by decide⟩ ∧
      failoverStep closedOfferWorld db
        (.authority (.replaceWorkSession ⟨"session_b", by decide⟩ ⟨"session_c", by decide⟩ 9)) =
          (db, .authority (.replacement ⟨⟨"session_c", by decide⟩, ⟨"session_b", by decide⟩, 2,
            .sessionFailed⟩)) := by
  have hrun := Machine.run_replay (M := failoverStore closedOfferWorld) replacedTwiceRequests
    (by decide +kernel)
  obtain ⟨hlinear, -, hreplays⟩ := replacementSessions_linear closedOfferWorld hrun
  refine ⟨_, _, hrun, hlinear, ?_, hreplays _ _ _ ?_ (.replaced _ _ 8 _ _)⟩
  · have hreplaces : (((failoverStore closedOfferWorld).replay
        replacedTwiceRequests).2.authority.sessions.lookup ⟨"session_c", by decide⟩).map
          (fun row => row.replacesSessionId) = some (some ⟨"session_b", by decide⟩) := by
      decide +kernel
    exact Option.map_eq_some_iff.mp hreplaces
  · have hlast := Machine.replay_concat (M := failoverStore closedOfferWorld)
      (replacedSessionRequests.map .authority ++
        [.authority (.failWorkSession ⟨"session_b", by decide⟩)])
      (.authority (.replaceWorkSession ⟨"session_b", by decide⟩ ⟨"session_c", by decide⟩ 8))
    have hreply : (authorityStep ((failoverStore closedOfferWorld).replay
        (replacedSessionRequests.map .authority ++
          [.authority (.failWorkSession ⟨"session_b", by decide⟩)])).2.authority
        (.replaceWorkSession ⟨"session_b", by decide⟩ ⟨"session_c", by decide⟩ 8)).2 =
          .replacement ⟨⟨"session_c", by decide⟩, ⟨"session_b", by decide⟩, 2, .sessionFailed⟩ := by
      decide +kernel
    rw [replacedTwiceRequests, hlast, ← hreply]
    exact List.mem_cons_self

end WorkGate
