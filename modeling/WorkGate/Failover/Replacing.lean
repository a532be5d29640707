/-
# What replacing a session does

A replacement is found again or made anew.  Both cases are stated once, with every guard the
transaction passed, and the first one also the other way round: a request that finds its own
replacement changes nothing, however often it comes.
-/

import WorkGate.Failover.Nodes

namespace WorkGate

open WorkGate.Library

namespace AuthorityDatabase

variable {db after : AuthorityDatabase} {replacedSessionId sessionId : WorkSessionId} {now : ℕ}
  {allowMaterialPending : Bool} {replacement : SessionReplacement}

/-- What a request passes before it looks for a replacement: the predecessor is there, no
pending decision holds it back, and no other predecessor's decision reserved the session. -/
structure MayReplace (db : AuthorityDatabase) (replacedSessionId sessionId : WorkSessionId)
    (allowMaterialPending : Bool) : Prop where
  known : ∃ replaced, db.sessions.lookup replacedSessionId = some replaced ∧
    replaced.challengeId ∈ db.challenges
  released : allowMaterialPending = false → ∀ row, db.replacements.lookup replacedSessionId =
    some row → row.pendingReconfirmation = false
  unreserved : ∀ reserved, db.reservedPredecessor sessionId = some reserved →
    allowMaterialPending = true ∧ reserved = replacedSessionId

/-- A replacement made anew: its predecessor stopped for a reason that allows it, nothing
replaced it before, and the generation is the next of the challenge. -/
structure NewReplacement (db : AuthorityDatabase) (replacedSessionId sessionId : WorkSessionId)
    (row : SessionRow) : Prop where
  fresh : sessionId ∉ db.sessions
  ready : IsReadySession row
  unflagged : row.materialTrustedConfirmationRequired = false
  replaces : row.replacesSessionId = some replacedSessionId
  replaced : ∃ replaced reason, db.sessions.lookup replacedSessionId = some replaced ∧
    (replaced.lifecycleState = .stopping ∨ replaced.lifecycleState = .failed) ∧
    replaced.stopReason = some reason ∧ reason.allowsReplacement = true ∧
    row.challengeId = replaced.challengeId ∧ row.poolOfferId = replaced.poolOfferId ∧
    row.payoutCommitment = replaced.payoutCommitment ∧ row.replacementReason = some reason
  unreplaced : ∀ other found, db.sessions.lookup other = some found →
    found.replacesSessionId ≠ some replacedSessionId
  next : ∀ other found, db.sessions.lookup other = some found →
    found.challengeId = row.challengeId → found.replacementGeneration < row.replacementGeneration

theorem le_foldl_max {values : List ℕ} {start value : ℕ} (h : value ≤ start ∨ value ∈ values) :
    value ≤ values.foldl max start := by
  induction values generalizing start with
  | nil => exact h.resolve_right List.not_mem_nil
  | cons first values ih =>
      rw [List.foldl_cons]
      apply ih
      rcases h with hstart | hmem
      · exact .inl (hstart.trans (le_max_left _ _))
      · rcases List.mem_cons.mp hmem with rfl | hmem
        · exact .inl (le_max_right _ _)
        · exact .inr hmem

/-- The next generation is above every one of the challenge. -/
theorem lt_nextGeneration {challengeId : ChallengeId} {other : WorkSessionId} {found : SessionRow}
    (hfound : db.sessions.lookup other = some found)
    (hchallenge : found.challengeId = challengeId) :
    found.replacementGeneration < ((db.sessions.entries.filter fun entry =>
      entry.2.challengeId = challengeId).map fun entry =>
        entry.2.replacementGeneration).foldl max 0 + 1 := by
  apply Nat.lt_succ_of_le
  apply le_foldl_max
  refine .inr (List.mem_map.mpr ⟨⟨other, found⟩, List.mem_filter.mpr ⟨?_, ?_⟩, rfl⟩)
  · exact Rows.mem_entries_iff.mpr hfound
  · exact decide_eq_true hchallenge

theorem replacesSessionId_of_find {existing : (_ : WorkSessionId) × SessionRow}
    (h : db.sessions.entries.find? (fun entry =>
      entry.2.replacesSessionId == some replacedSessionId) = some existing) :
    db.sessions.lookup existing.1 = some existing.2 ∧
      existing.2.replacesSessionId = some replacedSessionId :=
  ⟨Rows.mem_entries_iff.mp (List.mem_of_find?_eq_some h), beq_iff_eq.mp (List.find?_some
    (p := fun entry : (_ : WorkSessionId) × SessionRow =>
      entry.2.replacesSessionId == some replacedSessionId) h)⟩

/-- A replacement that succeeds passed its guards, and then found its session or made it. -/
theorem replaceWorkSessionInTransaction_spec
    (h : db.replaceWorkSessionInTransaction replacedSessionId sessionId now allowMaterialPending =
      .ok (after, replacement)) :
    MayReplace db replacedSessionId sessionId allowMaterialPending ∧
    ((∃ row, after = db ∧ db.sessions.lookup sessionId = some row ∧
        row.replacesSessionId = some replacedSessionId ∧
        replacementFromRow sessionId row = .ok replacement) ∨
      ∃ row, after = { db with sessions := db.sessions.insert sessionId row } ∧
        NewReplacement db replacedSessionId sessionId row ∧
        replacementFromRow sessionId row = .ok replacement) := by
  simp only [replaceWorkSessionInTransaction] at h
  split at h
  · cases h
  · next replaced hreplaced =>
      split at h
      · cases h
      · next challenge hchallenge =>
          obtain ⟨hreleased, h⟩ := guard_eq_ok h
          obtain ⟨hunreserved, h⟩ := guard_eq_ok h
          have hmay : MayReplace db replacedSessionId sessionId allowMaterialPending := by
            refine ⟨⟨replaced, hreplaced, Rows.mem_of_lookup hchallenge⟩, ?_, ?_⟩
            · intro hplain row hrow
              rw [hplain, hrow] at hreleased
              simpa using hreleased
            · intro reserved hreserved
              rw [hreserved] at hunreserved
              simpa using hunreserved
          refine ⟨hmay, ?_⟩
          split at h
          · next existing hexisting =>
              obtain ⟨found, hfound, h⟩ := bind_eq_ok.mp h
              obtain ⟨hsame, h⟩ := guard_eq_ok h
              cases h
              obtain ⟨hrow, hreplaces⟩ := replacesSessionId_of_find hexisting
              have hname : existing.1 = sessionId := by
                rw [← SessionEffect.replacementFromRow_sessionId hfound]
                exact not_not.mp hsame
              rw [hname] at hrow hfound
              exact .inl ⟨existing.2, rfl, hrow, hreplaces, hfound⟩
          · next hnone =>
              split at h
              · cases h
              · next reason hreason =>
                  obtain ⟨hallowed, h⟩ := guard_eq_ok h
                  rw [not_or, not_and_or, not_ne_iff, not_ne_iff, Bool.not_eq_false] at hallowed
                  split at h
                  · cases h
                  · obtain ⟨_, -, h⟩ := bind_eq_ok.mp h
                    obtain ⟨-, h⟩ := guard_eq_ok h
                    obtain ⟨hfresh, h⟩ := guard_eq_ok h
                    obtain ⟨found, hfound, h⟩ := bind_eq_ok.mp h
                    cases h
                    refine .inr ⟨_, rfl, ⟨hfresh, ⟨_, _, _, _, rfl⟩, rfl, rfl, ⟨replaced, reason,
                      hreplaced, hallowed.1, hreason, hallowed.2, rfl, rfl, rfl, rfl⟩, ?_, ?_⟩, ?_⟩
                    · intro other row hrow hreplaces
                      rw [List.find?_eq_none] at hnone
                      exact hnone _ (Rows.mem_entries_iff.mpr hrow) (beq_iff_eq.mpr hreplaces)
                    · intro other row hrow hsame
                      exact lt_nextGeneration hrow hsame
                    · exact hfound

/-- A request that passes its guards finds the replacement there is, and changes nothing. -/
theorem replaceWorkSessionInTransaction_replay (hlinear : Linear db.nodes)
    (hmay : MayReplace db replacedSessionId sessionId allowMaterialPending) {row : SessionRow}
    (hrow : db.sessions.lookup sessionId = some row)
    (hreplaces : row.replacesSessionId = some replacedSessionId)
    (hreplacement : replacementFromRow sessionId row = .ok replacement) (now : ℕ) :
    db.replaceWorkSessionInTransaction replacedSessionId sessionId now allowMaterialPending =
      .ok (db, replacement) := by
  obtain ⟨replaced, hreplaced, hchallenge⟩ := hmay.known
  obtain ⟨challenge, hchallenge⟩ := Rows.exists_lookup_of_mem hchallenge
  have hfound : db.sessions.entries.find? (fun entry =>
      entry.2.replacesSessionId == some replacedSessionId) = some ⟨sessionId, row⟩ := by
    cases hfind : db.sessions.entries.find? fun entry =>
        entry.2.replacesSessionId == some replacedSessionId with
    | none =>
        rw [List.find?_eq_none] at hfind
        exact absurd (beq_iff_eq.mpr hreplaces) (hfind _ (Rows.mem_entries_iff.mpr hrow))
    | some existing =>
        obtain ⟨hexisting, hsame⟩ := replacesSessionId_of_find hfind
        have hname := hlinear.single existing.1 sessionId _ _ replacedSessionId
          (nodes_of_lookup hexisting) (nodes_of_lookup hrow) hsame hreplaces
        obtain ⟨name, found⟩ := existing
        cases hname
        rw [hrow] at hexisting
        cases hexisting
        rfl
  have hname := SessionEffect.replacementFromRow_sessionId hreplacement
  simp only [replaceWorkSessionInTransaction, hreplaced, hchallenge, hfound, hreplacement]
  refine (if_neg (ne_true_of_eq_false ?_)).trans ?_
  · -- No replacement of this session is pending.
    cases hallow : allowMaterialPending with
    | true => simp
    | false =>
        cases hlookup : db.replacements.lookup replacedSessionId with
        | none => rfl
        | some found => simpa using hmay.released hallow found hlookup
  refine (if_neg (ne_true_of_eq_false ?_)).trans ?_
  · -- The name is not reserved for another session.
    cases hlookup : db.reservedPredecessor sessionId with
    | none => rfl
    | some reserved =>
        obtain ⟨hallow, hsame⟩ := hmay.unreserved reserved hlookup
        simp [hallow, hsame]
  exact if_neg (not_not.mpr hname)

end AuthorityDatabase

end WorkGate
