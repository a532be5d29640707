/-
# Proofs of the claimant (src/authority_application.rs,
# src/authority_application/worker_lease.rs)

An issuance lookup and every operation on a Work Session carry a proof signed by the
claimant's key.  Each proof is consumed: its identity is stored until the proof is no longer
fresh, and expired identities are dropped on the way.
-/

import WorkGate.Authority.Consent
import WorkGate.Authority.Frames
import WorkGate.Library.SingleUse

namespace WorkGate

open WorkGate.Library

/-- What the signature of an issuance proof binds. -/
structure IssuanceProof where
  claimantJkt : String
  proofId : String
  httpMethod : String
  httpUri : String
  issuedAt : ℕ
  challengeId : String

/-- What the signature of a Work Session proof binds. -/
structure WorkSessionProof where
  claimantJkt : String
  proofId : String
  httpUri : String
  issuedAt : ℕ
  challengeId : String
  requestSha256 : String

inductive WorkSessionOperation
  | start
  | resume
  | renew
  | pause
  | cancel
  | poolSelection

/-- `path_segment`. -/
def WorkSessionOperation.pathSegment : WorkSessionOperation → String
  | .start => "start"
  | .resume => "resume"
  | .renew => "renew"
  | .pause => "pause"
  | .cancel => "cancel"
  | .poolSelection => "pool-selection"

/-- Every occurrence of a pattern replaced, from the left; the count says how many characters
of the last one are still to be skipped. -/
def replaceChars (pattern replacement : List Char) : ℕ → List Char → List Char
  | _, [] => []
  | skipped + 1, _ :: rest => replaceChars pattern replacement skipped rest
  | 0, first :: rest =>
      if pattern.isPrefixOf (first :: rest) then
        replacement ++ replaceChars pattern replacement (pattern.length - 1) rest
      else first :: replaceChars pattern replacement 0 rest

/-- `str::replace`, for a pattern that is not empty. -/
def replaceText (text pattern replacement : String) : String :=
  String.ofList (replaceChars pattern.toList replacement.toList 0 text.toList)

/-- The URLs the Authority publishes, the signatures its verifiers accept, the digest it takes
and the keys its descriptors hold. -/
structure ProofWorld where
  gatePassUrlTemplate : String
  workSessionUrlTemplate : String
  verifyIssuanceProof : String → Option IssuanceProof
  verifyWorkSessionProof : String → Option WorkSessionProof
  sha256Base64Url : List UInt8 → String
  /-- The thumbprint of the key a challenge was issued to. -/
  claimantJkt : ChallengeId → Option String

namespace ProofWorld

/-- `issuance_lookup_url`. -/
def issuanceLookupUrl (world : ProofWorld) (challengeId : ChallengeId) : String :=
  replaceText world.gatePassUrlTemplate "\x7bchallenge_id\x7d" challengeId.text

/-- `work_session_url`. -/
def workSessionUrl (world : ProofWorld) (challengeId : ChallengeId)
    (operation : WorkSessionOperation) : String :=
  replaceText world.workSessionUrlTemplate "\x7bchallenge_id\x7d" challengeId.text ++ "/" ++
    operation.pathSegment

end ProofWorld

/-- `ISSUANCE_PROOF_FRESHNESS_SECONDS` and `WORK_SESSION_PROOF_FRESHNESS_SECONDS`. -/
def claimantProofFreshnessSeconds : ℕ := 60

/-- `u64::abs_diff`. -/
def absDiff (left right : ℕ) : ℕ := (left - right) + (right - left)

namespace AuthorityDatabase

/-- What both kinds of request do with a proof of the right request: it has to be fresh and of
the claimant's own key, and is consumed. -/
def consumeFreshProof (world : ProofWorld) (db : AuthorityDatabase) (challengeId : ChallengeId)
    (claimantJkt proofId : String) (issuedAt now : ℕ) :
    AuthorityDatabase × Except AuthorityApplicationError Unit :=
  if absDiff now issuedAt > claimantProofFreshnessSeconds then (db, .error .staleIssuanceProof)
  else if challengeId ∉ db.challenges then (db, .error (.ofPersistence .unknownChallenge))
  else match world.claimantJkt challengeId with
    | none => (db, .error .invalidClaimantKey)
    | some jkt =>
      if claimantJkt ≠ jkt then (db, .error .wrongClaimantKey)
      else if issuedAt + claimantProofFreshnessSeconds ≥ 2 ^ 64 then (db, .error .timeOverflow)
      else
        let consumed := db.consumeIssuanceProof challengeId proofId
          (issuedAt + claimantProofFreshnessSeconds) now
        (consumed.1, consumed.2.mapError .ofPersistence)

/-- `issuance`, up to the lookup it makes once the proof is consumed. -/
def verifyIssuanceRequest (world : ProofWorld) (db : AuthorityDatabase) (challengeId : ChallengeId)
    (compactProof : String) (now : ℕ) : AuthorityDatabase × Except AuthorityApplicationError Unit :=
  match world.verifyIssuanceProof compactProof with
  | none => (db, .error .invalidClaimantProof)
  | some proof =>
    if proof.challengeId ≠ challengeId.text ∨ proof.httpMethod ≠ "GET" ∨
        proof.httpUri ≠ world.issuanceLookupUrl challengeId then
      (db, .error .wrongIssuanceProofRequest)
    else db.consumeFreshProof world challengeId proof.claimantJkt proof.proofId proof.issuedAt now

/-- `verify_claimant_work_session_request`. -/
def verifyClaimantWorkSessionRequest (world : ProofWorld) (db : AuthorityDatabase)
    (challengeId : ChallengeId) (operation : WorkSessionOperation) (compactProof : String)
    (body : List UInt8) (now : ℕ) : AuthorityDatabase × Except AuthorityApplicationError Unit :=
  match world.verifyWorkSessionProof compactProof with
  | none => (db, .error .invalidClaimantProof)
  | some proof =>
    if proof.challengeId ≠ challengeId.text ∨
        proof.httpUri ≠ world.workSessionUrl challengeId operation ∨
        proof.requestSha256 ≠ world.sha256Base64Url body then
      (db, .error .wrongIssuanceProofRequest)
    else db.consumeFreshProof world challengeId proof.claimantJkt proof.proofId proof.issuedAt now

/-- `delete_issuance_proof`: retention drops one expired identity. -/
def deleteIssuanceProof (db : AuthorityDatabase) (proofId : String) (expiresAt now : ℕ) :
    AuthorityDatabase :=
  { db with claimantProofs := db.claimantProofs.keepRows fun name row =>
      !decide (name = proofId ∧ row.expiresAtUnixSeconds = expiresAt ∧
        row.expiresAtUnixSeconds < now) }

end AuthorityDatabase

/-! ## Requests -/

/-- The requests that present a proof, a retention item, and every other transaction. -/
inductive ProofRequest
  | issuance (challengeId : ChallengeId) (compactProof : String) (now : ℕ)
  | workSession (challengeId : ChallengeId) (operation : WorkSessionOperation)
      (compactProof : String) (body : List UInt8) (now : ℕ)
  | deleteIssuanceProof (proofId : String) (expiresAt now : ℕ)
  | transaction (request : AuthorityRequest)

inductive ProofReply
  | verified (result : Except AuthorityApplicationError Unit)
  | done
  | transaction (reply : AuthorityReply)

/-- When a request runs, where that matters to it. -/
def ProofRequest.maybeNow : ProofRequest → Option ℕ
  | .issuance _ _ now | .workSession _ _ _ _ now | .deleteIssuanceProof _ _ now => some now
  | .transaction request => request.maybeNow

/-- The identity of the proof a request presents, and when it was issued. -/
def ProofRequest.presented (world : ProofWorld) : ProofRequest → Option (String × ℕ)
  | .issuance _ compactProof _ =>
      (world.verifyIssuanceProof compactProof).map fun proof => (proof.proofId, proof.issuedAt)
  | .workSession _ _ compactProof _ _ =>
      (world.verifyWorkSessionProof compactProof).map fun proof => (proof.proofId, proof.issuedAt)
  | _ => none

/-- Whether a request consumes a proof without presenting it. -/
def ProofRequest.bypasses : ProofRequest → Bool
  | .transaction (.consumeIssuanceProof _ _ _ _) => true
  | _ => false

/-- One request. -/
def proofStep (world : ProofWorld) (db : AuthorityDatabase) :
    ProofRequest → AuthorityDatabase × ProofReply
  | .issuance challengeId compactProof now =>
      let verified := db.verifyIssuanceRequest world challengeId compactProof now
      (verified.1, .verified verified.2)
  | .workSession challengeId operation compactProof body now =>
      let verified := db.verifyClaimantWorkSessionRequest world challengeId operation compactProof
        body now
      (verified.1, .verified verified.2)
  | .deleteIssuanceProof proofId expiresAt now =>
      (db.deleteIssuanceProof proofId expiresAt now, .done)
  | .transaction request =>
      let after := authorityStep db request
      (after.1, .transaction after.2)

/-- The latest instant at which a request of the history ran. -/
def latestProofTime : List (ProofRequest × ProofReply) → ℕ
  | [] => 0
  | (request, _) :: earlier => max (request.maybeNow.getD 0) (latestProofTime earlier)

/-- The Authority's store under these requests and a clock that never goes back.  Proofs are
consumed by the requests that present them alone. -/
def proofAuthority (world : ProofWorld) : Machine AuthorityDatabase ProofRequest ProofReply where
  init := AuthorityDatabase.empty
  admits := fun history _ request =>
    (∀ now ∈ request.maybeNow, latestProofTime history ≤ now) ∧ request.bypasses = false
  step := proofStep world

instance decidableAdmitsProof (world : ProofWorld) (history : List (ProofRequest × ProofReply))
    (db : AuthorityDatabase) (request : ProofRequest) :
    Decidable ((proofAuthority world).admits history db request) :=
  inferInstanceAs (Decidable ((∀ now ∈ request.maybeNow, latestProofTime history ≤ now) ∧
    request.bypasses = false))

/-- The proofs that were accepted, newest first. -/
def acceptedProofs (world : ProofWorld) : List (ProofRequest × ProofReply) → List (String × ℕ)
  | [] => []
  | (request, .verified (.ok ())) :: earlier =>
      (request.presented world).toList ++ acceptedProofs world earlier
  | _ :: earlier => acceptedProofs world earlier

namespace AuthorityDatabase

variable {world : ProofWorld} {db : AuthorityDatabase}

/-- Until when the identity of a proof is stored. -/
def heldProof (db : AuthorityDatabase) (proofId : String) : Option ℕ :=
  (db.claimantProofs.lookup proofId).map (·.expiresAtUnixSeconds)

theorem heldProof_deleteExpiredProofs (db : AuthorityDatabase) (now : ℕ) (proofId : String) :
    (db.deleteExpiredProofs now).heldProof proofId =
      (db.heldProof proofId).filter fun expiresAt => !decide (expiresAt < now) := by
  rw [heldProof, heldProof, deleteExpiredProofs, Rows.lookup_keepRows]
  cases db.claimantProofs.lookup proofId with
  | none => rfl
  | some row =>
      rw [Option.map_some, Option.filter_some, Option.filter_some]
      split
      · rfl
      · rfl

/-- A purge keeps what has not expired. -/
theorem heldProof_deleteExpiredProofs_of_le {proofId : String} {expiresAt now : ℕ}
    (hheld : db.heldProof proofId = some expiresAt) (hlive : now ≤ expiresAt) :
    (db.deleteExpiredProofs now).heldProof proofId = some expiresAt := by
  rw [heldProof_deleteExpiredProofs, hheld]
  simp [not_lt.mpr hlive]

/-- What a purge drops has expired. -/
theorem lt_of_not_mem_deleteExpiredProofs {proofId : String} {expiresAt now : ℕ}
    (hdropped : proofId ∉ (db.deleteExpiredProofs now).claimantProofs)
    (hheld : db.heldProof proofId = some expiresAt) : expiresAt < now := by
  by_contra hlive
  have hkept := heldProof_deleteExpiredProofs_of_le hheld (not_lt.mp hlive)
  obtain ⟨row, hrow, -⟩ := Option.map_eq_some_iff.mp hkept
  exact hdropped (Rows.mem_of_lookup hrow)

theorem consumeIssuanceProof_cases (db : AuthorityDatabase) (challengeId : ChallengeId)
    (proofId : String) (expiresAt now : ℕ) :
    (∃ error, db.consumeIssuanceProof challengeId proofId expiresAt now = (db, .error error)) ∨
      proofId ∉ (db.deleteExpiredProofs now).claimantProofs ∧
        db.consumeIssuanceProof challengeId proofId expiresAt now =
          ({ db.deleteExpiredProofs now with
            claimantProofs := (db.deleteExpiredProofs now).claimantProofs.insert proofId
              ⟨challengeId, expiresAt⟩ }, .ok ()) := by
  simp only [consumeIssuanceProof]
  split
  · exact .inl ⟨_, rfl⟩
  · exact .inl ⟨_, rfl⟩
  · next hnow hexpires =>
      obtain ⟨rfl, -⟩ := unixSecondsToI64_eq_ok hnow
      obtain ⟨rfl, -⟩ := unixSecondsToI64_eq_ok hexpires
      split
      · exact .inl ⟨_, rfl⟩
      · next hnew =>
          split
          · exact .inl ⟨_, rfl⟩
          · exact .inr ⟨hnew, rfl⟩

/-- A proof that is consumed is fresh and its identity is not stored; from then on it is. -/
structure ConsumesProof (db : AuthorityDatabase) (proofId : String) (issuedAt now : ℕ)
    (after : AuthorityDatabase) : Prop where
  fresh : absDiff now issuedAt ≤ claimantProofFreshnessSeconds
  new : proofId ∉ (db.deleteExpiredProofs now).claimantProofs
  held : ∀ name, after.heldProof name =
    if name = proofId then some (issuedAt + claimantProofFreshnessSeconds)
    else (db.deleteExpiredProofs now).heldProof name

theorem consumeFreshProof_cases (world : ProofWorld) (db : AuthorityDatabase)
    (challengeId : ChallengeId) (claimantJkt proofId : String) (issuedAt now : ℕ) :
    (∃ error, db.consumeFreshProof world challengeId claimantJkt proofId issuedAt now =
        (db, .error error)) ∨
      ∃ after, db.consumeFreshProof world challengeId claimantJkt proofId issuedAt now =
        (after, .ok ()) ∧ db.ConsumesProof proofId issuedAt now after := by
  simp only [consumeFreshProof]
  split
  · exact .inl ⟨_, rfl⟩
  · next hfresh =>
      split
      · exact .inl ⟨_, rfl⟩
      · split
        · exact .inl ⟨_, rfl⟩
        · split
          · exact .inl ⟨_, rfl⟩
          · split
            · exact .inl ⟨_, rfl⟩
            · rcases db.consumeIssuanceProof_cases challengeId proofId
                (issuedAt + claimantProofFreshnessSeconds) now with
                ⟨error, hrefused⟩ | ⟨hnew, hconsumed⟩
              · exact .inl ⟨.ofPersistence error, by rw [hrefused]; rfl⟩
              · refine .inr ⟨_, by rw [hconsumed]; rfl, not_lt.mp hfresh, hnew, ?_⟩
                intro name
                rw [heldProof, Rows.lookup_insert_eq]
                split
                · rfl
                · rfl

/-- A stale proof is not consumed. -/
theorem consumeFreshProof_stale {challengeId : ChallengeId} {claimantJkt proofId : String}
    {issuedAt now : ℕ} (hstale : claimantProofFreshnessSeconds < absDiff now issuedAt) :
    db.consumeFreshProof world challengeId claimantJkt proofId issuedAt now =
      (db, .error .staleIssuanceProof) := by
  rw [consumeFreshProof, if_pos hstale]

end AuthorityDatabase

open AuthorityDatabase

variable {world : ProofWorld} {db : AuthorityDatabase} {request : ProofRequest}
  {history : List (ProofRequest × ProofReply)}

/-! ## One request -/

/-- A request that presents a proof is refused, or the proof is consumed. -/
theorem proofStep_presented (db : AuthorityDatabase) {proofId : String} {issuedAt : ℕ}
    (hpresented : request.presented world = some (proofId, issuedAt)) :
    ∃ now, request.maybeNow = some now ∧
      ((∃ error, proofStep world db request = (db, .verified (.error error))) ∨
        ∃ after, proofStep world db request = (after, .verified (.ok ())) ∧
          db.ConsumesProof proofId issuedAt now after) := by
  cases request with
  | issuance challengeId compactProof now =>
      refine ⟨now, rfl, ?_⟩
      obtain ⟨proof, hproof, hnamed⟩ := Option.map_eq_some_iff.mp hpresented
      cases hnamed
      simp only [proofStep, verifyIssuanceRequest, hproof]
      split
      · exact .inl ⟨_, rfl⟩
      · rcases db.consumeFreshProof_cases world challengeId proof.claimantJkt proof.proofId
          proof.issuedAt now with ⟨error, hrefused⟩ | ⟨after, haccepted, hconsumes⟩
        · exact .inl ⟨error, by rw [hrefused]⟩
        · exact .inr ⟨after, by rw [haccepted], hconsumes⟩
  | workSession challengeId operation compactProof body now =>
      refine ⟨now, rfl, ?_⟩
      obtain ⟨proof, hproof, hnamed⟩ := Option.map_eq_some_iff.mp hpresented
      cases hnamed
      simp only [proofStep, verifyClaimantWorkSessionRequest, hproof]
      split
      · exact .inl ⟨_, rfl⟩
      · rcases db.consumeFreshProof_cases world challengeId proof.claimantJkt proof.proofId
          proof.issuedAt now with ⟨error, hrefused⟩ | ⟨after, haccepted, hconsumes⟩
        · exact .inl ⟨error, by rw [hrefused]⟩
        · exact .inr ⟨after, by rw [haccepted], hconsumes⟩
  | deleteIssuanceProof => cases hpresented
  | transaction => cases hpresented

/-- A stale proof is refused by the freshness check, unless it was made for another request. -/
theorem proofStep_stale {proofId : String} {issuedAt now : ℕ}
    (hpresented : request.presented world = some (proofId, issuedAt))
    (hnow : request.maybeNow = some now)
    (hstale : claimantProofFreshnessSeconds < absDiff now issuedAt) :
    proofStep world db request = (db, .verified (.error .staleIssuanceProof)) ∨
      proofStep world db request = (db, .verified (.error .wrongIssuanceProofRequest)) := by
  cases request with
  | issuance challengeId compactProof presentedAt =>
      cases hnow
      obtain ⟨proof, hproof, hnamed⟩ := Option.map_eq_some_iff.mp hpresented
      cases hnamed
      simp only [proofStep, verifyIssuanceRequest, hproof]
      split
      · exact .inr rfl
      · exact .inl (by rw [consumeFreshProof_stale hstale])
  | workSession challengeId operation compactProof body presentedAt =>
      cases hnow
      obtain ⟨proof, hproof, hnamed⟩ := Option.map_eq_some_iff.mp hpresented
      cases hnamed
      simp only [proofStep, verifyClaimantWorkSessionRequest, hproof]
      split
      · exact .inr rfl
      · exact .inl (by rw [consumeFreshProof_stale hstale])
  | deleteIssuanceProof => cases hpresented
  | transaction => cases hpresented

/-- A request that presents no proof forgets expired identities at most. -/
theorem heldProof_unpresented {now : ℕ} (hpresented : request.presented world = none)
    (hconsumes : request.bypasses = false)
    (hnow : ∀ instant, request.maybeNow = some instant → instant ≤ now) {proofId : String}
    {expiresAt : ℕ} (hheld : db.heldProof proofId = some expiresAt) (hlive : now ≤ expiresAt) :
    (proofStep world db request).1.heldProof proofId = some expiresAt := by
  cases request with
  | issuance challengeId compactProof presentedAt =>
      simp only [ProofRequest.presented, Option.map_eq_none_iff] at hpresented
      simp only [proofStep, verifyIssuanceRequest, hpresented]
      exact hheld
  | workSession challengeId operation compactProof body presentedAt =>
      simp only [ProofRequest.presented, Option.map_eq_none_iff] at hpresented
      simp only [proofStep, verifyClaimantWorkSessionRequest, hpresented]
      exact hheld
  | deleteIssuanceProof name itemExpiresAt instant =>
      obtain ⟨row, hrow, rfl⟩ := Option.map_eq_some_iff.mp hheld
      have hinstant : instant ≤ row.expiresAtUnixSeconds := (hnow instant rfl).trans hlive
      rw [proofStep, deleteIssuanceProof, heldProof, Rows.lookup_keepRows, hrow]
      simp [hinstant]
  | transaction transaction =>
      show (authorityStep db transaction).1.heldProof proofId = some expiresAt
      have hsame : ∀ {after : AuthorityDatabase}, after.sideTables = db.sideTables →
          after.heldProof proofId = some expiresAt := by
        intro after hside
        have hproofs : after.claimantProofs = db.claimantProofs := congrArg (·.2.1) hside
        rw [heldProof, hproofs]
        exact hheld
      by_cases hside : transaction.isSide = false
      · exact hsame (sideTables_step db hside)
      · cases transaction with
        | proposePoolSelection selected poolOfferId payoutCommitment instant =>
            simp only [authorityStep, answer, proposePoolSelection]
            repeat' split
            all_goals exact hheld
        | confirmPoolSelection selected payoutCommitment instant =>
            simp only [authorityStep, answer, confirmPoolSelection]
            repeat' split
            all_goals exact hheld
        | consumeIssuanceProof selected name itemExpiresAt instant =>
            cases hconsumes
        | maybeClaimIssuance workerId instant leaseExpiresAt locked =>
            rcases sideTables_maybeClaimIssuance db workerId instant leaseExpiresAt locked with
              hkept | hexpired
            · exact hsame hkept
            · rw [← heldProof_deleteExpiredProofs_of_le hheld ((hnow instant rfl).trans hlive)]
              exact congrArg (fun side : Rows ChallengeId SelectionRow × Rows String ProofRow ×
                Rows String CeremonyRow × Rows WorkSessionId ReplacementRow =>
                  (side.2.1.lookup proofId).map (·.expiresAtUnixSeconds)) hexpired
        | consentTables ceremonies replacements => exact hheld
        | _ => exact absurd rfl hside

/-! ## Runs -/

theorem latestProofTime_cons (history : List (ProofRequest × ProofReply))
    (request : ProofRequest) (reply : ProofReply) :
    latestProofTime ((request, reply) :: history) =
      max (request.maybeNow.getD 0) (latestProofTime history) := rfl

theorem latestProofTime_mono {later : List (ProofRequest × ProofReply)}
    {reached : AuthorityDatabase}
    (hcontinues : (proofAuthority world).Continues history db later reached) :
    latestProofTime history ≤ latestProofTime later := by
  refine Machine.Continues.preserves
    (P := fun h _ => latestProofTime history ≤ latestProofTime h) ?_ hcontinues (le_refl _)
  intro h s input _ hle
  exact hle.trans (le_max_right _ _)

theorem acceptedProofs_unpresented (hpresented : request.presented world = none)
    (reply : ProofReply) :
    acceptedProofs world ((request, reply) :: history) = acceptedProofs world history := by
  cases reply with
  | verified result =>
      cases result with
      | error error => rfl
      | ok => simp [acceptedProofs, hpresented]
  | done => rfl
  | transaction => rfl

/-- Accepted proofs are remembered until they are stale, and so accepted once. -/
theorem singleUse_acceptedProofs (hrun : (proofAuthority world).Run history db) :
    SingleUse claimantProofFreshnessSeconds (acceptedProofs world history) db.heldProof
      (latestProofTime history) := by
  refine Machine.Run.invariant (P := fun h s => SingleUse claimantProofFreshnessSeconds
    (acceptedProofs world h) s.heldProof (latestProofTime h)) SingleUse.start ?_ hrun
  intro h s request hadmits hsingle
  obtain ⟨hclock, hconsumes⟩ := hadmits
  rw [latestProofTime_cons]
  show SingleUse _ (acceptedProofs world ((request, (proofStep world s request).2) :: h))
    (proofStep world s request).1.heldProof _
  cases hpresented : request.presented world with
  | none =>
      rw [acceptedProofs_unpresented hpresented]
      apply hsingle.forget (le_max_right _ _)
      intro name expiresAt hheld hlive
      apply heldProof_unpresented hpresented hconsumes ?_ hheld hlive
      intro instant hinstant
      rw [hinstant]
      exact le_max_left _ _
  | some token =>
      obtain ⟨proofId, issuedAt⟩ := token
      obtain ⟨now, hnow, ⟨error, hrefused⟩ | ⟨after, haccepted, hnewly⟩⟩ :=
        proofStep_presented s hpresented
      · rw [hrefused]
        exact hsingle.later (le_max_right _ _)
      · rw [haccepted, hnow, Option.getD_some, max_eq_left (hclock now hnow)]
        have hlist : acceptedProofs world ((request, .verified (.ok ())) :: h) =
            (proofId, issuedAt) :: acceptedProofs world h := by
          simp [acceptedProofs, hpresented]
        rw [hlist]
        have hfresh := hnewly.fresh
        apply hsingle.take (hclock now hnow)
        · intro expiresAt hheld
          exact lt_of_not_mem_deleteExpiredProofs hnewly.new hheld
        · rw [absDiff] at hfresh
          omega
        · rw [hnewly.held, if_pos rfl]
        · intro other expiresAt hother hheld hlive
          rw [hnewly.held, if_neg hother]
          exact heldProof_deleteExpiredProofs_of_le hheld hlive

end WorkGate
