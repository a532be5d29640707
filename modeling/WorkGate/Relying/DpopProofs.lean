/-
# DPoP proofs (src/reference_application.rs, src/reference_persistence/postgres.rs)

A redemption carries a DPoP proof.  The service remembers the identity of an accepted proof
until the proof has expired; redemptions and workers drop expired identities, and so does
retention.  Together with the proofs the Authority takes: no proof is accepted twice.
-/

import WorkGate.Authority.ClaimantProofs
import WorkGate.Relying.Redemption

namespace WorkGate

open WorkGate.Library

namespace RelyingDatabase

/-- `delete_dpop_proof`: retention drops one expired identity. -/
def deleteDpopProof (db : RelyingDatabase) (proofId : String) (expiresAt now : ℕ) :
    RelyingDatabase :=
  { db with dpopProofs := db.dpopProofs.keepRows fun name expiry =>
      !decide (name = proofId ∧ expiry = expiresAt ∧ expiry < now) }

end RelyingDatabase

/-- A redemption, a retention item, and every other transaction. -/
inductive DpopRequest
  | redeem (expectedActionReference : String) (now : ℕ) (gatePass : GatePass) (dpop : DpopProof)
      (redemptionId : String)
  | deleteDpopProof (proofId : String) (expiresAt now : ℕ)
  | transaction (request : RelyingRequest)

inductive DpopReply
  | redeemed (result : Except ReferenceApplicationError RedemptionRecord)
  | done
  | transaction (reply : RelyingReply)

/-- When a request runs, where that matters to the proofs. -/
def DpopRequest.maybeNow : DpopRequest → Option ℕ
  | .redeem _ now _ _ _ | .deleteDpopProof _ _ now => some now
  | .transaction (.maybeClaimAction _ now _ _ _) => some now
  | .transaction _ => none

/-- The identity of the proof a request presents, and when it was issued. -/
def DpopRequest.presented : DpopRequest → Option (String × ℕ)
  | .redeem _ _ _ dpop _ => some (dpop.proofId, dpop.issuedAt)
  | _ => none

/-- Whether a request redeems without the service's checks. -/
def DpopRequest.bypasses : DpopRequest → Bool
  | .transaction (.redeem _ _) => true
  | _ => false

/-- One request. -/
def dpopStep (config : ReferenceConfig) (db : RelyingDatabase) :
    DpopRequest → RelyingDatabase × DpopReply
  | .redeem expectedActionReference now gatePass dpop redemptionId =>
      let redeemed := serviceRedeem config db expectedActionReference now gatePass dpop redemptionId
      (redeemed.1, .redeemed redeemed.2)
  | .deleteDpopProof proofId expiresAt now => (db.deleteDpopProof proofId expiresAt now, .done)
  | .transaction request =>
      let after := relyingStep db request
      (after.1, .transaction after.2)

/-- The latest instant at which a request of the history ran. -/
def latestDpopTime : List (DpopRequest × DpopReply) → ℕ
  | [] => 0
  | (request, _) :: earlier => max (request.maybeNow.getD 0) (latestDpopTime earlier)

/-- The Relying Service under these requests and a clock that never goes back.  Redemptions
come through the service alone. -/
def dpopService (config : ReferenceConfig) : Machine RelyingDatabase DpopRequest DpopReply where
  init := RelyingDatabase.empty
  admits := fun history _ request =>
    (∀ now ∈ request.maybeNow, latestDpopTime history ≤ now) ∧ request.bypasses = false
  step := dpopStep config

instance decidableAdmitsDpop (config : ReferenceConfig) (history : List (DpopRequest × DpopReply))
    (db : RelyingDatabase) (request : DpopRequest) :
    Decidable ((dpopService config).admits history db request) :=
  inferInstanceAs (Decidable ((∀ now ∈ request.maybeNow, latestDpopTime history ≤ now) ∧
    request.bypasses = false))

/-- The proofs that were accepted, newest first. -/
def acceptedDpopProofs : List (DpopRequest × DpopReply) → List (String × ℕ)
  | [] => []
  | (request, .redeemed (.ok _)) :: earlier =>
      request.presented.toList ++ acceptedDpopProofs earlier
  | _ :: earlier => acceptedDpopProofs earlier

/-! ## Freshness -/

theorem dpopAcceptanceWindowSeconds_eq : dpopAcceptanceWindowSeconds = dpopFreshnessSeconds := by
  decide

theorem le_of_requestProofIsFresh {now issuedAt freshnessSeconds : ℕ}
    (hfresh : requestProofIsFresh now issuedAt freshnessSeconds = true) :
    now ≤ issuedAt + freshnessSeconds := by
  rw [requestProofIsFresh, Bool.and_eq_true] at hfresh
  have hlate := of_decide_eq_true hfresh.2
  simp only [saturatingAddU64, protocolClockSkewSeconds] at hlate
  omega

/-! ## One request -/

namespace RelyingDatabase

variable {db after : RelyingDatabase}

theorem lookup_expireProofs_of_le {proofs : Rows String ℕ} {proofId : String}
    {expiresAt now : ℕ} (hheld : proofs.lookup proofId = some expiresAt)
    (hlive : now ≤ expiresAt) : (expireProofs proofs now).lookup proofId = some expiresAt := by
  rw [expireProofs, Rows.lookup_keepRows, hheld]
  simp [not_lt.mpr hlive]

theorem lt_of_not_mem_expireProofs {proofs : Rows String ℕ} {proofId : String}
    {expiresAt now : ℕ} (hdropped : proofId ∉ expireProofs proofs now)
    (hheld : proofs.lookup proofId = some expiresAt) : expiresAt < now := by
  by_contra hlive
  exact hdropped (Rows.mem_of_lookup (lookup_expireProofs_of_le hheld (not_lt.mp hlive)))

/-- A redemption that goes through stores the identity of a proof that was not stored. -/
theorem dpopProofs_redeem {redemption : ValidatedRedemption} {redemptionId : String}
    {record : RedemptionRecord} (h : db.redeem redemption redemptionId = .ok (after, record)) :
    redemption.dpopProofId ∉ expireProofs db.dpopProofs redemption.acceptedAtUnixSeconds ∧
      after.dpopProofs = (expireProofs db.dpopProofs redemption.acceptedAtUnixSeconds).insert
        redemption.dpopProofId redemption.dpopExpiresAtUnixSeconds := by
  simp only [redeem] at h
  split at h
  · cases h
  · simp only [bind_eq_ok, pure_eq_ok] at h
    obtain ⟨_, -, _, hacceptedAt, _, hexpiresAt, _, hnew, _, -, ⟨redeemed, linkedId⟩, hredeemed,
      _, -, _, -, _, -, h⟩ := h
    have hacceptedAt := toI64_eq_ok hacceptedAt
    have hexpiresAt := toI64_eq_ok hexpiresAt
    have hnew := refuseIf_eq_ok hnew
    subst hacceptedAt hexpiresAt
    rw [decide_eq_false_iff_not] at hnew
    cases h
    refine ⟨hnew, ?_⟩
    simp only [redemptionOf] at hredeemed
    split at hredeemed
    · cases hredeemed
      rfl
    · simp only [insertRedemption, bind_eq_ok, pure_eq_ok] at hredeemed
      obtain ⟨_, -, _, -, _, -, _, -, _, -, _, -, hredeemed⟩ := hredeemed
      cases hredeemed
      rfl

/-- A worker's claim drops what has expired, when it does anything. -/
theorem dpopProofs_maybeClaimAction {workerId : String} {now leaseExpiresAt : ℕ}
    {locked : List String} {attemptId : String} {claimed : Option ClaimedAction}
    (h : db.maybeClaimAction workerId now leaseExpiresAt locked attemptId = .ok (after, claimed)) :
    after.dpopProofs = expireProofs db.dpopProofs now := by
  simp only [maybeClaimAction, bind_eq_ok] at h
  obtain ⟨_, hnow, _, -, h⟩ := h
  have hnow := toI64_eq_ok hnow
  subst hnow
  split at h
  · cases h
    rfl
  · simp only [claimAction, bind_eq_ok] at h
    obtain ⟨_, -, _, -, _, -, h⟩ := h
    split at h
    · cases h
    · split at h
      · cases h
      · cases h
        rfl

theorem dpopProofs_completeAccountCreation {workerId : String} {action : ClaimedAction}
    {completedAt clock : ℕ} {accountId : String} {record : RedemptionRecord}
    (h : db.completeAccountCreation workerId action completedAt clock accountId =
      .ok (after, record)) : after.dpopProofs = db.dpopProofs := by
  simp only [completeAccountCreation, bind_eq_ok, pure_eq_ok] at h
  obtain ⟨_, -, ⟨created, account⟩, hcreated, _, -, _, -, _, -, _, -, _, -, h⟩ := h
  cases h
  simp only [accountOf] at hcreated
  repeat' split at hcreated
  all_goals first
    | cases hcreated; rfl
    | cases hcreated

/-- The other transactions do not touch the proofs. -/
theorem dpopProofs_step (db : RelyingDatabase) {request : RelyingRequest}
    (hredeem : ∀ redemption redemptionId, request ≠ .redeem redemption redemptionId)
    (hclaim : ∀ workerId now leaseExpiresAt locked attemptId,
      request ≠ .maybeClaimAction workerId now leaseExpiresAt locked attemptId) :
    (relyingStep db request).1.dpopProofs = db.dpopProofs := by
  cases request with
  | redeem redemption redemptionId => exact absurd rfl (hredeem redemption redemptionId)
  | maybeClaimAction workerId now leaseExpiresAt locked attemptId =>
      exact absurd rfl (hclaim workerId now leaseExpiresAt locked attemptId)
  | insertProtectedAction action =>
      simp only [relyingStep, relyingAnswer, transaction]
      split
      · rfl
      · next hwritten =>
          simp only [insertProtectedAction, bind_eq_ok, pure_eq_ok] at hwritten
          obtain ⟨_, -, _, -, _, -, _, -, _, -, hwritten⟩ := hwritten
          cases hwritten
          rfl
  | consumeOutcomeProof proofId expiresAt now =>
      simp only [relyingStep, relyingAnswer, transaction]
      split
      · rfl
      · next hwritten =>
          simp only [consumeOutcomeProof, bind_eq_ok, pure_eq_ok] at hwritten
          obtain ⟨_, -, _, -, _, -, hwritten⟩ := hwritten
          cases hwritten
          rfl
  | completeAccountCreation workerId action completedAt clock accountId =>
      simp only [relyingStep, relyingAnswer, transaction]
      split
      · rfl
      · next hwritten => exact dpopProofs_completeAccountCreation hwritten
  | failClaimedAction workerId action safeReason completedAt clock =>
      simp only [relyingStep, relyingAnswer, transaction]
      split
      · rfl
      · next hwritten =>
          simp only [failClaimedAction, bind_eq_ok, pure_eq_ok] at hwritten
          obtain ⟨_, -, _, -, _, -, _, -, hwritten⟩ := hwritten
          cases hwritten
          rfl
  | scheduleActionRetry workerId action retryAt clock =>
      simp only [relyingStep, relyingAnswer, transaction]
      split
      · rfl
      · next hwritten =>
          simp only [scheduleActionRetry, bind_eq_ok, pure_eq_ok] at hwritten
          obtain ⟨_, -, _, -, _, -, hwritten⟩ := hwritten
          cases hwritten
          rfl

end RelyingDatabase

open RelyingDatabase AuthorityDatabase

variable {config : ReferenceConfig} {db : RelyingDatabase} {request : DpopRequest}
  {history : List (DpopRequest × DpopReply)}

/-- A redemption is refused, or its proof is fresh and from then on stored. -/
theorem dpopStep_presented (config : ReferenceConfig) (db : RelyingDatabase) {proofId : String}
    {issuedAt : ℕ}
    (hpresented : request.presented = some (proofId, issuedAt)) :
    ∃ now, request.maybeNow = some now ∧
      ((∃ error, dpopStep config db request = (db, .redeemed (.error error))) ∨
        ∃ after record, dpopStep config db request = (after, .redeemed (.ok record)) ∧
          now ≤ issuedAt + dpopFreshnessSeconds ∧ proofId ∉ expireProofs db.dpopProofs now ∧
          after.dpopProofs = (expireProofs db.dpopProofs now).insert proofId
            (issuedAt + dpopFreshnessSeconds)) := by
  cases request with
  | redeem expectedActionReference now gatePass dpop redemptionId =>
      refine ⟨now, rfl, ?_⟩
      cases hpresented
      simp only [dpopStep, serviceRedeem]
      split
      · exact .inl ⟨_, rfl⟩
      · next redemption hredemption =>
          cases hwritten : db.redeem redemption redemptionId with
          | error error => exact .inl ⟨_, rfl⟩
          | ok written =>
              obtain ⟨after, record⟩ := written
              simp only [validatedRedemption] at hredemption
              split at hredemption
              · cases hredemption
              · next hbinding =>
                  obtain ⟨-, -, -, -, -, -, hfresh, -⟩ := validateRedemptionBinding_eq_ok hbinding
                  obtain ⟨-, hredemption⟩ := guard_eq_ok hredemption
                  cases hredemption
                  obtain ⟨hnew, hproofs⟩ := dpopProofs_redeem hwritten
                  rw [dpopAcceptanceWindowSeconds_eq] at hproofs
                  exact .inr ⟨after, record, rfl, le_of_requestProofIsFresh hfresh, hnew, hproofs⟩
  | deleteDpopProof => cases hpresented
  | transaction => cases hpresented

/-- A stale proof fails the freshness check, and its redemption is refused. -/
theorem dpopStep_stale {proofId : String} {issuedAt now : ℕ}
    (hpresented : request.presented = some (proofId, issuedAt))
    (hnow : request.maybeNow = some now) (hstale : issuedAt + dpopFreshnessSeconds < now) :
    requestProofIsFresh now issuedAt dpopFreshnessSeconds = false ∧
      dpopStep config db request = (db, .redeemed (.error .invalidRedemptionBinding)) := by
  have hnotFresh : requestProofIsFresh now issuedAt dpopFreshnessSeconds = false := by
    by_contra hfresh
    rw [Bool.not_eq_false] at hfresh
    exact absurd (le_of_requestProofIsFresh hfresh) (not_le.mpr hstale)
  refine ⟨hnotFresh, ?_⟩
  cases request with
  | redeem expectedActionReference presentedAt gatePass dpop redemptionId =>
      cases hpresented
      cases hnow
      simp only [dpopStep, serviceRedeem, validatedRedemption]
      cases hbinding :
          validateRedemptionBinding config expectedActionReference now gatePass dpop with
      | error error => rfl
      | ok =>
          obtain ⟨-, -, -, -, -, -, hfresh, -⟩ := validateRedemptionBinding_eq_ok hbinding
          rw [hnotFresh] at hfresh
          cases hfresh
  | deleteDpopProof => cases hpresented
  | transaction => cases hpresented

/-- A request without a proof forgets expired identities at most. -/
theorem lookup_dpopProofs_unpresented {now : ℕ} (hpresented : request.presented = none)
    (hredeem : request.bypasses = false)
    (hnow : ∀ instant, request.maybeNow = some instant → instant ≤ now) {proofId : String}
    {expiresAt : ℕ} (hheld : db.dpopProofs.lookup proofId = some expiresAt)
    (hlive : now ≤ expiresAt) :
    (dpopStep config db request).1.dpopProofs.lookup proofId = some expiresAt := by
  cases request with
  | redeem => cases hpresented
  | deleteDpopProof name itemExpiresAt instant =>
      have hinstant : instant ≤ expiresAt := (hnow instant rfl).trans hlive
      rw [dpopStep, RelyingDatabase.deleteDpopProof, Rows.lookup_keepRows, hheld]
      simp [hinstant]
  | transaction transaction =>
      show (relyingStep db transaction).1.dpopProofs.lookup proofId = some expiresAt
      by_cases hclaim : ∃ workerId instant leaseExpiresAt locked attemptId,
          transaction = .maybeClaimAction workerId instant leaseExpiresAt locked attemptId
      · obtain ⟨workerId, instant, leaseExpiresAt, locked, attemptId, rfl⟩ := hclaim
        simp only [relyingStep, relyingAnswer, RelyingDatabase.transaction]
        split
        · exact hheld
        · next hwritten =>
            rw [dpopProofs_maybeClaimAction hwritten]
            exact lookup_expireProofs_of_le hheld ((hnow instant rfl).trans hlive)
      · rw [dpopProofs_step db]
        · exact hheld
        · rintro redemption redemptionId rfl
          cases hredeem
        · intro workerId instant leaseExpiresAt locked attemptId hrequest
          exact hclaim ⟨workerId, instant, leaseExpiresAt, locked, attemptId, hrequest⟩

/-! ## Runs -/

theorem latestDpopTime_cons (history : List (DpopRequest × DpopReply)) (request : DpopRequest)
    (reply : DpopReply) :
    latestDpopTime ((request, reply) :: history) =
      max (request.maybeNow.getD 0) (latestDpopTime history) := rfl

theorem latestDpopTime_mono {later : List (DpopRequest × DpopReply)} {reached : RelyingDatabase}
    (hcontinues : (dpopService config).Continues history db later reached) :
    latestDpopTime history ≤ latestDpopTime later := by
  refine Machine.Continues.preserves
    (P := fun h _ => latestDpopTime history ≤ latestDpopTime h) ?_ hcontinues (le_refl _)
  intro h s input _ hle
  exact hle.trans (le_max_right _ _)

theorem acceptedDpopProofs_unpresented (hpresented : request.presented = none)
    (reply : DpopReply) :
    acceptedDpopProofs ((request, reply) :: history) = acceptedDpopProofs history := by
  cases reply with
  | redeemed result =>
      cases result with
      | error error => rfl
      | ok => simp [acceptedDpopProofs, hpresented]
  | done => rfl
  | transaction => rfl

/-- Accepted proofs are remembered until they are stale, and so accepted once. -/
theorem singleUse_acceptedDpopProofs (hrun : (dpopService config).Run history db) :
    SingleUse dpopFreshnessSeconds (acceptedDpopProofs history) db.dpopProofs.lookup
      (latestDpopTime history) := by
  refine Machine.Run.invariant (P := fun h s => SingleUse dpopFreshnessSeconds
    (acceptedDpopProofs h) s.dpopProofs.lookup (latestDpopTime h)) SingleUse.start ?_ hrun
  intro h s request hadmits hsingle
  obtain ⟨hclock, hredeem⟩ := hadmits
  rw [latestDpopTime_cons]
  show SingleUse _ (acceptedDpopProofs ((request, (dpopStep config s request).2) :: h))
    (dpopStep config s request).1.dpopProofs.lookup _
  cases hpresented : request.presented with
  | none =>
      rw [acceptedDpopProofs_unpresented hpresented]
      apply hsingle.forget (le_max_right _ _)
      intro name expiresAt hheld hlive
      apply lookup_dpopProofs_unpresented hpresented hredeem ?_ hheld hlive
      intro instant hinstant
      rw [hinstant]
      exact le_max_left _ _
  | some token =>
      obtain ⟨proofId, issuedAt⟩ := token
      obtain ⟨now, hnow, ⟨error, hrefused⟩ | ⟨after, record, haccepted, hfresh, hnew, hproofs⟩⟩ :=
        dpopStep_presented config s hpresented
      · rw [hrefused]
        exact hsingle.later (le_max_right _ _)
      · rw [haccepted, hnow, Option.getD_some, max_eq_left (hclock now hnow)]
        have hlist : acceptedDpopProofs ((request, .redeemed (.ok record)) :: h) =
            (proofId, issuedAt) :: acceptedDpopProofs h := by
          simp [acceptedDpopProofs, hpresented]
        rw [hlist]
        apply hsingle.take (hclock now hnow)
        · intro expiresAt hheld
          exact lt_of_not_mem_expireProofs hnew hheld
        · exact hfresh
        · rw [hproofs, Rows.lookup_insert_eq, if_pos rfl]
        · intro other expiresAt hother hheld hlive
          rw [hproofs, Rows.lookup_insert_eq, if_neg hother]
          exact lookup_expireProofs_of_le hheld hlive

/-- A proof that its claimant signed is accepted at most once, by the Authority and by the
Relying Service: what was accepted carries no repetition, and once the identity of an accepted
proof is no longer stored, every later presentation fails the freshness check. -/
theorem acceptedProofs_singleUse (world : ProofWorld) (config : ReferenceConfig) :
    (∀ history (db : AuthorityDatabase), (proofAuthority world).Run history db →
      (acceptedProofs world history).Nodup ∧
        ∀ proofId issuedAt, (proofId, issuedAt) ∈ acceptedProofs world history →
          db.heldProof proofId ≠ some (issuedAt + claimantProofFreshnessSeconds) →
            ∀ later reached request now,
              (proofAuthority world).Continues history db later reached →
              (proofAuthority world).admits later reached request →
              request.presented world = some (proofId, issuedAt) → request.maybeNow = some now →
                claimantProofFreshnessSeconds < absDiff now issuedAt ∧
                  (proofStep world reached request =
                      (reached, .verified (.error .staleIssuanceProof)) ∨
                    proofStep world reached request =
                      (reached, .verified (.error .wrongIssuanceProofRequest)))) ∧
      ∀ history (db : RelyingDatabase), (dpopService config).Run history db →
        (acceptedDpopProofs history).Nodup ∧
          ∀ proofId issuedAt, (proofId, issuedAt) ∈ acceptedDpopProofs history →
            db.dpopProofs.lookup proofId ≠ some (issuedAt + dpopFreshnessSeconds) →
              ∀ later reached request now,
                (dpopService config).Continues history db later reached →
                (dpopService config).admits later reached request →
                request.presented = some (proofId, issuedAt) → request.maybeNow = some now →
                  requestProofIsFresh now issuedAt dpopFreshnessSeconds = false ∧
                    dpopStep config reached request =
                      (reached, .redeemed (.error .invalidRedemptionBinding)) := by
  constructor
  · intro history db hrun
    have hsingle := singleUse_acceptedProofs hrun
    refine ⟨hsingle.nodup, ?_⟩
    intro proofId issuedAt haccepted hpurged later reached request now hcontinues hadmits
      hpresented hnow
    have hexpired := hsingle.stale haccepted hpurged
    have hlater := latestProofTime_mono hcontinues
    have hclock := hadmits.1 now hnow
    have hstale : claimantProofFreshnessSeconds < absDiff now issuedAt := by
      rw [absDiff]
      omega
    exact ⟨hstale, proofStep_stale hpresented hnow hstale⟩
  · intro history db hrun
    have hsingle := singleUse_acceptedDpopProofs hrun
    refine ⟨hsingle.nodup, ?_⟩
    intro proofId issuedAt haccepted hpurged later reached request now hcontinues hadmits
      hpresented hnow
    have hexpired := hsingle.stale haccepted hpurged
    have hlater := latestDpopTime_mono hcontinues
    have hclock := hadmits.1 now hnow
    exact dpopStep_stale hpresented hnow (lt_of_lt_of_le hexpired (hlater.trans hclock))

/-! ## A purged proof -/

def exampleProofChallenge : ChallengeId := ⟨"challenge_a", isChallengeId_a⟩

/-- An Authority of one claimant, who signed one proof for an issuance lookup. -/
def exampleProofWorld : ProofWorld where
  gatePassUrlTemplate := "https://authority.example/\x7bchallenge_id\x7d/gate-pass"
  workSessionUrlTemplate := "https://authority.example/\x7bchallenge_id\x7d/session"
  verifyIssuanceProof := fun compactProof =>
    if compactProof = "proof_a" then
      some ⟨"claimant_key_01", "proof_a", "GET",
        "https://authority.example/challenge_a/gate-pass", 100, "challenge_a"⟩
    else none
  verifyWorkSessionProof := fun _ => none
  sha256Base64Url := fun _ => ""
  claimantJkt := fun _ => some "claimant_key_01"

/-- The proof is accepted, and a worker's claim drops its identity. -/
def purgedProofRequests : List ProofRequest :=
  [.transaction (.insertChallenge
      ⟨exampleProofChallenge, ⟨Uint256.one, toNat_one_pos⟩, 900, "seed", false⟩),
    .issuance exampleProofChallenge "proof_a" 110,
    .transaction (.maybeClaimIssuance "worker_a" 161 200 [])]

def exampleReferenceConfig : ReferenceConfig where
  trustedIssuer := "https://authority.example"
  relyingServiceAudience := "https://relying.example"
  redemptionUrl := "https://relying.example/redemptions"
  outcomeLookupWindowSeconds := 600

def exampleGatePass (passId : String) : GatePass :=
  ⟨"https://authority.example", passId, "https://relying.example", "action_01",
    "claimant_key_01", "account_creation", "account-creation-standard-v1", 90, 400⟩

def exampleDpopProof : DpopProof :=
  ⟨"proof_a", "claimant_key_01", "POST", "https://relying.example/redemptions", 100⟩

/-- A redemption, and a worker's claim that drops the identity of its proof. -/
def purgedDpopRequests : List DpopRequest :=
  [.transaction (.insertProtectedAction exampleProtectedAction),
    .redeem "action_01" 110 (exampleGatePass "pass_a") exampleDpopProof "redemption_a",
    .transaction (.maybeClaimAction "worker_a" 161 200 [] "attempt_a")]

theorem purgedProofs_rejected :
    (∃ history db, (proofAuthority exampleProofWorld).Run history db ∧
      acceptedProofs exampleProofWorld history = [("proof_a", 100)] ∧
      db.heldProof "proof_a" = none ∧
      claimantProofFreshnessSeconds < absDiff 161 100 ∧
      (proofStep exampleProofWorld db (.issuance exampleProofChallenge "proof_a" 161) =
          (db, .verified (.error .staleIssuanceProof)) ∨
        proofStep exampleProofWorld db (.issuance exampleProofChallenge "proof_a" 161) =
          (db, .verified (.error .wrongIssuanceProofRequest)))) ∧
    ∃ history db, (dpopService exampleReferenceConfig).Run history db ∧
      acceptedDpopProofs history = [("proof_a", 100)] ∧
      db.dpopProofs.lookup "proof_a" = none ∧
      requestProofIsFresh 161 100 dpopFreshnessSeconds = false ∧
      dpopStep exampleReferenceConfig db
          (.redeem "action_01" 161 (exampleGatePass "pass_b") exampleDpopProof "redemption_b") =
        (db, .redeemed (.error .invalidRedemptionBinding)) := by
  obtain ⟨hauthority, hservice⟩ :=
    acceptedProofs_singleUse exampleProofWorld exampleReferenceConfig
  constructor
  · have hrun := Machine.run_replay (M := proofAuthority exampleProofWorld) purgedProofRequests
      (by decide +kernel)
    have hpurged : acceptedProofs exampleProofWorld
          ((proofAuthority exampleProofWorld).replay purgedProofRequests).1 = [("proof_a", 100)] ∧
        ((proofAuthority exampleProofWorld).replay purgedProofRequests).2.heldProof "proof_a" =
          none ∧
        latestProofTime ((proofAuthority exampleProofWorld).replay purgedProofRequests).1 ≤ 161 :=
      by decide +kernel
    generalize (proofAuthority exampleProofWorld).replay purgedProofRequests = point at hrun hpurged
    obtain ⟨haccepted, hdropped, hclock⟩ := hpurged
    refine ⟨point.1, point.2, hrun, haccepted, hdropped, ?_⟩
    apply (hauthority point.1 point.2 hrun).2 "proof_a" 100 (by rw [haccepted]; simp)
      (by rw [hdropped]; simp) point.1 point.2 _ 161 Machine.Continues.refl ?_ rfl rfl
    refine ⟨?_, rfl⟩
    rintro now ⟨⟩
    exact hclock
  · have hrun := Machine.run_replay (M := dpopService exampleReferenceConfig) purgedDpopRequests
      (by decide +kernel)
    have hpurged : acceptedDpopProofs
          ((dpopService exampleReferenceConfig).replay purgedDpopRequests).1 = [("proof_a", 100)] ∧
        ((dpopService exampleReferenceConfig).replay purgedDpopRequests).2.dpopProofs.lookup
          "proof_a" = none ∧
        latestDpopTime ((dpopService exampleReferenceConfig).replay purgedDpopRequests).1 ≤ 161 :=
      by decide +kernel
    generalize (dpopService exampleReferenceConfig).replay purgedDpopRequests = point
      at hrun hpurged
    obtain ⟨haccepted, hdropped, hclock⟩ := hpurged
    refine ⟨point.1, point.2, hrun, haccepted, hdropped, ?_⟩
    apply (hservice point.1 point.2 hrun).2 "proof_a" 100 (by rw [haccepted]; simp)
      (by rw [hdropped]; simp) point.1 point.2 _ 161 Machine.Continues.refl ?_ rfl rfl
    refine ⟨?_, rfl⟩
    rintro now ⟨⟩
    exact hclock

end WorkGate
