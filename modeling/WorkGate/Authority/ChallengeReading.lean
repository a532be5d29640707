/-
# Reading Work Challenges (src/challenge.rs, src/pool_offer.rs)

A descriptor is read back from JSON into fields, each of its own type, and the fields are then
validated by rules written apart from issuance.  What issuance allows, these rules allow too: a
challenge that was issued can be read back and is the one that was issued.

The derived readers take a struct from an object with each known name once; that they also take a
sequence is left out, for nothing is written as one.
-/

import WorkGate.Authority.WorkChallenges
import WorkGate.Worker.LeaseArtifacts

namespace WorkGate

open WorkGate.Library
open WorkGate.Library.JsonText
open Headless (PublishedOffer)

/-! ## Fields -/

/-- The members of a struct that denies unknown fields. -/
def serdeFields (value : JsValue) (known : List String) :
    Option (List (CodeUnits × JsValue)) := do
  let members ← serialRecord value
  guard ((members.map Prod.fst).Nodup)
  guard (∀ member ∈ members, ∃ key ∈ known, CodeUnits.ofString key = member.1)
  return members

/-- An unsigned integer of that many bits. -/
def serdeNatural (bits : ℕ) (value : JsValue) : Option ℕ :=
  (requiredNatural value).filter (· < 2 ^ bits)

def serdeFlag : JsValue → Option Bool
  | .bool flag => some flag
  | _ => none

/-- `Vec`. -/
def serdeSequence {α : Type} (read : JsValue → Option α) : JsValue → Option (List α)
  | .array elements => elements.mapM read
  | _ => none

/-- `Option` with a default: a field may be missing or null. -/
def serdeOptional {α : Type} (read : JsValue → Option α) : JsValue → Option (Option α)
  | .undefined => some none
  | .null => some none
  | value => (read value).map some

/-- `HttpsUrl`. -/
def serdeHttpsUrl (world : ChallengeWorld) (value : JsValue) : Option String :=
  (plainText value).filter world.isHttpsUrl

/-! ## Structs -/

section Structs

variable (world : ChallengeWorld)

def readComponentIdentity (value : JsValue) : Option OfferComponentIdentity := do
  let members ← serdeFields value
    ["component_id", "display_name", "version", "source_url", "license"]
  let componentId ← plainText (fieldOf members "component_id")
  let displayName ← plainText (fieldOf members "display_name")
  let version ← plainText (fieldOf members "version")
  let sourceUrl ← serdeHttpsUrl world (fieldOf members "source_url")
  let license ← plainText (fieldOf members "license")
  return { componentId, displayName, version, sourceUrl, license }

def readRewardPolicy (value : JsValue) : Option RewardPolicy := do
  let members ← serdeFields value
    ["mode", "selected_destination_basis_points", "pool_fee_basis_points",
      "service_fee_basis_points", "accepted_work_creates_revenue_claim",
      "creates_custodial_balance", "network_valid_result"]
  let mode ← plainText (fieldOf members "mode")
  let selected ← serdeNatural 16 (fieldOf members "selected_destination_basis_points")
  let poolFee ← serdeNatural 16 (fieldOf members "pool_fee_basis_points")
  let serviceFee ← serdeNatural 16 (fieldOf members "service_fee_basis_points")
  let acceptedWorkCreatesRevenueClaim ←
    serdeFlag (fieldOf members "accepted_work_creates_revenue_claim")
  let createsCustodialBalance ← serdeFlag (fieldOf members "creates_custodial_balance")
  let networkValidResult ← plainText (fieldOf members "network_valid_result")
  return {
    mode
    selectedDestinationBasisPoints := UInt16.ofNat selected
    poolFeeBasisPoints := UInt16.ofNat poolFee
    serviceFeeBasisPoints := UInt16.ofNat serviceFee
    acceptedWorkCreatesRevenueClaim
    createsCustodialBalance
    networkValidResult }

def readApprovedBeneficiary (value : JsValue) : Option ApprovedBeneficiary := do
  let members ← serdeFields value ["beneficiary_id", "display_name", "terms_url"]
  let beneficiaryId ← plainText (fieldOf members "beneficiary_id")
  let displayName ← plainText (fieldOf members "display_name")
  let termsUrl ← serdeHttpsUrl world (fieldOf members "terms_url")
  return { beneficiaryId, displayName, termsUrl }

def readPayoutRequirements (value : JsValue) : Option PayoutRequirements := do
  let members ← serdeFields value
    ["selection_required", "ephemeral_by_default", "accepted_destination_types",
      "approved_beneficiaries"]
  let selectionRequired ← serdeFlag (fieldOf members "selection_required")
  let ephemeralByDefault ← serdeFlag (fieldOf members "ephemeral_by_default")
  let acceptedDestinationTypes ←
    serdeSequence plainText (fieldOf members "accepted_destination_types")
  let approvedBeneficiaries ←
    serdeSequence (readApprovedBeneficiary world) (fieldOf members "approved_beneficiaries")
  return { selectionRequired, ephemeralByDefault, acceptedDestinationTypes,
           approvedBeneficiaries }

def readPoolOffer (value : JsValue) : Option DisclosedPoolOffer := do
  let members ← serdeFields value
    ["offer_id", "mining_pool", "pool_adapter", "mining_transport", "endpoint", "reward_policy",
      "payout_requirements", "privacy_terms_url", "operator_terms_url"]
  let offerId ← plainText (fieldOf members "offer_id")
  let miningPool ← readComponentIdentity world (fieldOf members "mining_pool")
  let poolAdapter ← readComponentIdentity world (fieldOf members "pool_adapter")
  let miningTransport ← plainText (fieldOf members "mining_transport")
  let endpoint ← plainText (fieldOf members "endpoint")
  let rewardPolicy ← readRewardPolicy (fieldOf members "reward_policy")
  let payoutRequirements ← readPayoutRequirements world (fieldOf members "payout_requirements")
  let privacyTermsUrl ← serdeHttpsUrl world (fieldOf members "privacy_terms_url")
  let operatorTermsUrl ← serdeHttpsUrl world (fieldOf members "operator_terms_url")
  return { offerId, miningPool, poolAdapter, miningTransport, endpoint, rewardPolicy,
           payoutRequirements, privacyTermsUrl, operatorTermsUrl }

def readSignedOffers (value : JsValue) : Option SignedOffers := do
  let members ← serdeFields value ["offers", "signature"]
  let offers ← serdeSequence (readPoolOffer world) (fieldOf members "offers")
  let signature ← plainText (fieldOf members "signature")
  return { offers, signature }

def readWorkRequirement (value : JsValue) : Option WorkRequirement := do
  let members ← serdeFields value ["expected_hashes"]
  let text ← plainText (fieldOf members "expected_hashes")
  let creditedWork ← (CreditedWork.tryFrom text).toOption
  return { creditedWork }

/-- `WorkChallengeDescriptorWire`. -/
structure WorkChallengeDescriptorWire where
  challengeId : String
  actionPolicy : String
  actionReference : String
  claimantKey : String
  relyingServiceAudience : String
  allowedOrigins : List String
  workRequirement : WorkRequirement
  maybePoolOffers : Option SignedOffers
  maybeTrustedConsentDisclosureDigestSha256 : Option String
  expiresAtUnixSeconds : ℕ
  protocolVersion : String

def readWorkChallengeDescriptorWire (value : JsValue) : Option WorkChallengeDescriptorWire := do
  let members ← serdeFields value
    ["challenge_id", "action_policy", "action_reference", "claimant_key",
      "relying_service_audience", "allowed_origins", "work_requirement", "pool_offers",
      "trusted_consent_disclosure_digest_sha256", "expires_at_unix_seconds", "protocol_version"]
  let challengeId ← plainText (fieldOf members "challenge_id")
  let actionPolicy ← plainText (fieldOf members "action_policy")
  let actionReference ← plainText (fieldOf members "action_reference")
  let claimantKey ← plainText (fieldOf members "claimant_key")
  let relyingServiceAudience ← plainText (fieldOf members "relying_service_audience")
  let allowedOrigins ← serdeSequence plainText (fieldOf members "allowed_origins")
  let workRequirement ← readWorkRequirement (fieldOf members "work_requirement")
  let maybePoolOffers ← serdeOptional (readSignedOffers world) (fieldOf members "pool_offers")
  let maybeTrustedConsentDisclosureDigestSha256 ←
    serdeOptional plainText (fieldOf members "trusted_consent_disclosure_digest_sha256")
  let expiresAtUnixSeconds ← serdeNatural 64 (fieldOf members "expires_at_unix_seconds")
  let protocolVersion ← plainText (fieldOf members "protocol_version")
  return { challengeId, actionPolicy, actionReference, claimantKey, relyingServiceAudience,
           allowedOrigins, workRequirement, maybePoolOffers,
           maybeTrustedConsentDisclosureDigestSha256, expiresAtUnixSeconds, protocolVersion }

/-- `TryFrom<WorkChallengeDescriptorWire> for WorkChallengeDescriptor`. -/
def WorkChallengeDescriptor.tryFrom (wire : WorkChallengeDescriptorWire) :
    Except ChallengeError (WorkChallengeDescriptor world) := do
  let actionPolicy ← ActionPolicy.parse wire.actionPolicy
  let workRequirement := wire.workRequirement
  if actionPolicy.accepts workRequirement = false then .error .policyWorkMismatch
  else do
    (match wire.maybePoolOffers with
      | none => .ok ()
      | some poolOffers =>
          (poolOffers.validateShape world.toOfferWorld).mapError fun _ => .invalidPoolOffers)
    let challengeId ← challengeIdTryFrom wire.challengeId
    let actionReference ← ActionReference.tryFrom wire.actionReference
    let claimantKey ← ClaimantKey.tryFrom wire.claimantKey
    let relyingServiceAudience ← RelyingServiceAudience.tryFrom world wire.relyingServiceAudience
    let allowedOrigins ← AllowedOrigins.tryFrom world wire.allowedOrigins
    let expiresAtUnixSeconds ←
      ExpiresAtUnixSeconds.tryFrom (BitVec.ofNat 64 wire.expiresAtUnixSeconds)
    let protocolVersion ← ProtocolVersion.parse wire.protocolVersion
    let descriptor : WorkChallengeDescriptor world :=
      { challengeId, actionPolicy, actionReference, claimantKey, relyingServiceAudience,
        allowedOrigins, workRequirement
        maybePoolOffers := wire.maybePoolOffers
        trustedConsentDisclosureDigestSha256 := ""
        expiresAtUnixSeconds, protocolVersion }
    descriptor.withValidatedTrustedConsentDigest wire.maybeTrustedConsentDisclosureDigestSha256

/-- Why a descriptor cannot be read. -/
inductive DescriptorFailure
  | json
  | challenge (error : ChallengeError)
  deriving DecidableEq

/-- `serde_json::from_str`. -/
def WorkChallengeDescriptor.deserialize (text : String) :
    Except DescriptorFailure (WorkChallengeDescriptor world) :=
  match readText text >>= readWorkChallengeDescriptorWire world with
  | none => .error .json
  | some wire => (WorkChallengeDescriptor.tryFrom world wire).mapError .challenge

end Structs

/-! ## Data is read back -/

theorem serdeFields_jsRecord {entries : List (String × JsValue)} {known : List String}
    (hunique : (entries.map Prod.fst).Nodup) (hknown : ∀ entry ∈ entries, entry.1 ∈ known) :
    serdeFields (jsRecord entries) known = some (entries.map (Prod.map CodeUnits.ofString id)) := by
  have hnames : ((entries.map (Prod.map CodeUnits.ofString id)).map Prod.fst).Nodup := by
    have hnodup := hunique.map CodeUnits.ofString_injective
    rw [List.map_map] at hnodup ⊢
    exact hnodup
  have hkeys : ∀ member ∈ entries.map (Prod.map CodeUnits.ofString id),
      ∃ key ∈ known, CodeUnits.ofString key = member.1 := by
    intro member hmem
    obtain ⟨entry, hentry, rfl⟩ := List.mem_map.mp hmem
    exact ⟨entry.1, hknown entry hentry, rfl⟩
  rw [serdeFields, jsRecord, serialRecord, Option.bind_eq_bind, Option.bind_some,
    guard_bind hnames, guard_bind hkeys]
  rfl

theorem fieldOf_entries (entries : List (String × JsValue)) (key : String) :
    fieldOf (entries.map (Prod.map CodeUnits.ofString id)) key =
      (entries.lookup key).getD .undefined := by
  rw [fieldOf, lookup_ofString]

theorem serdeNatural_jsNatural {bits value : ℕ} (hlt : value < 2 ^ bits) :
    serdeNatural bits (jsNatural value) = some value := by
  rw [serdeNatural, jsNatural, requiredNatural]
  exact Option.filter_some_pos (decide_eq_true hlt)

theorem serdeSequence_map {α : Type} {read : JsValue → Option α} {toJs : α → JsValue}
    {items : List α} (hread : ∀ item ∈ items, read (toJs item) = some item) :
    serdeSequence read (.array (items.map toJs)) = some items := by
  rw [serdeSequence]
  induction items with
  | nil => rfl
  | cons item items ih =>
      rw [List.forall_mem_cons] at hread
      rw [List.map_cons, List.mapM_cons, hread.1, ih hread.2]
      rfl

section Structs

variable {world : ChallengeWorld}

theorem serdeHttpsUrl_jsText {text : String} (hurl : world.isHttpsUrl text = true) :
    serdeHttpsUrl world (jsText text) = some text := by
  rw [serdeHttpsUrl, plainText_jsText]
  exact Option.filter_some_pos hurl

theorem readComponentIdentity_toJs {component : OfferComponentIdentity}
    (hurl : world.isHttpsUrl component.sourceUrl = true) :
    readComponentIdentity world component.toJs = some component := by
  rw [readComponentIdentity, OfferComponentIdentity.toJs,
    serdeFields_jsRecord (by simp) (by simp)]
  simp only [Option.bind_eq_bind, Option.bind_some, fieldOf_entries]
  simp [List.lookup_cons, plainText_jsText, serdeHttpsUrl_jsText hurl]

theorem readRewardPolicy_toJs (policy : RewardPolicy) :
    readRewardPolicy policy.toJs = some policy := by
  have hnatural (value : UInt16) : serdeNatural 16 (jsNatural value.toNat) = some value.toNat :=
    serdeNatural_jsNatural value.toNat_lt
  rw [readRewardPolicy, RewardPolicy.toJs, serdeFields_jsRecord (by simp) (by simp)]
  simp only [Option.bind_eq_bind, Option.bind_some, fieldOf_entries]
  simp [List.lookup_cons, plainText_jsText, hnatural, serdeFlag]

theorem readApprovedBeneficiary_toJs {beneficiary : ApprovedBeneficiary}
    (hurl : world.isHttpsUrl beneficiary.termsUrl = true) :
    readApprovedBeneficiary world beneficiary.toJs = some beneficiary := by
  rw [readApprovedBeneficiary, ApprovedBeneficiary.toJs, serdeFields_jsRecord (by simp) (by simp)]
  simp only [Option.bind_eq_bind, Option.bind_some, fieldOf_entries]
  simp [List.lookup_cons, plainText_jsText, serdeHttpsUrl_jsText hurl]

theorem readPayoutRequirements_toJs {requirements : PayoutRequirements}
    (hurls : ∀ beneficiary ∈ requirements.approvedBeneficiaries,
      world.isHttpsUrl beneficiary.termsUrl = true) :
    readPayoutRequirements world requirements.toJs = some requirements := by
  have htypes : serdeSequence plainText
      (.array (requirements.acceptedDestinationTypes.map jsText)) =
        some requirements.acceptedDestinationTypes :=
    serdeSequence_map fun text _ => plainText_jsText text
  have hbeneficiaries : serdeSequence (readApprovedBeneficiary world)
      (.array (requirements.approvedBeneficiaries.map ApprovedBeneficiary.toJs)) =
        some requirements.approvedBeneficiaries :=
    serdeSequence_map fun beneficiary hmem => readApprovedBeneficiary_toJs (hurls beneficiary hmem)
  rw [readPayoutRequirements, PayoutRequirements.toJs, serdeFields_jsRecord (by simp) (by simp)]
  simp only [Option.bind_eq_bind, Option.bind_some, fieldOf_entries]
  simp [List.lookup_cons, serdeFlag, htypes, hbeneficiaries]

theorem readPoolOffer_toJs (published : PublishedOffer world.toOfferWorld) :
    readPoolOffer world published.offer.toJs = some published.offer := by
  rw [readPoolOffer, DisclosedPoolOffer.toJs, serdeFields_jsRecord (by simp) (by simp)]
  simp only [Option.bind_eq_bind, Option.bind_some, fieldOf_entries]
  simp [List.lookup_cons, plainText_jsText, readRewardPolicy_toJs,
    readComponentIdentity_toJs published.miningPool_url,
    readComponentIdentity_toJs published.poolAdapter_url,
    readPayoutRequirements_toJs published.beneficiary_url,
    serdeHttpsUrl_jsText published.privacyTerms_url,
    serdeHttpsUrl_jsText published.operatorTerms_url]

theorem readSignedOffers_toJs {signed : SignedOffers}
    {offers : List (PublishedOffer world.toOfferWorld)}
    (hoffers : signed.offers = offers.map PublishedOffer.offer) :
    readSignedOffers world signed.toJs = some signed := by
  have hread : serdeSequence (readPoolOffer world)
      (.array (signed.offers.map DisclosedPoolOffer.toJs)) = some signed.offers := by
    apply serdeSequence_map
    intro offer hmem
    rw [hoffers] at hmem
    obtain ⟨published, -, rfl⟩ := List.mem_map.mp hmem
    exact readPoolOffer_toJs published
  rw [readSignedOffers, SignedOffers.toJs, serdeFields_jsRecord (by simp) (by simp)]
  simp only [Option.bind_eq_bind, Option.bind_some, fieldOf_entries]
  simp [List.lookup_cons, plainText_jsText, hread]

theorem readWorkRequirement_toJs (requirement : WorkRequirement) :
    readWorkRequirement requirement.toJs = some requirement := by
  have htext := decimal_codec.1 requirement.creditedWork
  rw [readWorkRequirement, WorkRequirement.toJs, serdeFields_jsRecord (by simp) (by simp)]
  simp only [Option.bind_eq_bind, Option.bind_some, fieldOf_entries]
  simp [plainText_jsText, htext, Except.toOption]

end Structs

end WorkGate
