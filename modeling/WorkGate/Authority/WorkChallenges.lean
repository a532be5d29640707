/-
# Work Challenges (src/challenge.rs, src/web_url.rs)

An Authority issues a challenge under an Action Policy: the policy sets the work and the deadline,
and a digest binds all the terms.  The descriptor of a challenge is kept and shown as JSON and is
validated again whenever it is read.

The parser of URLs and the hash are left to the caller of the development.
-/

import WorkGate.Authority.ConsentReceipts
import WorkGate.Headless.PoolOffers
import WorkGate.WorkDecimal
import WorkGate.Worker.LeaseRequests

namespace WorkGate

open WorkGate.Library
open Headless (PublishedOffer)

/-! ## Failures -/

/-- `ChallengeError`. -/
inductive ChallengeError
  | unknownActionPolicy
  | invalidActionReference
  | invalidClaimantKey
  | invalidRelyingServiceAudience
  | invalidAllowedOrigins
  | invalidChallengeId
  | invalidExpectedHashes
  | invalidExpiry
  | expiryOverflow
  | invalidTrustedConsentDisclosureDigest
  | policyWorkMismatch
  | invalidPoolOffers
  | overrideNotPermitted
  | overrideOutsideBounds
  | unsupportedProtocolVersion
  deriving DecidableEq, Repr

/-! ## Work -/

/-- `from_u64`. -/
def Uint256.fromU64 (value : BitVec 64) : Uint256 := ⟨[value, 0, 0, 0], rfl⟩

/-- `maybe_to_u64`. -/
def Uint256.maybeToU64 (x : Uint256) : Option (BitVec 64) :=
  if x.limbs.drop 1 = [0, 0, 0] then x.limbs.head? else none

theorem Uint256.toNat_fromU64 (value : BitVec 64) : (fromU64 value).toNat = value.toNat := by
  simp [toNat, fromU64, Limbs.value, Nat.ofDigits_cons]

theorem Uint256.maybeToU64_eq_some {x : Uint256} {value : BitVec 64} :
    x.maybeToU64 = some value ↔ x = fromU64 value := by
  obtain ⟨limbs, hsize⟩ := x
  match limbs, hsize with
  | [first, second, third, fourth], _ =>
      rw [maybeToU64, fromU64, Uint256.mk.injEq]
      dsimp only
      split
      · next h =>
          cases h
          simp
      · next h =>
          simp only [reduceCtorEq, false_iff]
          intro hlimbs
          exact h (congrArg (List.drop 1) hlimbs)

/-- `from_non_zero_u64`. -/
def CreditedWork.fromNonZeroU64 (value : BitVec 64) (hnonzero : 0 < value.toNat) :
    CreditedWork where
  value := Uint256.fromU64 value
  positive := by rwa [Uint256.toNat_fromU64]

/-- `try_to_u64`. -/
def CreditedWork.tryToU64 (work : CreditedWork) : Except WorkError (BitVec 64) :=
  match work.value.maybeToU64 with
  | some value => .ok value
  | none => .error .creditedWorkOutsideU64

/-- `WorkRequirement`. -/
structure WorkRequirement where
  creditedWork : CreditedWork
  deriving DecidableEq

/-- `WorkRequirementOverride`. -/
structure WorkRequirementOverride where
  creditedWork : CreditedWork
  deriving DecidableEq

/-! ## Policies -/

/-- `ActionPolicySpec`, without the policy and its id. -/
structure ActionPolicySpec where
  defaultExpectedHashes : BitVec 64
  nonzero : 0 < defaultExpectedHashes.toNat
  maybeOverrideBounds : Option (BitVec 64 × BitVec 64)
  challengeTtlSeconds : BitVec 64

/-- `WORK_CHALLENGE_TTL_SECONDS`. -/
def workChallengeTtlSeconds : BitVec 64 := 15 * 60

namespace ActionPolicy

/-- `specification`. -/
def specification : ActionPolicy → ActionPolicySpec
  | accountCreationLightV1 =>
      { defaultExpectedHashes := 1 <<< 42
        nonzero := by decide
        maybeOverrideBounds := none
        challengeTtlSeconds := workChallengeTtlSeconds }
  | accountCreationStandardV1 =>
      { defaultExpectedHashes := 1 <<< 44
        nonzero := by decide
        maybeOverrideBounds := some (1 <<< 43, 1 <<< 45)
        challengeTtlSeconds := workChallengeTtlSeconds }
  | accountCreationElevatedV1 =>
      { defaultExpectedHashes := 1 <<< 46
        nonzero := by decide
        maybeOverrideBounds := none
        challengeTtlSeconds := workChallengeTtlSeconds }

/-- `ActionPolicy::parse`. -/
def parse (value : String) : Except ChallengeError ActionPolicy :=
  match all.find? fun policy => policy.id == value with
  | some policy => .ok policy
  | none => .error .unknownActionPolicy

/-- `work_requirement`. -/
def workRequirement (policy : ActionPolicy) (maybeOverride : Option WorkRequirementOverride) :
    Except ChallengeError WorkRequirement :=
  let specification := policy.specification
  match maybeOverride with
  | none => .ok { creditedWork :=
      .fromNonZeroU64 specification.defaultExpectedHashes specification.nonzero }
  | some workOverride =>
      match specification.maybeOverrideBounds with
      | none => .error .overrideNotPermitted
      | some (minimum, maximum) => do
          let expectedHashes ←
            workOverride.creditedWork.tryToU64.mapError fun _ => .invalidExpectedHashes
          if ¬ (minimum ≤ expectedHashes ∧ expectedHashes ≤ maximum) then
            .error .overrideOutsideBounds
          else .ok { creditedWork := workOverride.creditedWork }

/-- `accepts`. -/
def accepts (policy : ActionPolicy) (workRequirement : WorkRequirement) : Bool :=
  let specification := policy.specification
  match workRequirement.creditedWork.tryToU64 with
  | .error _ => false
  | .ok expectedHashes =>
      expectedHashes == specification.defaultExpectedHashes ||
        specification.maybeOverrideBounds.any fun bounds =>
          decide (bounds.1 ≤ expectedHashes ∧ expectedHashes ≤ bounds.2)

end ActionPolicy

/-! ## Terms -/

/-- The parsers of offers, what the `url` crate gives as the origin of a text that parses, and
SHA-256. -/
structure ChallengeWorld extends OfferWorld where
  asciiOrigin : String → String
  sha256 : List UInt8 → List UInt8

/-- The origin of an HTTPS URL is itself a text of an HTTPS URL, with nothing beside the origin,
and is its own origin. -/
structure ChallengeWorld.StableOrigins (world : ChallengeWorld) : Prop where
  parse_asciiOrigin : ∀ value url, world.parseEndpoint value = some url → url.scheme = "https" →
    url.hasHost = true → ∃ origin, world.parseEndpoint (world.asciiOrigin value) = some origin ∧
      origin.scheme = "https" ∧ origin.hasHost = true ∧ origin.username = "" ∧
      origin.maybePassword = none ∧ origin.path = "/" ∧ origin.maybeQuery = none ∧
      origin.maybeFragment = none
  asciiOrigin_asciiOrigin : ∀ value url, world.parseEndpoint value = some url →
    url.scheme = "https" → url.hasHost = true →
      world.asciiOrigin (world.asciiOrigin value) = world.asciiOrigin value

/-- `validate_bounded_value`. -/
def isBoundedValue (maximumLength : ℕ) (value : String) : Bool :=
  !value.isEmpty && decide (value.utf8ByteSize ≤ maximumLength)

/-- `ActionReference`. -/
structure ActionReference where
  text : String
  valid : isBoundedValue 256 text = true
  deriving DecidableEq

/-- `TryFrom<String> for ActionReference`. -/
def ActionReference.tryFrom (value : String) : Except ChallengeError ActionReference :=
  if valid : isBoundedValue 256 value = true then .ok ⟨value, valid⟩
  else .error .invalidActionReference

/-- `ClaimantKey`. -/
structure ClaimantKey where
  text : String
  valid : isBoundedValue 4096 text = true
  deriving DecidableEq

/-- `TryFrom<String> for ClaimantKey`. -/
def ClaimantKey.tryFrom (value : String) : Except ChallengeError ClaimantKey :=
  if valid : isBoundedValue 4096 value = true then .ok ⟨value, valid⟩
  else .error .invalidClaimantKey

/-- `TryFrom<String> for ChallengeId`, in the challenge's errors. -/
def challengeIdTryFrom (value : String) : Except ChallengeError ChallengeId :=
  if valid : isChallengeId value = true then .ok ⟨value, valid⟩ else .error .invalidChallengeId

/-- `ExpiresAtUnixSeconds`. -/
structure ExpiresAtUnixSeconds where
  value : BitVec 64
  nonzero : value ≠ 0
  deriving DecidableEq

/-- `TryFrom<u64> for ExpiresAtUnixSeconds`. -/
def ExpiresAtUnixSeconds.tryFrom (value : BitVec 64) :
    Except ChallengeError ExpiresAtUnixSeconds :=
  if nonzero : value ≠ 0 then .ok ⟨value, nonzero⟩ else .error .invalidExpiry

/-- `ProtocolVersion`. -/
inductive ProtocolVersion
  | development01
  deriving DecidableEq

/-- `ProtocolVersion::descriptor`. -/
def ProtocolVersion.descriptor : ProtocolVersion → String
  | development01 => "BWG/0.1"

/-- `ProtocolVersion::parse`. -/
def ProtocolVersion.parse (value : String) : Except ChallengeError ProtocolVersion :=
  if value = "BWG/0.1" then .ok development01 else .error .unsupportedProtocolVersion

section Challenges

variable (world : ChallengeWorld)

/-- `HttpsOrigin::try_from`: the origin of a text that is nothing more than one. -/
def httpsOrigin (value : String) : Option String :=
  match world.parseEndpoint value with
  | none => none
  | some url =>
      if url.username ≠ "" ∨ url.maybePassword.isSome ∨ url.maybeQuery.isSome ∨
          url.maybeFragment.isSome then none
      else if url.scheme ≠ "https" ∨ url.hasHost = false ∨ url.path ≠ "/" then none
      else
        let origin := world.asciiOrigin value
        if origin = "null" then none else some origin

/-- `HttpsOrigin`. -/
structure HttpsOrigin where
  text : String
  parsed : ∃ value, httpsOrigin world value = some text

/-- `TryFrom<String> for HttpsOrigin`. -/
def HttpsOrigin.tryFrom (value : String) : Option (HttpsOrigin world) :=
  match parsed : httpsOrigin world value with
  | none => none
  | some text => some ⟨text, value, parsed⟩

/-- `AllowedOrigins`. -/
structure AllowedOrigins where
  origins : List (HttpsOrigin world)
  nonempty : origins ≠ []
  unique : (origins.map HttpsOrigin.text).Nodup

/-- `TryFrom<Vec<String>> for AllowedOrigins`. -/
def AllowedOrigins.tryFrom (values : List String) :
    Except ChallengeError (AllowedOrigins world) :=
  match values.mapM (HttpsOrigin.tryFrom world) with
  | none => .error .invalidAllowedOrigins
  | some origins =>
      if valid : origins ≠ [] ∧ (origins.map HttpsOrigin.text).Nodup then
        .ok ⟨origins, valid.1, valid.2⟩
      else .error .invalidAllowedOrigins

/-- `RelyingServiceAudience`. -/
structure RelyingServiceAudience where
  text : String
  valid : world.isHttpsUrl text = true

/-- `TryFrom<String> for RelyingServiceAudience`. -/
def RelyingServiceAudience.tryFrom (value : String) :
    Except ChallengeError (RelyingServiceAudience world) :=
  if valid : world.isHttpsUrl value = true then .ok ⟨value, valid⟩
  else .error .invalidRelyingServiceAudience

/-! ## Offers as data -/

def OfferComponentIdentity.toJs (component : OfferComponentIdentity) : JsValue :=
  jsRecord
    [("component_id", jsText component.componentId),
      ("display_name", jsText component.displayName), ("version", jsText component.version),
      ("source_url", jsText component.sourceUrl), ("license", jsText component.license)]

def RewardPolicy.toJs (policy : RewardPolicy) : JsValue :=
  jsRecord
    [("mode", jsText policy.mode),
      ("selected_destination_basis_points",
        jsNatural policy.selectedDestinationBasisPoints.toNat),
      ("pool_fee_basis_points", jsNatural policy.poolFeeBasisPoints.toNat),
      ("service_fee_basis_points", jsNatural policy.serviceFeeBasisPoints.toNat),
      ("accepted_work_creates_revenue_claim", .bool policy.acceptedWorkCreatesRevenueClaim),
      ("creates_custodial_balance", .bool policy.createsCustodialBalance),
      ("network_valid_result", jsText policy.networkValidResult)]

def ApprovedBeneficiary.toJs (beneficiary : ApprovedBeneficiary) : JsValue :=
  jsRecord
    [("beneficiary_id", jsText beneficiary.beneficiaryId),
      ("display_name", jsText beneficiary.displayName),
      ("terms_url", jsText beneficiary.termsUrl)]

def PayoutRequirements.toJs (requirements : PayoutRequirements) : JsValue :=
  jsRecord
    [("selection_required", .bool requirements.selectionRequired),
      ("ephemeral_by_default", .bool requirements.ephemeralByDefault),
      ("accepted_destination_types",
        .array (requirements.acceptedDestinationTypes.map jsText)),
      ("approved_beneficiaries",
        .array (requirements.approvedBeneficiaries.map ApprovedBeneficiary.toJs))]

def DisclosedPoolOffer.toJs (offer : DisclosedPoolOffer) : JsValue :=
  jsRecord
    [("offer_id", jsText offer.offerId), ("mining_pool", offer.miningPool.toJs),
      ("pool_adapter", offer.poolAdapter.toJs), ("mining_transport", jsText offer.miningTransport),
      ("endpoint", jsText offer.endpoint), ("reward_policy", offer.rewardPolicy.toJs),
      ("payout_requirements", offer.payoutRequirements.toJs),
      ("privacy_terms_url", jsText offer.privacyTermsUrl),
      ("operator_terms_url", jsText offer.operatorTermsUrl)]

def SignedOffers.toJs (signed : SignedOffers) : JsValue :=
  jsRecord [("offers", .array (signed.offers.map DisclosedPoolOffer.toJs)),
    ("signature", jsText signed.signature)]

/-- A field that is written unless it is missing. -/
def writtenField (key : String) : Option JsValue → List (String × JsValue)
  | none => []
  | some value => [(key, value)]

/-- The claims of a set; a confirmation that is not required is not written. -/
def PoolOfferSetClaims.toJs (claims : PoolOfferSetClaims) : JsValue :=
  jsRecord
    ([("iss", jsText claims.iss), ("challenge_id", jsText claims.challengeId),
        ("action_policy", jsText claims.actionPolicy),
        ("offers", .array (claims.offers.map DisclosedPoolOffer.toJs))] ++
      writtenField "trusted_confirmation_required"
        (if claims.trustedConfirmationRequired then some (.bool true) else none) ++
      writtenField "material_replacement_digest_sha256"
        (claims.maybeMaterialReplacementDigestSha256.map jsText) ++
      [("bwg_version", jsText claims.bwgVersion)])

/-- `signed_pool_offers`. -/
def signedPoolOffers {scheme : Ed25519} (signer : AuthoritySigningKey scheme)
    (issuer challengeId : String) (actionPolicy : ActionPolicy)
    (offers : List (PublishedOffer world.toOfferWorld)) (trustedConfirmationRequired : Bool)
    (maybeMaterialReplacementDigestSha256 : Option String) :
    Except PoolOfferFailure SignedOffers := do
  let claims : PoolOfferSetClaims :=
    { iss := issuer
      challengeId
      actionPolicy := actionPolicy.id
      offers := offers.map PublishedOffer.offer
      trustedConfirmationRequired
      maybeMaterialReplacementDigestSha256
      bwgVersion := "BWG/0.1" }
  claims.validate world.toOfferWorld
  let signature := signer.signAuthorityPayload "bwg-pool-offer-set+jws" (JsonText.print claims.toJs)
  .ok { offers := claims.offers, signature }

/-! ## Descriptors -/

/-- `WorkChallengeDescriptor`. -/
structure WorkChallengeDescriptor where
  challengeId : ChallengeId
  actionPolicy : ActionPolicy
  actionReference : ActionReference
  claimantKey : ClaimantKey
  relyingServiceAudience : RelyingServiceAudience world
  allowedOrigins : AllowedOrigins world
  workRequirement : WorkRequirement
  maybePoolOffers : Option SignedOffers
  trustedConsentDisclosureDigestSha256 : String
  expiresAtUnixSeconds : ExpiresAtUnixSeconds
  protocolVersion : ProtocolVersion

def WorkRequirement.toJs (requirement : WorkRequirement) : JsValue :=
  jsRecord [("expected_hashes", jsText requirement.creditedWork.toDecimalString)]

namespace WorkChallengeDescriptor

variable {world}

/-- The fields a descriptor and the material of its digest begin with. -/
def termsToJs (descriptor : WorkChallengeDescriptor world) : List (String × JsValue) :=
  [("challenge_id", jsText descriptor.challengeId.text),
      ("action_policy", jsText descriptor.actionPolicy.id),
      ("action_reference", jsText descriptor.actionReference.text),
      ("claimant_key", jsText descriptor.claimantKey.text),
      ("relying_service_audience", jsText descriptor.relyingServiceAudience.text),
      ("allowed_origins",
        .array (descriptor.allowedOrigins.origins.map fun origin => jsText origin.text)),
      ("work_requirement", descriptor.workRequirement.toJs)] ++
    writtenField "pool_offers" (descriptor.maybePoolOffers.map SignedOffers.toJs)

/-- The fields both end with. -/
def closingToJs (descriptor : WorkChallengeDescriptor world) : List (String × JsValue) :=
  [("expires_at_unix_seconds", jsNatural descriptor.expiresAtUnixSeconds.value.toNat),
    ("protocol_version", jsText descriptor.protocolVersion.descriptor)]

/-- `TrustedConsentDisclosureMaterial`. -/
def disclosureMaterial (descriptor : WorkChallengeDescriptor world) : JsValue :=
  jsRecord (descriptor.termsToJs ++ descriptor.closingToJs)

def toJs (descriptor : WorkChallengeDescriptor world) : JsValue :=
  jsRecord (descriptor.termsToJs ++
    [("trusted_consent_disclosure_digest_sha256",
        jsText descriptor.trustedConsentDisclosureDigestSha256)] ++ descriptor.closingToJs)

/-- `serde_json::to_string`. -/
def serialize (descriptor : WorkChallengeDescriptor world) : String :=
  String.ofList (JsonText.print descriptor.toJs)

/-- The digest of the material. -/
def disclosureDigest (descriptor : WorkChallengeDescriptor world) : String :=
  Base64Url.encode (world.sha256
    (asBytes (String.ofList (JsonText.print descriptor.disclosureMaterial))))

/-- `with_validated_trusted_consent_digest`. -/
def withValidatedTrustedConsentDigest (descriptor : WorkChallengeDescriptor world)
    (maybeExpected : Option String) : Except ChallengeError (WorkChallengeDescriptor world) :=
  let disclosureDigest := descriptor.disclosureDigest
  if maybeExpected.any (· ≠ disclosureDigest) then .error .invalidTrustedConsentDisclosureDigest
  else .ok { descriptor with trustedConsentDisclosureDigestSha256 := disclosureDigest }

end WorkChallengeDescriptor

/-! ## Issuance -/

/-- `IssueChallengeCommand`. -/
structure IssueChallengeCommand where
  actionPolicy : ActionPolicy
  actionReference : ActionReference
  claimantKey : ClaimantKey
  relyingServiceAudience : RelyingServiceAudience world
  allowedOrigins : AllowedOrigins world
  poolOffers : SignedOffers
  maybeWorkRequirementOverride : Option WorkRequirementOverride

/-- `checked_add`, with its failure. -/
def checkedAddSeconds (first second : BitVec 64) : Except ChallengeError (BitVec 64) :=
  if first.toNat + second.toNat < 2 ^ 64 then .ok (first + second) else .error .expiryOverflow

/-- `issue_challenge`. -/
def issueChallenge (command : IssueChallengeCommand world) (challengeId : String)
    (issuedAtUnixSeconds : BitVec 64) :
    Except ChallengeError (WorkChallengeDescriptor world) := do
  let workRequirement ←
    command.actionPolicy.workRequirement command.maybeWorkRequirementOverride
  let expiresAtUnixSeconds ← checkedAddSeconds issuedAtUnixSeconds
    command.actionPolicy.specification.challengeTtlSeconds
  let challengeId ← challengeIdTryFrom challengeId
  let expiresAtUnixSeconds ← ExpiresAtUnixSeconds.tryFrom expiresAtUnixSeconds
  let descriptor : WorkChallengeDescriptor world :=
    { challengeId
      actionPolicy := command.actionPolicy
      actionReference := command.actionReference
      claimantKey := command.claimantKey
      relyingServiceAudience := command.relyingServiceAudience
      allowedOrigins := command.allowedOrigins
      workRequirement
      maybePoolOffers := some command.poolOffers
      trustedConsentDisclosureDigestSha256 := ""
      expiresAtUnixSeconds
      protocolVersion := .development01 }
  descriptor.withValidatedTrustedConsentDigest none

end Challenges

end WorkGate
