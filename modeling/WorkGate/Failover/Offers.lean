/-
# Pool offers (src/pool_offer.rs, src/pool_offer/classification.rs)

An offer discloses who pools the work, what it pays and under which terms.  Offers come in
signed sets; the set is verified against the challenge it was made for.  When an offer takes
the place of another, the difference between the two decides whether consent may be reused.

Two parsers and the signatures are left to the caller of the development.
-/

import WorkGate.Library.Results
import WorkGate.Progress.Event

namespace WorkGate

open WorkGate.Library

/-- The variants of `PoolOfferError` the disclosure and its signature can end in. -/
inductive PoolOfferFailure
  | invalidPoolOffer
  | invalidRewardPolicy
  | invalidPayoutRequirements
  | emptyPoolOfferSet
  | duplicatePoolOffer
  | invalidPoolOfferSignature
  | invalidPoolOfferClaims
  | signedOfferMismatch
  | signedOfferContextMismatch
  | crypto
  deriving DecidableEq, Repr

/-! ## Offers -/

/-- An implementation or operator that takes part in an offer. -/
structure OfferComponentIdentity where
  componentId : String
  displayName : String
  version : String
  sourceUrl : String
  license : String
  deriving DecidableEq

structure RewardPolicy where
  mode : String
  selectedDestinationBasisPoints : UInt16
  poolFeeBasisPoints : UInt16
  serviceFeeBasisPoints : UInt16
  acceptedWorkCreatesRevenueClaim : Bool
  createsCustodialBalance : Bool
  networkValidResult : String
  deriving DecidableEq

structure ApprovedBeneficiary where
  beneficiaryId : String
  displayName : String
  termsUrl : String
  deriving DecidableEq

structure PayoutRequirements where
  selectionRequired : Bool
  ephemeralByDefault : Bool
  acceptedDestinationTypes : List String
  approvedBeneficiaries : List ApprovedBeneficiary
  deriving DecidableEq

/-- `PoolOffer`: one offer, as it is disclosed. -/
structure DisclosedPoolOffer where
  offerId : String
  miningPool : OfferComponentIdentity
  poolAdapter : OfferComponentIdentity
  miningTransport : String
  endpoint : String
  rewardPolicy : RewardPolicy
  payoutRequirements : PayoutRequirements
  privacyTermsUrl : String
  operatorTermsUrl : String
  deriving DecidableEq

/-- Offers with the signature over them. -/
structure SignedOffers where
  offers : List DisclosedPoolOffer
  signature : String
  deriving DecidableEq

/-- What is read of an endpoint the `url` crate parsed. -/
structure EndpointUrl where
  scheme : String
  hasHost : Bool
  maybePort : Option ℕ
  username : String
  maybePassword : Option String
  path : String
  maybeQuery : Option String
  maybeFragment : Option String

/-- The policies an Authority knows. -/
inductive ActionPolicy
  | accountCreationLightV1
  | accountCreationStandardV1
  | accountCreationElevatedV1
  deriving DecidableEq, Repr

namespace ActionPolicy

def id : ActionPolicy → String
  | accountCreationLightV1 => "account-creation.light.v1"
  | accountCreationStandardV1 => "account-creation.standard.v1"
  | accountCreationElevatedV1 => "account-creation.elevated.v1"

def all : List ActionPolicy :=
  [accountCreationLightV1, accountCreationStandardV1, accountCreationElevatedV1]

end ActionPolicy

/-- What the signature of a set of offers binds. -/
structure PoolOfferSetClaims where
  iss : String
  challengeId : String
  actionPolicy : String
  offers : List DisclosedPoolOffer
  trustedConfirmationRequired : Bool
  maybeMaterialReplacementDigestSha256 : Option String
  bwgVersion : String
  deriving DecidableEq

/-- The parsers, and the signatures the Authority's keys verify. -/
structure OfferWorld where
  parseEndpoint : String → Option EndpointUrl
  verifyAuthorityPayload : String → Option PoolOfferSetClaims

/-- `HttpsUrl::try_from`. -/
def OfferWorld.isHttpsUrl (world : OfferWorld) (value : String) : Bool :=
  match world.parseEndpoint value with
  | none => false
  | some url => url.username.isEmpty && url.maybePassword.isNone && url.maybeQuery.isNone &&
      url.maybeFragment.isNone && url.scheme == "https" && url.hasHost

/-- `validate_id`. -/
def validateOfferId (value : String) : Except PoolOfferFailure Unit :=
  if (value.isEmpty || decide (128 < value.utf8ByteSize) ||
      !value.toList.all isOpaqueIdCharacter) = true then .error .invalidPoolOffer
  else .ok ()

/-- `validate_label`. -/
def validateLabel (value : String) : Except PoolOfferFailure Unit :=
  if (value.isEmpty || decide (256 < value.utf8ByteSize)) = true then .error .invalidPoolOffer
  else .ok ()

def OfferComponentIdentity.validate (component : OfferComponentIdentity) :
    Except PoolOfferFailure Unit := do
  validateOfferId component.componentId
  validateLabel component.displayName
  validateLabel component.version
  validateLabel component.license

def RewardPolicy.validate (policy : RewardPolicy) : Except PoolOfferFailure Unit :=
  let total := policy.selectedDestinationBasisPoints.toNat + policy.poolFeeBasisPoints.toNat +
    policy.serviceFeeBasisPoints.toNat
  if (policy.mode != "solo_direct_coinbase" ||
      policy.networkValidResult != "direct_coinbase_payout" ||
      policy.acceptedWorkCreatesRevenueClaim || policy.createsCustodialBalance ||
      total != 10000) = true then .error .invalidRewardPolicy
  else .ok ()

def ApprovedBeneficiary.validate (beneficiary : ApprovedBeneficiary) :
    Except PoolOfferFailure Unit := do
  validateOfferId beneficiary.beneficiaryId
  validateLabel beneficiary.displayName

def PayoutRequirements.validate (requirements : PayoutRequirements) :
    Except PoolOfferFailure Unit :=
  if (!requirements.selectionRequired || !requirements.ephemeralByDefault ||
      requirements.acceptedDestinationTypes !=
        ["bitcoin_mainnet_address", "approved_beneficiary"]) = true then
    .error .invalidPayoutRequirements
  else requirements.approvedBeneficiaries.forM ApprovedBeneficiary.validate

/-- `valid_stratum_endpoint`. -/
def validOfferEndpoint (world : OfferWorld) (value : String) : Bool :=
  match world.parseEndpoint value with
  | none => false
  | some url => url.scheme == "stratum+tcp" && url.hasHost && url.maybePort.isSome &&
      url.username.isEmpty && url.maybePassword.isNone && url.path == "/" &&
      url.maybeQuery.isNone && url.maybeFragment.isNone

def DisclosedPoolOffer.validate (world : OfferWorld) (offer : DisclosedPoolOffer) :
    Except PoolOfferFailure Unit := do
  validateOfferId offer.offerId
  offer.miningPool.validate
  offer.poolAdapter.validate
  if offer.miningTransport ≠ "stratum_v1" ∨ validOfferEndpoint world offer.endpoint = false then
    .error .invalidPoolOffer
  else do
    offer.rewardPolicy.validate
    offer.payoutRequirements.validate

/-! ## Signed sets -/

def validateOffers (world : OfferWorld) (offers : List DisclosedPoolOffer) :
    Except PoolOfferFailure Unit := do
  if offers.isEmpty then .error .emptyPoolOfferSet
  else do
    offers.forM (DisclosedPoolOffer.validate world)
    if (offers.map DisclosedPoolOffer.offerId).Nodup then .ok () else .error .duplicatePoolOffer

def SignedOffers.validateShape (world : OfferWorld) (signed : SignedOffers) :
    Except PoolOfferFailure Unit := do
  validateOffers world signed.offers
  -- Three parts, so two points between them.
  if signed.signature.toList.count '.' ≠ 2 then .error .invalidPoolOfferSignature else .ok ()

/-- `validate_claims`. -/
def PoolOfferSetClaims.validate (world : OfferWorld) (claims : PoolOfferSetClaims) :
    Except PoolOfferFailure Unit :=
  if (!world.isHttpsUrl claims.iss || !isChallengeId claims.challengeId ||
      !ActionPolicy.all.any (·.id == claims.actionPolicy) || claims.bwgVersion != "BWG/0.1" ||
      claims.maybeMaterialReplacementDigestSha256.isSome &&
        !claims.trustedConfirmationRequired) = true then .error .invalidPoolOfferClaims
  else validateOffers world claims.offers

/-- `verify_pool_offer_set`: the claims of a set that shows exactly the offers it signs. -/
def verifyOffers (world : OfferWorld) (signed : SignedOffers) (expectedIssuer : String)
    (expectedChallengeId : ChallengeId) (expectedActionPolicy : ActionPolicy) :
    Except PoolOfferFailure PoolOfferSetClaims := do
  signed.validateShape world
  match world.verifyAuthorityPayload signed.signature with
  | none => .error .crypto
  | some claims => do
    claims.validate world
    if claims.iss ≠ expectedIssuer ∨ claims.challengeId ≠ expectedChallengeId.text ∨
        claims.actionPolicy ≠ expectedActionPolicy.id then .error .signedOfferContextMismatch
    else if claims.offers ≠ signed.offers then .error .signedOfferMismatch
    else .ok claims

/-! ## Classification -/

/-- The terms that consent is about. -/
inductive MaterialPoolOfferChange
  | economicTerms
  | payoutTerms
  | privacyTerms
  | operatorTerms
  | licenseTerms
  deriving DecidableEq, Repr

inductive PoolOfferChange
  | equivalent
  | materiallyChanged (changes : List MaterialPoolOfferChange)
  deriving DecidableEq, Repr

/-- The terms that differ between two offers, in a fixed order. -/
def materialChanges (consented candidate : DisclosedPoolOffer) : List MaterialPoolOfferChange :=
  (if consented.rewardPolicy ≠ candidate.rewardPolicy then [.economicTerms] else []) ++
  (if consented.payoutRequirements ≠ candidate.payoutRequirements then [.payoutTerms] else []) ++
  (if consented.privacyTermsUrl ≠ candidate.privacyTermsUrl then [.privacyTerms] else []) ++
  (if consented.operatorTermsUrl ≠ candidate.operatorTermsUrl then [.operatorTerms] else []) ++
  (if consented.miningPool.license ≠ candidate.miningPool.license ∨
      consented.poolAdapter.license ≠ candidate.poolAdapter.license then [.licenseTerms] else [])

def classifyPoolOfferChange (world : OfferWorld) (consented candidate : DisclosedPoolOffer) :
    Except PoolOfferFailure PoolOfferChange := do
  consented.validate world
  candidate.validate world
  match materialChanges consented candidate with
  | [] => .ok .equivalent
  | change :: changes => .ok (.materiallyChanged (change :: changes))

/-- The terms of an offer that consent is about. -/
structure ConsentTerms where
  rewardPolicy : RewardPolicy
  payoutRequirements : PayoutRequirements
  privacyTermsUrl : String
  operatorTermsUrl : String
  poolLicense : String
  adapterLicense : String
  deriving DecidableEq

def DisclosedPoolOffer.terms (offer : DisclosedPoolOffer) : ConsentTerms where
  rewardPolicy := offer.rewardPolicy
  payoutRequirements := offer.payoutRequirements
  privacyTermsUrl := offer.privacyTermsUrl
  operatorTermsUrl := offer.operatorTermsUrl
  poolLicense := offer.miningPool.license
  adapterLicense := offer.poolAdapter.license

/-- Nothing is listed exactly when all the terms agree. -/
theorem materialChanges_eq_nil {consented candidate : DisclosedPoolOffer} :
    materialChanges consented candidate = [] ↔ consented.terms = candidate.terms := by
  simp only [materialChanges, List.append_eq_nil_iff, ite_eq_right_iff, reduceCtorEq, imp_false,
    not_not, not_or, DisclosedPoolOffer.terms, ConsentTerms.mk.injEq]
  tauto

/-- An offer is equivalent only to offers of the same terms. -/
theorem terms_of_equivalent {world : OfferWorld} {consented candidate : DisclosedPoolOffer}
    (h : classifyPoolOfferChange world consented candidate = .ok .equivalent) :
    consented.terms = candidate.terms := by
  simp only [classifyPoolOfferChange, bind_eq_ok] at h
  obtain ⟨_, -, _, -, h⟩ := h
  cases hchanges : materialChanges consented candidate with
  | nil => exact materialChanges_eq_nil.mp hchanges
  | cons change changes =>
      rw [hchanges] at h
      cases h

end WorkGate
