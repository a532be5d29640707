/-
# Pool offers in the client (web/headless-pool-offer.ts, src/pool_offer.rs, src/web_url.rs)

The Authority validates an offer before it signs it, the client before it shows it.  What the
Authority publishes the client accepts, but for the identities of beneficiaries, which the client
wants in small letters and different, and for the port zero.

Both parse URLs by one standard, each with a library of its own.
-/

import Mathlib.Data.List.TakeWhile
import WorkGate.Failover.Offers
import WorkGate.Library.Ascii
import WorkGate.Library.Decimal

namespace WorkGate.Headless

open WorkGate.Library

/-! ## The client's checks -/

/-- What is read of a `URL` of the browser. -/
structure BrowserUrl where
  protocol : String
  hostname : String
  port : String
  username : String
  password : String
  deriving DecidableEq

/-- `new URL`, beside the `url` crate: both follow one standard, and so show the same parts of a
text that parses. -/
structure BrowserUrls (world : OfferWorld) where
  /-- `none` where the constructor throws its `TypeError`. -/
  parse : String → Option BrowserUrl
  parse_of_parseEndpoint : ∀ text url, world.parseEndpoint text = some url →
    ∃ parsed, parse text = some parsed ∧ parsed.protocol = url.scheme ++ ":" ∧
      (url.hasHost = true → parsed.hostname ≠ "") ∧
      parsed.port = (url.maybePort.map Nat.repr).getD "" ∧ parsed.username = url.username ∧
      parsed.password = url.maybePassword.getD ""
  /-- Ports have 16 bits. -/
  port_lt : ∀ text url port, world.parseEndpoint text = some url → url.maybePort = some port →
    port < 2 ^ 16

/-- White space and line ends, as numbers are trimmed of them. -/
def isTrimmed (character : Char) : Bool :=
  character.toNat ∈ [0x9, 0xA, 0xB, 0xC, 0xD, 0x20, 0xA0, 0x1680, 0x2028, 0x2029, 0x202F, 0x205F,
    0x3000, 0xFEFF] || 0x2000 ≤ character.toNat && character.toNat ≤ 0x200A

/-- `Number.parseInt(text, 10)`, where `none` is `NaN`. -/
def parseInt (text : String) : Option ℤ :=
  let (sign, rest) : ℤ × List Char := match text.toList.dropWhile isTrimmed with
    | '-' :: rest => (-1, rest)
    | '+' :: rest => (1, rest)
    | rest => (1, rest)
  match rest.takeWhile Char.isDigit with
  | [] => none
  | digits => some (sign * Nat.ofDigitChars 10 digits 0)

/-- `OfferComponentDisclosure`. -/
structure OfferComponentDisclosure where
  componentId : String
  displayName : String
  version : String
  sourceUrl : String
  license : String
  deriving DecidableEq

/-- `RewardPolicyDisclosure`; its numbers are whole. -/
structure RewardPolicyDisclosure where
  mode : String
  selectedDestinationBasisPoints : ℤ
  poolFeeBasisPoints : ℤ
  serviceFeeBasisPoints : ℤ
  acceptedWorkCreatesRevenueClaim : Bool
  createsCustodialBalance : Bool
  networkValidResult : String
  deriving DecidableEq

/-- `ApprovedBeneficiaryDisclosure`. -/
structure ApprovedBeneficiaryDisclosure where
  beneficiaryId : String
  displayName : String
  termsUrl : String
  deriving DecidableEq

/-- `PayoutRequirementsDisclosure`. -/
structure PayoutRequirementsDisclosure where
  selectionRequired : Bool
  ephemeralByDefault : Bool
  acceptedDestinationTypes : List String
  approvedBeneficiaries : List ApprovedBeneficiaryDisclosure
  deriving DecidableEq

/-- `PoolOfferDisclosure`. -/
structure PoolOfferDisclosure where
  offerId : String
  miningPool : OfferComponentDisclosure
  poolAdapter : OfferComponentDisclosure
  miningTransport : String
  endpoint : String
  rewardPolicy : RewardPolicyDisclosure
  payoutRequirements : PayoutRequirementsDisclosure
  privacyTermsUrl : String
  operatorTermsUrl : String
  deriving DecidableEq

section Checks

variable {world : OfferWorld} (urls : BrowserUrls world)

/-- `validHttpsUrl`. -/
def validHttpsUrl (value : String) : Bool :=
  match urls.parse value with
  | none => false
  | some parsed => parsed.protocol == "https:" && decide (parsed.hostname.length > 0) &&
      parsed.username.length == 0 && parsed.password.length == 0

/-- `validStratumEndpoint`. -/
def validStratumEndpoint (value : String) : Bool :=
  match urls.parse value with
  | none => false
  | some parsed => parsed.protocol == "stratum+tcp:" && decide (parsed.hostname.length > 0) &&
      decide (parsed.port.length > 0) &&
      (match parseInt parsed.port with
        | none => false
        | some port => decide (port ≥ 1) && decide (port ≤ 65535)) &&
      parsed.username.length == 0 && parsed.password.length == 0

/-- `/^[a-z0-9_]{1,128}$/u`. -/
def isBeneficiaryId (value : String) : Bool :=
  decide (1 ≤ value.length) && decide (value.length ≤ 128) &&
    value.toList.all fun character => character.isLower || character.isDigit || character == '_'

/-- The loop of `validBeneficiaries`, after some identifiers. -/
def validBeneficiaries (identifiers : List String) : List ApprovedBeneficiaryDisclosure → Bool
  | [] => true
  | beneficiary :: beneficiaries =>
      if !isBeneficiaryId beneficiary.beneficiaryId ||
          identifiers.contains beneficiary.beneficiaryId ||
          beneficiary.displayName.length == 0 || !validHttpsUrl urls beneficiary.termsUrl then false
      else validBeneficiaries (beneficiary.beneficiaryId :: identifiers) beneficiaries

def validBasisPoints (value : ℤ) : Bool := decide (value ≥ 0) && decide (value ≤ 10000)

def validComponent (component : OfferComponentDisclosure) : Bool :=
  decide (component.componentId.length > 0) && decide (component.displayName.length > 0) &&
    decide (component.version.length > 0) && validHttpsUrl urls component.sourceUrl &&
    decide (component.license.length > 0)

/-- `validatePoolOffer`, which throws an error with a message or returns. -/
def validatePoolOffer (offer : PoolOfferDisclosure) : Except String Unit :=
  if offer.offerId.length == 0 || !validComponent urls offer.miningPool ||
      !validComponent urls offer.poolAdapter || offer.miningTransport != "stratum_v1" ||
      !validStratumEndpoint urls offer.endpoint || !offer.payoutRequirements.selectionRequired ||
      !offer.payoutRequirements.ephemeralByDefault ||
      String.intercalate "," offer.payoutRequirements.acceptedDestinationTypes !=
        "bitcoin_mainnet_address,approved_beneficiary" ||
      !validHttpsUrl urls offer.privacyTermsUrl || !validHttpsUrl urls offer.operatorTermsUrl ||
      !validBeneficiaries urls [] offer.payoutRequirements.approvedBeneficiaries then
    .error "Pool Offer is invalid"
  else
    let policy := offer.rewardPolicy
    let rewardTotal := policy.selectedDestinationBasisPoints + policy.poolFeeBasisPoints +
      policy.serviceFeeBasisPoints
    if !validBasisPoints policy.selectedDestinationBasisPoints ||
        !validBasisPoints policy.poolFeeBasisPoints ||
        !validBasisPoints policy.serviceFeeBasisPoints || rewardTotal != 10000 ||
        policy.mode != "solo_direct_coinbase" || policy.acceptedWorkCreatesRevenueClaim ||
        policy.createsCustodialBalance ||
        policy.networkValidResult != "direct_coinbase_payout" then .error "Reward Policy is invalid"
    else .ok ()

end Checks

/-! ## Published offers -/

/-- A `PoolOffer` of the Authority; the type of its URLs holds what has parsed. -/
structure PublishedOffer (world : OfferWorld) where
  offer : DisclosedPoolOffer
  miningPool_url : world.isHttpsUrl offer.miningPool.sourceUrl = true
  poolAdapter_url : world.isHttpsUrl offer.poolAdapter.sourceUrl = true
  privacyTerms_url : world.isHttpsUrl offer.privacyTermsUrl = true
  operatorTerms_url : world.isHttpsUrl offer.operatorTermsUrl = true
  beneficiary_url : ∀ beneficiary ∈ offer.payoutRequirements.approvedBeneficiaries,
    world.isHttpsUrl beneficiary.termsUrl = true

def componentDisclosure (component : OfferComponentIdentity) : OfferComponentDisclosure where
  componentId := component.componentId
  displayName := component.displayName
  version := component.version
  sourceUrl := component.sourceUrl
  license := component.license

def beneficiaryDisclosure (beneficiary : ApprovedBeneficiary) : ApprovedBeneficiaryDisclosure where
  beneficiaryId := beneficiary.beneficiaryId
  displayName := beneficiary.displayName
  termsUrl := beneficiary.termsUrl

/-- What the client reads of an offer as it is serialized. -/
def disclosure (offer : DisclosedPoolOffer) : PoolOfferDisclosure where
  offerId := offer.offerId
  miningPool := componentDisclosure offer.miningPool
  poolAdapter := componentDisclosure offer.poolAdapter
  miningTransport := offer.miningTransport
  endpoint := offer.endpoint
  rewardPolicy := {
    mode := offer.rewardPolicy.mode
    selectedDestinationBasisPoints := offer.rewardPolicy.selectedDestinationBasisPoints.toNat
    poolFeeBasisPoints := offer.rewardPolicy.poolFeeBasisPoints.toNat
    serviceFeeBasisPoints := offer.rewardPolicy.serviceFeeBasisPoints.toNat
    acceptedWorkCreatesRevenueClaim := offer.rewardPolicy.acceptedWorkCreatesRevenueClaim
    createsCustodialBalance := offer.rewardPolicy.createsCustodialBalance
    networkValidResult := offer.rewardPolicy.networkValidResult }
  payoutRequirements := {
    selectionRequired := offer.payoutRequirements.selectionRequired
    ephemeralByDefault := offer.payoutRequirements.ephemeralByDefault
    acceptedDestinationTypes := offer.payoutRequirements.acceptedDestinationTypes
    approvedBeneficiaries :=
      offer.payoutRequirements.approvedBeneficiaries.map beneficiaryDisclosure }
  privacyTermsUrl := offer.privacyTermsUrl
  operatorTermsUrl := offer.operatorTermsUrl

/-! ## URLs -/

theorem length_pos_of_ne {text : String} (h : text ≠ "") : text.length > 0 := by
  rw [gt_iff_lt, Nat.pos_iff_ne_zero, ne_eq, String.length_eq_zero_iff]
  exact h

/-- What is printed for a number reads as it. -/
theorem parseInt_repr (port : ℕ) : parseInt (Nat.repr port) = some (port : ℤ) := by
  have hdigits : ∀ digit ∈ Nat.toDigits 10 port, digit.isDigit = true := fun digit hdigit =>
    Nat.isDigit_of_mem_toDigits (by decide) (by decide) hdigit
  have hread : Nat.ofDigitChars 10 (Nat.toDigits 10 port) 0 = port :=
    Nat.ofDigitChars_toDigits (by decide) (by decide)
  have hall : (Nat.toDigits 10 port).takeWhile Char.isDigit = Nat.toDigits 10 port := by
    rw [List.takeWhile_eq_self_iff]
    exact hdigits
  rw [parseInt, Nat.toList_repr]
  cases hfound : Nat.toDigits 10 port with
  | nil => exact absurd hfound Nat.toDigits_ne_nil
  | cons digit digits =>
      rw [hfound] at hdigits hall hread
      have hdigit := hdigits digit List.mem_cons_self
      obtain ⟨hlow, hhigh⟩ := Decimal.toNat_of_isDigit hdigit
      have hkept : ¬ isTrimmed digit = true := by
        simp only [isTrimmed, Bool.or_eq_true, Bool.and_eq_true, decide_eq_true_eq, List.mem_cons,
          List.not_mem_nil, or_false]
        omega
      have hminus : digit ≠ '-' := by
        rintro rfl
        exact absurd hdigit (by decide)
      have hplus : digit ≠ '+' := by
        rintro rfl
        exact absurd hdigit (by decide)
      rw [List.dropWhile_cons_of_neg hkept]
      simp [hminus, hplus, hall, hread]

section Agreement

variable {world : OfferWorld} (urls : BrowserUrls world)

theorem validHttpsUrl_of_isHttpsUrl {value : String} (h : world.isHttpsUrl value = true) :
    validHttpsUrl urls value = true := by
  rw [OfferWorld.isHttpsUrl] at h
  cases hparse : world.parseEndpoint value with
  | none =>
      rw [hparse] at h
      cases h
  | some url =>
      rw [hparse] at h
      obtain ⟨parsed, hparsed, hprotocol, hhostname, -, husername, hpassword⟩ :=
        urls.parse_of_parseEndpoint value url hparse
      simp only [Bool.and_eq_true, beq_iff_eq, String.isEmpty_iff, Option.isNone_iff_eq_none] at h
      obtain ⟨⟨⟨⟨⟨huser, hpass⟩, -⟩, -⟩, hscheme⟩, hhost⟩ := h
      have hname := length_pos_of_ne (hhostname hhost)
      rw [validHttpsUrl, hparsed]
      dsimp only
      rw [hprotocol, husername, hpassword, huser, hpass, hscheme, decide_eq_true hname]
      rfl

/-- The port of an endpoint, if it parses and names one. -/
def endpointPort (world : OfferWorld) (endpoint : String) : Option ℕ :=
  (world.parseEndpoint endpoint).bind EndpointUrl.maybePort

/-- Of the Authority's endpoints the client refuses those of port zero. -/
theorem validStratumEndpoint_iff {endpoint : String}
    (h : validOfferEndpoint world endpoint = true) :
    validStratumEndpoint urls endpoint = true ↔ endpointPort world endpoint ≠ some 0 := by
  rw [validOfferEndpoint] at h
  cases hparse : world.parseEndpoint endpoint with
  | none =>
      rw [hparse] at h
      cases h
  | some url =>
      rw [hparse] at h
      obtain ⟨parsed, hparsed, hprotocol, hhostname, hport, husername, hpassword⟩ :=
        urls.parse_of_parseEndpoint endpoint url hparse
      simp only [Bool.and_eq_true, beq_iff_eq, String.isEmpty_iff, Option.isNone_iff_eq_none,
        Option.isSome_iff_exists] at h
      obtain ⟨⟨⟨⟨⟨⟨⟨hscheme, hhost⟩, port, hnamed⟩, huser⟩, hpass⟩, -⟩, -⟩, -⟩ := h
      have hname := length_pos_of_ne (hhostname hhost)
      have hlt := urls.port_lt endpoint url port hparse hnamed
      have hprinted : parsed.port = Nat.repr port := by
        rw [hport, hnamed]
        rfl
      have hlong : (Nat.repr port).length > 0 := Nat.length_repr_pos
      rw [validStratumEndpoint, hparsed, endpointPort, hparse]
      dsimp only
      rw [hprotocol, husername, hpassword, huser, hpass, hscheme, decide_eq_true hname, hprinted,
        parseInt_repr, decide_eq_true hlong, Option.bind_some, hnamed]
      simp only [Bool.and_eq_true, decide_eq_true_eq, Option.getD_none, ne_eq, Option.some_inj]
      constructor
      · rintro ⟨⟨⟨-, hpositive, -⟩, -⟩, -⟩
        omega
      · intro hpositive
        have hports : (port : ℤ) ≥ 1 ∧ (port : ℤ) ≤ 65535 := by omega
        exact ⟨⟨⟨⟨⟨rfl, trivial⟩, trivial⟩, hports⟩, rfl⟩, rfl⟩

/-! ## Texts and identities -/

/-- What the client wants of a beneficiary's identity beyond what the Authority does. -/
def isSmallIdentity (value : String) : Bool :=
  value.toList.all fun character => character.isLower || character.isDigit || character == '_'

theorem length_pos_of_validateLabel {value : String} (h : validateLabel value = .ok ()) :
    value.length > 0 := by
  rw [validateLabel] at h
  obtain ⟨hfits, -⟩ := guard_eq_ok h
  apply length_pos_of_ne
  rintro rfl
  exact hfits rfl

/-- An identity of the Authority is an ASCII text of 128 characters at most. -/
theorem length_of_validateOfferId {value : String} (h : validateOfferId value = .ok ()) :
    value.length > 0 ∧ value.length ≤ 128 := by
  rw [validateOfferId] at h
  obtain ⟨hfits, -⟩ := guard_eq_ok h
  simp only [Bool.or_eq_true, decide_eq_true_eq, Bool.not_eq_true', not_or, Nat.not_lt,
    Bool.not_eq_false] at hfits
  obtain ⟨⟨hnonempty, hsize⟩, hcharacters⟩ := hfits
  have hascii : ∀ character ∈ value.toList, character.toNat < 128 := by
    intro character hcharacter
    exact toNat_lt_of_isOpaqueIdCharacter (List.all_eq_true.mp hcharacters character hcharacter)
  rw [utf8ByteSize_of_ascii hascii] at hsize
  constructor
  · apply length_pos_of_ne
    rintro rfl
    exact hnonempty rfl
  · rw [← String.length_toList]
    exact hsize

theorem isBeneficiaryId_eq {value : String} (h : validateOfferId value = .ok ()) :
    isBeneficiaryId value = isSmallIdentity value := by
  obtain ⟨hpositive, hbounded⟩ := length_of_validateOfferId h
  have hnonempty : decide (1 ≤ value.length) = true := decide_eq_true hpositive
  rw [isBeneficiaryId, hnonempty, decide_eq_true hbounded]
  rfl

/-- One round of the loop, on what the Authority has validated. -/
theorem validBeneficiaries_cons (identifiers : List String) {beneficiary : ApprovedBeneficiary}
    (hchecks : beneficiary.validate = .ok ())
    (hurl : world.isHttpsUrl beneficiary.termsUrl = true)
    (beneficiaries : List ApprovedBeneficiaryDisclosure) :
    validBeneficiaries urls identifiers (beneficiaryDisclosure beneficiary :: beneficiaries) =
      (isSmallIdentity beneficiary.beneficiaryId &&
        !identifiers.contains beneficiary.beneficiaryId &&
        validBeneficiaries urls (beneficiary.beneficiaryId :: identifiers) beneficiaries) := by
  rw [ApprovedBeneficiary.validate, bind_eq_ok] at hchecks
  obtain ⟨_, hid, hlabel⟩ := hchecks
  have hname : ((beneficiaryDisclosure beneficiary).displayName.length == 0) = false := by
    rw [beq_eq_false_iff_ne]
    exact Nat.ne_of_gt (length_pos_of_validateLabel hlabel)
  have hterms : validHttpsUrl urls (beneficiaryDisclosure beneficiary).termsUrl = true :=
    validHttpsUrl_of_isHttpsUrl urls hurl
  have hkey : (beneficiaryDisclosure beneficiary).beneficiaryId = beneficiary.beneficiaryId := rfl
  simp only [validBeneficiaries, hkey, isBeneficiaryId_eq hid, hname, hterms]
  cases isSmallIdentity beneficiary.beneficiaryId with
  | false => rfl
  | true =>
      cases identifiers.contains beneficiary.beneficiaryId with
      | true => rfl
      | false => rfl

/-- The loop accepts beneficiaries that pass the checks, under identities all new. -/
theorem validBeneficiaries_iff (identifiers : List String) (beneficiaries : List ApprovedBeneficiary)
    (hvalid : ∀ beneficiary ∈ beneficiaries, beneficiary.validate = .ok () ∧
      world.isHttpsUrl beneficiary.termsUrl = true) :
    validBeneficiaries urls identifiers (beneficiaries.map beneficiaryDisclosure) = true ↔
      (∀ beneficiary ∈ beneficiaries, isSmallIdentity beneficiary.beneficiaryId = true ∧
        beneficiary.beneficiaryId ∉ identifiers) ∧
      (beneficiaries.map ApprovedBeneficiary.beneficiaryId).Nodup := by
  induction beneficiaries generalizing identifiers with
  | nil => simp [validBeneficiaries]
  | cons beneficiary beneficiaries ih =>
      rw [List.forall_mem_cons] at hvalid
      obtain ⟨⟨hchecks, hurl⟩, hrest⟩ := hvalid
      rw [List.map_cons, validBeneficiaries_cons urls identifiers hchecks hurl, Bool.and_eq_true,
        Bool.and_eq_true, ih _ hrest, List.forall_mem_cons, List.map_cons, List.nodup_cons]
      simp only [Bool.not_eq_true', List.contains_eq_mem, decide_eq_false_iff_not, List.mem_cons,
        not_or, List.mem_map, not_exists, not_and]
      constructor
      · rintro ⟨⟨hsmall, hnew⟩, hothers, hnodup⟩
        refine ⟨⟨⟨hsmall, hnew⟩, fun other hother => ?_⟩, fun other hother => ?_, hnodup⟩
        · exact ⟨(hothers other hother).1, (hothers other hother).2.2⟩
        · exact (hothers other hother).2.1
      · rintro ⟨⟨⟨hsmall, hnew⟩, hothers⟩, hdistinct, hnodup⟩
        refine ⟨⟨hsmall, hnew⟩, fun other hother => ?_, hnodup⟩
        exact ⟨(hothers other hother).1, hdistinct other hother, (hothers other hother).2⟩

/-! ## Offers -/

theorem validComponent_of_validate {component : OfferComponentIdentity}
    (h : component.validate = .ok ()) (hurl : world.isHttpsUrl component.sourceUrl = true) :
    validComponent urls (componentDisclosure component) = true := by
  simp only [OfferComponentIdentity.validate, bind_eq_ok] at h
  obtain ⟨_, hid, _, hname, _, hversion, hlicense⟩ := h
  have hterms : validHttpsUrl urls (componentDisclosure component).sourceUrl = true :=
    validHttpsUrl_of_isHttpsUrl urls hurl
  rw [validComponent, hterms, Bool.and_eq_true, Bool.and_eq_true, Bool.and_eq_true,
    Bool.and_eq_true, decide_eq_true_eq, decide_eq_true_eq, decide_eq_true_eq, decide_eq_true_eq]
  exact ⟨⟨⟨⟨(length_of_validateOfferId hid).1, length_pos_of_validateLabel hname⟩,
    length_pos_of_validateLabel hversion⟩, rfl⟩, length_pos_of_validateLabel hlicense⟩

/-- What the Authority lets pass of the endpoint and the beneficiaries, and the client does
not. -/
structure ClientReady (world : OfferWorld) (offer : DisclosedPoolOffer) : Prop where
  port_ne_zero : endpointPort world offer.endpoint ≠ some 0
  small_identities : ∀ beneficiary ∈ offer.payoutRequirements.approvedBeneficiaries,
    isSmallIdentity beneficiary.beneficiaryId = true
  distinct_identities : (offer.payoutRequirements.approvedBeneficiaries.map
    ApprovedBeneficiary.beneficiaryId).Nodup

/-- The economics the Authority lets pass are those the client wants. -/
theorem rewardChecks_of_validate {policy : RewardPolicy} (h : policy.validate = .ok ()) :
    policy.mode = "solo_direct_coinbase" ∧ policy.networkValidResult = "direct_coinbase_payout" ∧
      policy.acceptedWorkCreatesRevenueClaim = false ∧ policy.createsCustodialBalance = false ∧
        policy.selectedDestinationBasisPoints.toNat + policy.poolFeeBasisPoints.toNat +
          policy.serviceFeeBasisPoints.toNat = 10000 := by
  rw [RewardPolicy.validate] at h
  obtain ⟨hchecks, -⟩ := guard_eq_ok h
  simp only [Bool.or_eq_true, bne_iff_ne, ne_eq, not_or, not_not, Bool.not_eq_true] at hchecks
  obtain ⟨⟨⟨⟨hmode, hresult⟩, hclaim⟩, hbalance⟩, htotal⟩ := hchecks
  exact ⟨hmode, hresult, hclaim, hbalance, htotal⟩

/-- The client accepts a published offer exactly when it is ready for it. -/
theorem validatePoolOffer_accepts_iff (published : PublishedOffer world)
    (hvalid : published.offer.validate world = .ok ()) :
    validatePoolOffer urls (disclosure published.offer) = .ok () ↔
      ClientReady world published.offer := by
  obtain ⟨offer, hpoolUrl, hadapterUrl, hprivacyUrl, hoperatorUrl, hbeneficiaryUrls⟩ := published
  dsimp only at hvalid ⊢
  simp only [DisclosedPoolOffer.validate, bind_eq_ok] at hvalid
  obtain ⟨_, hid, _, hpool, _, hadapter, hvalid⟩ := hvalid
  obtain ⟨htransport, hvalid⟩ := guard_eq_ok hvalid
  rw [not_or, not_not, Bool.not_eq_false] at htransport
  obtain ⟨htransport, hendpoint⟩ := htransport
  rw [bind_eq_ok] at hvalid
  obtain ⟨_, hreward, hpayout⟩ := hvalid
  rw [PayoutRequirements.validate] at hpayout
  obtain ⟨hrequired, hbeneficiaries⟩ := guard_eq_ok hpayout
  rw [forM_eq_ok] at hbeneficiaries
  obtain ⟨hmode, hresult, hclaim, hbalance, htotal⟩ := rewardChecks_of_validate hreward
  simp only [Bool.or_eq_true, Bool.not_eq_true', bne_iff_ne, ne_eq, not_or, not_not,
    Bool.not_eq_false] at hrequired
  obtain ⟨⟨hselection, hephemeral⟩, htypes⟩ := hrequired
  have hofferId : (offer.offerId.length == 0) = false := by
    rw [beq_eq_false_iff_ne]
    exact Nat.ne_of_gt (length_of_validateOfferId hid).1
  have hjoined : String.intercalate "," offer.payoutRequirements.acceptedDestinationTypes =
      "bitcoin_mainnet_address,approved_beneficiary" := by
    rw [htypes]
    decide +kernel
  have hbasisPoints : ∀ points : UInt16, points.toNat ≤ 10000 →
      validBasisPoints points.toNat = true := by
    intro points hpoints
    rw [validBasisPoints, Bool.and_eq_true, decide_eq_true_eq, decide_eq_true_eq]
    omega
  have hsum : (offer.rewardPolicy.selectedDestinationBasisPoints.toNat : ℤ) +
      offer.rewardPolicy.poolFeeBasisPoints.toNat +
        offer.rewardPolicy.serviceFeeBasisPoints.toNat = 10000 := by
    exact_mod_cast htotal
  have hverdict : validatePoolOffer urls (disclosure offer) =
      if !validStratumEndpoint urls offer.endpoint || !validBeneficiaries urls []
          (offer.payoutRequirements.approvedBeneficiaries.map beneficiaryDisclosure) then
        .error "Pool Offer is invalid"
      else .ok () := by
    simp only [validatePoolOffer, disclosure, hofferId, validComponent_of_validate urls hpool
      hpoolUrl, validComponent_of_validate urls hadapter hadapterUrl, htransport, hselection,
      hephemeral, hjoined, validHttpsUrl_of_isHttpsUrl urls hprivacyUrl,
      validHttpsUrl_of_isHttpsUrl urls hoperatorUrl,
      hbasisPoints _ (by omega : offer.rewardPolicy.selectedDestinationBasisPoints.toNat ≤ 10000),
      hbasisPoints _ (by omega : offer.rewardPolicy.poolFeeBasisPoints.toNat ≤ 10000),
      hbasisPoints _ (by omega : offer.rewardPolicy.serviceFeeBasisPoints.toNat ≤ 10000), hsum,
      hmode, hclaim, hbalance, hresult, bne_self_eq_false, Bool.not_true, Bool.false_or,
      Bool.or_false, Bool.false_eq_true, if_false]
  have haccepted := validBeneficiaries_iff urls [] offer.payoutRequirements.approvedBeneficiaries
    fun beneficiary hmem =>
      ⟨hbeneficiaries beneficiary hmem, hbeneficiaryUrls beneficiary hmem⟩
  have hport := validStratumEndpoint_iff urls hendpoint
  rw [hverdict]
  constructor
  · intro h
    obtain ⟨hpassed, -⟩ := guard_eq_ok h
    rw [Bool.or_eq_true, not_or, Bool.not_eq_true', Bool.not_eq_true', Bool.not_eq_false,
      Bool.not_eq_false, hport, haccepted] at hpassed
    obtain ⟨hpositive, hidentities, hnodup⟩ := hpassed
    exact ⟨hpositive, fun beneficiary hmem => (hidentities beneficiary hmem).1, hnodup⟩
  · rintro ⟨hpositive, hidentities, hnodup⟩
    have hloop := haccepted.mpr
      ⟨fun beneficiary hmem => ⟨hidentities beneficiary hmem, List.not_mem_nil⟩, hnodup⟩
    rw [hport.mpr hpositive, hloop]
    rfl

end Agreement

/-! ## Offers of examples -/

/-- The URLs of the examples: one of terms, and endpoints with a port and with the port zero. -/
def exampleOfferWorld : OfferWorld where
  parseEndpoint text :=
    if text = "https://pool.example/" then some ⟨"https", true, none, "", none, "/", none, none⟩
    else if text = "stratum+tcp://pool.example:3333/" then
      some ⟨"stratum+tcp", true, some 3333, "", none, "/", none, none⟩
    else if text = "stratum+tcp://pool.example:0/" then
      some ⟨"stratum+tcp", true, some 0, "", none, "/", none, none⟩
    else none
  verifyAuthorityPayload _ := none

def exampleUrls : BrowserUrls exampleOfferWorld where
  parse text := (exampleOfferWorld.parseEndpoint text).map fun url =>
    ⟨url.scheme ++ ":", "pool.example", (url.maybePort.map Nat.repr).getD "", url.username,
      url.maybePassword.getD ""⟩
  parse_of_parseEndpoint := by
    intro text url hurl
    have hhostname : "pool.example" ≠ "" := by decide
    rw [hurl]
    exact ⟨_, rfl, rfl, fun _ => hhostname, rfl, rfl, rfl⟩
  port_lt := by
    intro text url port hurl hport
    simp only [exampleOfferWorld] at hurl
    split at hurl
    · cases hurl
      cases hport
    split at hurl
    · cases hurl
      cases hport
      decide
    split at hurl
    · cases hurl
      cases hport
      decide
    · cases hurl

theorem exampleTerms_https : exampleOfferWorld.isHttpsUrl "https://pool.example/" = true := by
  decide +kernel

/-- An offer of the example pool at an endpoint, for the beneficiaries of these identities. -/
def examplePublished (endpoint : String) (identities : List String) :
    PublishedOffer exampleOfferWorld where
  offer := {
    offerId := "offer"
    miningPool := ⟨"pool", "Pool", "1", "https://pool.example/", "AGPL-3.0"⟩
    poolAdapter := ⟨"adapter", "Adapter", "1", "https://pool.example/", "MIT"⟩
    miningTransport := "stratum_v1"
    endpoint := endpoint
    rewardPolicy :=
      ⟨"solo_direct_coinbase", 9800, 100, 100, false, false, "direct_coinbase_payout"⟩
    payoutRequirements := ⟨true, true, ["bitcoin_mainnet_address", "approved_beneficiary"],
      identities.map fun identity => ⟨identity, "Fund", "https://pool.example/"⟩⟩
    privacyTermsUrl := "https://pool.example/"
    operatorTermsUrl := "https://pool.example/" }
  miningPool_url := exampleTerms_https
  poolAdapter_url := exampleTerms_https
  privacyTerms_url := exampleTerms_https
  operatorTerms_url := exampleTerms_https
  beneficiary_url := by
    intro beneficiary hmem
    obtain ⟨identity, -, rfl⟩ := List.mem_map.mp hmem
    exact exampleTerms_https

/-- An offer both sides accept. -/
theorem examplePublished_accepted :
    validatePoolOffer exampleUrls (disclosure (examplePublished
      "stratum+tcp://pool.example:3333/" ["open_source_fund"]).offer) = .ok () ↔
    ClientReady exampleOfferWorld (examplePublished
      "stratum+tcp://pool.example:3333/" ["open_source_fund"]).offer :=
  validatePoolOffer_accepts_iff exampleUrls _ (by decide +kernel)

/-- The Authority accepts the offer and the client does not. -/
def RefusedByClient (published : PublishedOffer exampleOfferWorld) : Prop :=
  published.offer.validate exampleOfferWorld = .ok () ∧
    validatePoolOffer exampleUrls (disclosure published.offer) = .error "Pool Offer is invalid"

instance (published : PublishedOffer exampleOfferWorld) : Decidable (RefusedByClient published) :=
  inferInstanceAs (Decidable (_ ∧ _))

/-- So it is with each of these: an identity with a capital and a hyphen, one given twice, and the
port zero. -/
theorem examplePublished_refused :
    RefusedByClient (examplePublished "stratum+tcp://pool.example:3333/" ["Open-Source-Fund"]) ∧
      RefusedByClient (examplePublished "stratum+tcp://pool.example:3333/" ["fund", "fund"]) ∧
      RefusedByClient (examplePublished "stratum+tcp://pool.example:0/" ["fund"]) := by
  decide +kernel

end WorkGate.Headless
