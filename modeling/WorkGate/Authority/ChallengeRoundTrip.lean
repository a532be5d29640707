/-
# What is issued is read back

A challenge that was issued under a policy, with a set of offers the Authority signed, is accepted
by the rules of the reader.  The work a policy accepts is the work it can require.
-/

import WorkGate.Authority.ChallengeReading

namespace WorkGate

open WorkGate.Library
open WorkGate.Library.JsonText
open Headless (PublishedOffer)

/-! ## Work -/

theorem tryToU64_eq_ok {work : CreditedWork} {value : BitVec 64} :
    work.tryToU64 = .ok value ↔ work.value = Uint256.fromU64 value := by
  rw [← Uint256.maybeToU64_eq_some, CreditedWork.tryToU64]
  cases work.value.maybeToU64 with
  | none => simp
  | some found => simp

namespace ActionPolicy

/-- The work of a policy that is not overridden. -/
theorem eq_default_iff {policy : ActionPolicy} {requirement : WorkRequirement} :
    requirement.creditedWork.tryToU64 = .ok policy.specification.defaultExpectedHashes ↔
      policy.workRequirement none = .ok requirement := by
  rw [tryToU64_eq_ok, workRequirement]
  obtain ⟨⟨value, positive⟩⟩ := requirement
  simp [CreditedWork.fromNonZeroU64, eq_comm]

/-- The work an override sets is work within the bounds. -/
theorem workRequirement_some_eq_ok {policy : ActionPolicy}
    {workOverride : WorkRequirementOverride} {requirement : WorkRequirement} :
    policy.workRequirement (some workOverride) = .ok requirement ↔
      requirement.creditedWork = workOverride.creditedWork ∧
        ∃ bounds ∈ policy.specification.maybeOverrideBounds, ∃ expectedHashes,
          requirement.creditedWork.tryToU64 = .ok expectedHashes ∧
            bounds.1 ≤ expectedHashes ∧ expectedHashes ≤ bounds.2 := by
  obtain ⟨work⟩ := workOverride
  obtain ⟨required⟩ := requirement
  rw [workRequirement]
  cases policy.specification.maybeOverrideBounds with
  | none => simp
  | some bounds =>
      dsimp only
      constructor
      · intro h
        obtain ⟨expectedHashes, hexpected, h⟩ := bind_eq_ok.mp h
        obtain ⟨hbounds, h⟩ := guard_eq_ok h
        cases h
        exact ⟨rfl, bounds, rfl, expectedHashes, mapError_eq_ok.mp hexpected, not_not.mp hbounds⟩
      · intro h
        obtain ⟨hsame, _, hbounds, expectedHashes, hexpected, hinside⟩ := h
        cases hbounds
        cases hsame
        exact bind_eq_ok.mpr ⟨expectedHashes, mapError_eq_ok.mpr hexpected,
          if_neg (not_not.mpr hinside)⟩

/-- A policy accepts the work it can require. -/
theorem accepts_iff {policy : ActionPolicy} {requirement : WorkRequirement} :
    policy.accepts requirement = true ↔
      ∃ maybeOverride, policy.workRequirement maybeOverride = .ok requirement := by
  have hsplit : policy.accepts requirement = true ↔
      requirement.creditedWork.tryToU64 = .ok policy.specification.defaultExpectedHashes ∨
        ∃ bounds ∈ policy.specification.maybeOverrideBounds, ∃ expectedHashes,
          requirement.creditedWork.tryToU64 = .ok expectedHashes ∧
            bounds.1 ≤ expectedHashes ∧ expectedHashes ≤ bounds.2 := by
    rw [accepts]
    cases requirement.creditedWork.tryToU64 with
    | error error => simp
    | ok expectedHashes => cases policy.specification.maybeOverrideBounds <;> simp
  rw [hsplit, eq_default_iff]
  constructor
  · intro h
    cases h with
    | inl hdefault => exact ⟨none, hdefault⟩
    | inr hinside => exact ⟨some ⟨requirement.creditedWork⟩,
        workRequirement_some_eq_ok.mpr ⟨rfl, hinside⟩⟩
  · intro h
    obtain ⟨maybeOverride, hrequired⟩ := h
    cases maybeOverride with
    | none => exact .inl hrequired
    | some workOverride => exact .inr (workRequirement_some_eq_ok.mp hrequired).2

theorem parse_id (policy : ActionPolicy) : parse policy.id = .ok policy := by
  cases policy <;> rfl

end ActionPolicy

/-! ## Offers -/

section Descriptors

variable {world : ChallengeWorld}

/-- The signature over a payload has two points. -/
theorem count_signAuthorityPayload {scheme : Ed25519} (signer : AuthoritySigningKey scheme)
    (signatureType : String) (serialized : List Char) :
    (signer.signAuthorityPayload signatureType serialized).toList.count '.' = 2 := by
  have hsegment (bytes : List UInt8) : (Base64Url.encode bytes).toList.count '.' = 0 :=
    List.count_eq_zero.mpr (dot_notMem_encode bytes)
  have hdot : ".".toList.count '.' = 1 := by decide
  simp only [AuthoritySigningKey.signAuthorityPayload, AuthoritySigningKey.signingInput,
    String.toList_append, List.count_append, hsegment, hdot]

/-- What the Authority signed has the shape of a set of offers. -/
theorem signedPoolOffers_eq_ok {scheme : Ed25519} {signer : AuthoritySigningKey scheme}
    {issuer challengeId : String} {actionPolicy : ActionPolicy}
    {offers : List (PublishedOffer world.toOfferWorld)} {trustedConfirmationRequired : Bool}
    {maybeDigest : Option String} {signed : SignedOffers}
    (h : signedPoolOffers world signer issuer challengeId actionPolicy offers
      trustedConfirmationRequired maybeDigest = .ok signed) :
    signed.offers = offers.map PublishedOffer.offer ∧
      signed.validateShape world.toOfferWorld = .ok () := by
  obtain ⟨⟨⟩, hvalid, h⟩ := bind_eq_ok.mp h
  cases h
  rw [PoolOfferSetClaims.validate] at hvalid
  have hoffers := (guard_eq_ok hvalid).2
  refine ⟨rfl, bind_eq_ok.mpr ⟨(), hoffers, ?_⟩⟩
  exact if_neg (not_not.mpr (count_signAuthorityPayload _ _ _))

/-! ## Origins -/

theorem httpsOrigin_eq_some {value origin : String} (h : httpsOrigin world value = some origin) :
    origin ≠ "null" ∧ origin = world.asciiOrigin value ∧ ∃ url,
      world.parseEndpoint value = some url ∧ url.scheme = "https" ∧ url.hasHost = true := by
  unfold httpsOrigin at h
  split at h
  · cases h
  · next url hurl =>
      split at h
      · cases h
      · split at h
        · cases h
        · next hsecure =>
            dsimp only at h
            split at h
            · cases h
            · next hnull =>
                cases h
                simp only [not_or, not_not, Bool.not_eq_false] at hsecure
                exact ⟨hnull, rfl, url, hurl, hsecure.1, hsecure.2.1⟩

/-- An origin is its own origin. -/
theorem httpsOrigin_origin (hstable : world.StableOrigins) (origin : HttpsOrigin world) :
    httpsOrigin world origin.text = some origin.text := by
  obtain ⟨text, value, hparsed⟩ := origin
  obtain ⟨hnull, horigin, url, hurl, hscheme, hhost⟩ := httpsOrigin_eq_some hparsed
  obtain ⟨again, hagain, hscheme', hhost', husername, hpassword, hpath, hquery, hfragment⟩ :=
    hstable.parse_asciiOrigin value url hurl hscheme hhost
  have hidem := hstable.asciiOrigin_asciiOrigin value url hurl hscheme hhost
  rw [← horigin] at hagain hidem
  dsimp only
  rw [httpsOrigin, hagain]
  dsimp only
  rw [hidem]
  simp [husername, hpassword, hquery, hfragment, hscheme', hhost', hpath, hnull]

theorem tryFrom_origin (hstable : world.StableOrigins) (origin : HttpsOrigin world) :
    HttpsOrigin.tryFrom world origin.text = some origin := by
  have hsame := httpsOrigin_origin hstable origin
  unfold HttpsOrigin.tryFrom
  split
  · next hnone =>
      rw [hsame] at hnone
      cases hnone
  · next text hsome =>
      rw [hsame] at hsome
      cases hsome
      rfl

theorem tryFrom_allowedOrigins (hstable : world.StableOrigins) (allowed : AllowedOrigins world) :
    AllowedOrigins.tryFrom world (allowed.origins.map HttpsOrigin.text) = .ok allowed := by
  obtain ⟨origins, hnonempty, hunique⟩ := allowed
  have hread : (origins.map HttpsOrigin.text).mapM (HttpsOrigin.tryFrom world) = some origins := by
    clear hnonempty hunique
    induction origins with
    | nil => rfl
    | cons origin origins ih =>
        rw [List.map_cons, List.mapM_cons, tryFrom_origin hstable, ih]
        rfl
  simp only [AllowedOrigins.tryFrom, hread]
  rw [dif_pos ⟨hnonempty, hunique⟩]

/-! ## Descriptors -/

/-- What the reader wants of a descriptor beyond the types of its fields. -/
structure Readable (descriptor : WorkChallengeDescriptor world) : Prop where
  accepted : descriptor.actionPolicy.accepts descriptor.workRequirement = true
  digest : descriptor.trustedConsentDisclosureDigestSha256 = descriptor.disclosureDigest
  offered : ∃ (signed : SignedOffers) (offers : List (PublishedOffer world.toOfferWorld)),
    descriptor.maybePoolOffers = some signed ∧ signed.offers = offers.map PublishedOffer.offer ∧
      signed.validateShape world.toOfferWorld = .ok ()

/-- A descriptor as it is read before it is validated. -/
def WorkChallengeDescriptor.wire (descriptor : WorkChallengeDescriptor world) :
    WorkChallengeDescriptorWire where
  challengeId := descriptor.challengeId.text
  actionPolicy := descriptor.actionPolicy.id
  actionReference := descriptor.actionReference.text
  claimantKey := descriptor.claimantKey.text
  relyingServiceAudience := descriptor.relyingServiceAudience.text
  allowedOrigins := descriptor.allowedOrigins.origins.map HttpsOrigin.text
  workRequirement := descriptor.workRequirement
  maybePoolOffers := descriptor.maybePoolOffers
  maybeTrustedConsentDisclosureDigestSha256 :=
    some descriptor.trustedConsentDisclosureDigestSha256
  expiresAtUnixSeconds := descriptor.expiresAtUnixSeconds.value.toNat
  protocolVersion := descriptor.protocolVersion.descriptor

theorem read_toJs {descriptor : WorkChallengeDescriptor world} (hreadable : Readable descriptor) :
    readWorkChallengeDescriptorWire world descriptor.toJs = some descriptor.wire := by
  obtain ⟨signed, offers, hsigned, hoffers, -⟩ := hreadable.offered
  have hallowed : (.array (descriptor.allowedOrigins.origins.map fun origin =>
      jsText origin.text) : JsValue) =
        .array ((descriptor.allowedOrigins.origins.map HttpsOrigin.text).map jsText) := by
    rw [List.map_map]
    rfl
  have horigins : serdeSequence plainText (.array
      (descriptor.allowedOrigins.origins.map fun origin => jsText origin.text)) =
        some (descriptor.allowedOrigins.origins.map HttpsOrigin.text) := by
    rw [hallowed]
    exact serdeSequence_map fun text _ => plainText_jsText text
  have hpoolOffers : serdeOptional (readSignedOffers world) signed.toJs = some (some signed) :=
    congrArg (Option.map some) (readSignedOffers_toJs hoffers)
  have hdigest (digest : String) : serdeOptional plainText (jsText digest) = some (some digest) :=
    congrArg (Option.map some) (plainText_jsText digest)
  have hexpires := serdeNatural_jsNatural descriptor.expiresAtUnixSeconds.value.isLt
  rw [readWorkChallengeDescriptorWire, WorkChallengeDescriptor.toJs,
    WorkChallengeDescriptor.termsToJs, WorkChallengeDescriptor.closingToJs, hsigned,
    serdeFields_jsRecord (by simp [writtenField]) (by simp [writtenField])]
  simp only [Option.bind_eq_bind, Option.bind_some, fieldOf_entries]
  simp [List.lookup_cons, writtenField, plainText_jsText, horigins, hpoolOffers, hdigest, hexpires,
    readWorkRequirement_toJs, WorkChallengeDescriptor.wire, hsigned]

theorem parse_descriptor (version : ProtocolVersion) :
    ProtocolVersion.parse version.descriptor = .ok version := by
  cases version
  rfl

theorem tryFrom_wire (hstable : world.StableOrigins) {descriptor : WorkChallengeDescriptor world}
    (hreadable : Readable descriptor) :
    WorkChallengeDescriptor.tryFrom world descriptor.wire = .ok descriptor := by
  obtain ⟨signed, offers, hsigned, -, hshape⟩ := hreadable.offered
  have haccepted := hreadable.accepted
  have hdigest := hreadable.digest
  have hid : challengeIdTryFrom descriptor.challengeId.text = .ok descriptor.challengeId :=
    dif_pos descriptor.challengeId.valid
  have hreference : ActionReference.tryFrom descriptor.actionReference.text =
      .ok descriptor.actionReference := dif_pos descriptor.actionReference.valid
  have hkey : ClaimantKey.tryFrom descriptor.claimantKey.text = .ok descriptor.claimantKey :=
    dif_pos descriptor.claimantKey.valid
  have haudience : RelyingServiceAudience.tryFrom world descriptor.relyingServiceAudience.text =
      .ok descriptor.relyingServiceAudience := dif_pos descriptor.relyingServiceAudience.valid
  have horigins := tryFrom_allowedOrigins hstable descriptor.allowedOrigins
  have hexpires : ExpiresAtUnixSeconds.tryFrom
      (BitVec.ofNat 64 descriptor.expiresAtUnixSeconds.value.toNat) =
        .ok descriptor.expiresAtUnixSeconds := by
    rw [BitVec.ofNat_toNat, BitVec.setWidth_eq]
    exact dif_pos descriptor.expiresAtUnixSeconds.nonzero
  have hversion := parse_descriptor descriptor.protocolVersion
  simp only [WorkChallengeDescriptor.tryFrom, WorkChallengeDescriptor.wire, hsigned,
    ActionPolicy.parse_id, ok_bind, haccepted, hshape, Except.mapError, hid, hreference, hkey,
    haudience, horigins, hexpires, hversion, Bool.true_eq_false, if_false]
  -- The digest is over the same material, for it is no part of it.
  have hsame : ({ descriptor with
      maybePoolOffers := some signed
      trustedConsentDisclosureDigestSha256 := "" } :
        WorkChallengeDescriptor world).disclosureDigest =
      descriptor.trustedConsentDisclosureDigestSha256 := by
    rw [hdigest, ← hsigned]
    rfl
  rw [WorkChallengeDescriptor.withValidatedTrustedConsentDigest]
  dsimp only
  rw [hsame, if_neg (by simp), ← hsigned]

theorem withValidatedTrustedConsentDigest_none (descriptor : WorkChallengeDescriptor world) :
    descriptor.withValidatedTrustedConsentDigest none = .ok { descriptor with
      trustedConsentDisclosureDigestSha256 := descriptor.disclosureDigest } := rfl

/-- A descriptor is issued as one that can be read. -/
theorem readable_of_issueChallenge {command : IssueChallengeCommand world} {challengeId : String}
    {issuedAtUnixSeconds : BitVec 64} {descriptor : WorkChallengeDescriptor world}
    (hoffers : ∃ offers : List (PublishedOffer world.toOfferWorld),
      command.poolOffers.offers = offers.map PublishedOffer.offer)
    (hshape : command.poolOffers.validateShape world.toOfferWorld = .ok ())
    (h : issueChallenge world command challengeId issuedAtUnixSeconds = .ok descriptor) :
    Readable descriptor := by
  obtain ⟨requirement, hrequirement, h⟩ := bind_eq_ok.mp h
  obtain ⟨_, -, h⟩ := bind_eq_ok.mp h
  obtain ⟨_, -, h⟩ := bind_eq_ok.mp h
  obtain ⟨_, -, h⟩ := bind_eq_ok.mp h
  cases (withValidatedTrustedConsentDigest_none _).symm.trans h
  obtain ⟨offers, hoffers⟩ := hoffers
  exact {
    accepted := ActionPolicy.accepts_iff.mpr ⟨_, hrequirement⟩
    digest := rfl
    offered := ⟨command.poolOffers, offers, rfl, hoffers, hshape⟩ }

/-! ## Text -/

theorem printable_array {α : Type} {toJs : α → JsValue} {items : List α}
    (hitems : ∀ item ∈ items, Printable (toJs item)) : Printable (.array (items.map toJs)) := by
  rw [Printable]
  induction items with
  | nil => trivial
  | cons item items ih =>
      rw [List.forall_mem_cons] at hitems
      exact ⟨hitems.1, ih hitems.2⟩

theorem printable_bool (flag : Bool) : Printable (.bool flag) := trivial

theorem printable_component (component : OfferComponentIdentity) : Printable component.toJs := by
  simp [OfferComponentIdentity.toJs, printable_jsRecord, printable_jsText]

theorem printable_payout (requirements : PayoutRequirements) : Printable requirements.toJs := by
  have htypes : Printable (.array (requirements.acceptedDestinationTypes.map jsText)) :=
    printable_array fun text _ => printable_jsText text
  have hbeneficiaries : Printable
      (.array (requirements.approvedBeneficiaries.map ApprovedBeneficiary.toJs)) := by
    apply printable_array
    intro beneficiary _
    simp [ApprovedBeneficiary.toJs, printable_jsRecord, printable_jsText]
  simp [PayoutRequirements.toJs, printable_jsRecord, printable_bool, htypes, hbeneficiaries]

theorem printable_offer (offer : DisclosedPoolOffer) : Printable offer.toJs := by
  have hpolicy : Printable offer.rewardPolicy.toJs := by
    simp [RewardPolicy.toJs, printable_jsRecord, printable_jsText, printable_jsNatural,
      printable_bool]
  simp [DisclosedPoolOffer.toJs, printable_jsRecord, printable_jsText, printable_component,
    hpolicy, printable_payout]

theorem printable_signedOffers (signed : SignedOffers) : Printable signed.toJs := by
  have hoffers : Printable (.array (signed.offers.map DisclosedPoolOffer.toJs)) :=
    printable_array fun offer _ => printable_offer offer
  simp [SignedOffers.toJs, printable_jsRecord, printable_jsText, hoffers]

theorem printable_toJs (descriptor : WorkChallengeDescriptor world) :
    Printable descriptor.toJs := by
  have horigins : Printable (.array
      (descriptor.allowedOrigins.origins.map fun origin => jsText origin.text)) :=
    printable_array fun origin _ => printable_jsText origin.text
  have hwork : Printable descriptor.workRequirement.toJs := by
    simp [WorkRequirement.toJs, printable_jsRecord, printable_jsText]
  have hoffers : ∀ member ∈ writtenField "pool_offers"
      (descriptor.maybePoolOffers.map SignedOffers.toJs), Printable member.2 := by
    cases descriptor.maybePoolOffers with
    | none => simp [writtenField]
    | some signed => simp [writtenField, printable_signedOffers]
  rw [WorkChallengeDescriptor.toJs, printable_jsRecord, WorkChallengeDescriptor.termsToJs,
    WorkChallengeDescriptor.closingToJs]
  rw [List.forall_mem_append, List.forall_mem_append, List.forall_mem_append]
  refine ⟨⟨⟨?terms, hoffers⟩, ?digest⟩, ?closing⟩
  case terms => simp [printable_jsText, horigins, hwork]
  case digest => simp [printable_jsText]
  case closing => simp [printable_jsText, printable_jsNatural]

/-- What was issued is read back from the text it was serialized to. -/
theorem deserialize_serialize (hstable : world.StableOrigins)
    {descriptor : WorkChallengeDescriptor world} (hreadable : Readable descriptor) :
    WorkChallengeDescriptor.deserialize world descriptor.serialize = .ok descriptor := by
  have hread : readText descriptor.serialize >>= readWorkChallengeDescriptorWire world =
      some descriptor.wire := by
    rw [WorkChallengeDescriptor.serialize, readText_print (printable_toJs descriptor)]
    exact read_toJs hreadable
  rw [WorkChallengeDescriptor.deserialize, hread]
  dsimp only
  rw [tryFrom_wire hstable hreadable]
  rfl

/-- A set of offers the Authority signed, whatever the challenge it was signed for. -/
def SignedByAuthority (world : ChallengeWorld) (signed : SignedOffers) : Prop :=
  ∃ (scheme : Ed25519) (signer : AuthoritySigningKey scheme) (issuer challengeId : String)
    (actionPolicy : ActionPolicy) (offers : List (PublishedOffer world.toOfferWorld))
    (trustedConfirmationRequired : Bool) (maybeDigest : Option String),
    signedPoolOffers world signer issuer challengeId actionPolicy offers
      trustedConfirmationRequired maybeDigest = .ok signed

/-- Every challenge that is issued with signed offers is read back as it is, and a policy accepts
the work it can require. -/
theorem workChallenge_roundTrip (hstable : world.StableOrigins) :
    (∀ (command : IssueChallengeCommand world) (challengeId : String)
        (issuedAtUnixSeconds : BitVec 64) (descriptor : WorkChallengeDescriptor world),
      SignedByAuthority world command.poolOffers →
      issueChallenge world command challengeId issuedAtUnixSeconds = .ok descriptor →
      WorkChallengeDescriptor.deserialize world descriptor.serialize = .ok descriptor) ∧
    ∀ (policy : ActionPolicy) (requirement : WorkRequirement),
      policy.accepts requirement = true ↔
        ∃ maybeOverride, policy.workRequirement maybeOverride = .ok requirement := by
  constructor
  · intro command challengeId issuedAtUnixSeconds descriptor hsigned h
    obtain ⟨_, _, _, _, _, offers, _, _, hsigned⟩ := hsigned
    obtain ⟨hoffers, hshape⟩ := signedPoolOffers_eq_ok hsigned
    exact deserialize_serialize hstable (readable_of_issueChallenge ⟨offers, hoffers⟩ hshape h)
  · intro policy requirement
    exact ActionPolicy.accepts_iff

end Descriptors

/-! ## A gate -/

namespace SampleGate

/-- The URLs of one gate and of its pool. -/
def world : ChallengeWorld where
  parseEndpoint text :=
    if text = "https://gate.example" ∨ text = "https://gate.example/" then
      some ⟨"https", true, none, "", none, "/", none, none⟩
    else if text = "stratum+tcp://pool.example:3333/" then
      some ⟨"stratum+tcp", true, some 3333, "", none, "/", none, none⟩
    else none
  verifyAuthorityPayload _ := none
  asciiOrigin _ := "https://gate.example"
  sha256 bytes := (bytes ++ List.replicate 32 0).take 32

theorem stableOrigins : world.StableOrigins where
  parse_asciiOrigin _ _ _ _ _ := ⟨_, rfl, rfl, rfl, rfl, rfl, rfl, rfl, rfl⟩
  asciiOrigin_asciiOrigin _ _ _ _ _ := rfl

theorem isHttpsUrl_gate : world.isHttpsUrl "https://gate.example/" = true := by
  decide +kernel

def published : PublishedOffer world.toOfferWorld where
  offer := {
    offerId := "offer"
    miningPool := ⟨"pool", "Pool", "1", "https://gate.example/", "AGPL-3.0"⟩
    poolAdapter := ⟨"adapter", "Adapter", "1", "https://gate.example/", "MIT"⟩
    miningTransport := "stratum_v1"
    endpoint := "stratum+tcp://pool.example:3333/"
    rewardPolicy :=
      ⟨"solo_direct_coinbase", 9800, 100, 100, false, false, "direct_coinbase_payout"⟩
    payoutRequirements := ⟨true, true, ["bitcoin_mainnet_address", "approved_beneficiary"],
      [⟨"fund", "Fund", "https://gate.example/"⟩]⟩
    privacyTermsUrl := "https://gate.example/"
    operatorTermsUrl := "https://gate.example/" }
  miningPool_url := isHttpsUrl_gate
  poolAdapter_url := isHttpsUrl_gate
  privacyTerms_url := isHttpsUrl_gate
  operatorTerms_url := isHttpsUrl_gate
  beneficiary_url := by
    intro beneficiary hmem
    cases List.mem_singleton.mp hmem
    exact isHttpsUrl_gate

def signer : AuthoritySigningKey Ed25519.showing where
  published := ⟨"key-1", Ed25519.showing.publicKey [1, 2, 3], by decide,
    Ed25519.showing.length_publicKey _⟩
  seed := [1, 2, 3]
  publicKey_eq := rfl

def claims : PoolOfferSetClaims where
  iss := "https://gate.example/"
  challengeId := "challenge_1"
  actionPolicy := ActionPolicy.accountCreationStandardV1.id
  offers := [published.offer]
  trustedConfirmationRequired := false
  maybeMaterialReplacementDigestSha256 := none
  bwgVersion := "BWG/0.1"

def signed : SignedOffers where
  offers := claims.offers
  signature := signer.signAuthorityPayload "bwg-pool-offer-set+jws" (print claims.toJs)

theorem signedByAuthority : SignedByAuthority world signed := by
  have hvalid : claims.validate world.toOfferWorld = .ok () := by decide +kernel
  exact ⟨Ed25519.showing, signer, "https://gate.example/", "challenge_1", .accountCreationStandardV1,
    [published], false, none, bind_eq_ok.mpr ⟨(), hvalid, rfl⟩⟩

def command : IssueChallengeCommand world where
  actionPolicy := .accountCreationStandardV1
  actionReference := ⟨"action-1", by decide +kernel⟩
  claimantKey := ⟨"key-1", by decide +kernel⟩
  relyingServiceAudience := ⟨"https://gate.example/", isHttpsUrl_gate⟩
  allowedOrigins :=
    ⟨[⟨"https://gate.example", "https://gate.example/", by decide +kernel⟩], by simp, by simp⟩
  poolOffers := signed
  maybeWorkRequirementOverride := none

theorem challenge_read : ∃ descriptor,
    issueChallenge world command "challenge_1" 1000 = .ok descriptor ∧
      WorkChallengeDescriptor.deserialize world descriptor.serialize = .ok descriptor := by
  have hissued : ∃ descriptor,
      issueChallenge world command "challenge_1" 1000 = .ok descriptor := ⟨_, rfl⟩
  obtain ⟨descriptor, hissued⟩ := hissued
  exact ⟨descriptor, hissued, (workChallenge_roundTrip stableOrigins).1 command "challenge_1" 1000
    descriptor signedByAuthority hissued⟩

end SampleGate

end WorkGate
