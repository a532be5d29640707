/-
# Both sides on one receipt (src/trusted_consent/receipt.rs, web/trusted-consent.ts)

Authority and client put the claims of a receipt to the same test, so they accept the same
receipts.  What the Authority signs for a verified ceremony both accept until its challenge ends.
-/

import WorkGate.Headless.ReceiptReading

namespace WorkGate

open WorkGate.Library

/-! ## What is asked of claims -/

section Claims

theorem refuse_eq_ok {ε α : Type} {condition : Prop} [Decidable condition] {error : ε}
    {rest : Except ε α} {value : α} :
    (if condition then .error error else rest) = .ok value ↔ ¬ condition ∧ rest = .ok value := by
  by_cases hcondition : condition
  · simp [hcondition]
  · simp [hcondition]

variable {parseUrl : String → Option Url}

/-- Claims of an issuer about the terms of a binding, with the assurances asked for. -/
def ClaimsMatch (claims : TrustedConsentReceiptClaims) (issuer : String)
    (binding : TrustedConsentBinding parseUrl) : Prop :=
  (claims.iss = issuer ∧ claims.challengeId = binding.challengeId ∧
    claims.disclosureDigestSha256 = binding.disclosureDigestSha256 ∧
    claims.poolOfferSetSignatureSha256 = binding.poolOfferSetSignatureSha256 ∧
    claims.reason = binding.reason.asStr ∧ claims.authorityOrigin = binding.authorityOrigin ∧
    claims.bwgVersion = "BWG/0.1") ∧
  claims.webauthn.userPresent = true ∧ claims.webauthn.userVerified = true ∧
    claims.webauthn.attestation = "trusted_non_self"

/-- Claims that have begun, and end when the challenge does. -/
def ClaimsAlive (claims : TrustedConsentReceiptClaims) (binding : TrustedConsentBinding parseUrl)
    (now : ℕ) : Prop :=
  claims.iat ≤ now ∧ claims.iat < claims.exp ∧ now < claims.exp ∧
    claims.exp = binding.challengeExpiresAtUnixSeconds

theorem validateReceiptClaims_eq_ok {claims : TrustedConsentReceiptClaims} {issuer : String}
    {binding : TrustedConsentBinding parseUrl} {now : ℕ}
    (hjti : isTrustedConsentCeremonyId claims.jti = true) (hexp : claims.exp < 2 ^ 53) :
    validateReceiptClaims claims issuer binding now = .ok () ↔
      ClaimsMatch claims issuer binding ∧ ClaimsAlive claims binding now := by
  have hid : TrustedConsentCeremonyId.tryFrom claims.jti = .ok ⟨claims.jti, hjti⟩ :=
    dif_pos hjti
  have htime : signedArtifactIsTimeValid now claims.iat claims.exp = true ↔
      claims.iat ≤ now ∧ now < claims.exp := by
    have hbound : saturatingAddU64 claims.exp protocolClockSkewSeconds = claims.exp := by
      rw [saturatingAddU64, protocolClockSkewSeconds]
      omega
    rw [signedArtifactIsTimeValid, hbound, Bool.and_eq_true, decide_eq_true_iff,
      decide_eq_true_iff]
  rw [validateReceiptClaims, hid, ok_bind, refuse_eq_ok, ClaimsMatch, ClaimsAlive]
  simp only [not_or, Bool.not_eq_false, not_not, and_true, htime, ge_iff_le, not_le]
  tauto

end Claims

/-! ## Claims the client reads -/

namespace Headless

/-- The members of the assurances, and of all claims. -/
def webauthnMembers (webauthn : TrustedConsentReceiptWebauthn) : List (CodeUnits × JsValue) :=
  [("user_present", .bool webauthn.userPresent), ("user_verified", .bool webauthn.userVerified),
    ("attestation", jsText webauthn.attestation)].map (Prod.map CodeUnits.ofString id)

def claimMembers (claims : TrustedConsentReceiptClaims) : List (CodeUnits × JsValue) :=
  [("iss", jsText claims.iss), ("jti", jsText claims.jti),
    ("challenge_id", jsText claims.challengeId),
    ("disclosure_digest_sha256", jsText claims.disclosureDigestSha256),
    ("pool_offer_set_signature_sha256", jsText claims.poolOfferSetSignatureSha256),
    ("reason", jsText claims.reason), ("authority_origin", jsText claims.authorityOrigin),
    ("webauthn", webauthnToJs claims.webauthn), ("iat", jsNatural claims.iat),
    ("exp", jsNatural claims.exp), ("bwg_version", jsText claims.bwgVersion)].map
    (Prod.map CodeUnits.ofString id)

theorem assertExactKeys_claimMembers (claims : TrustedConsentReceiptClaims) :
    assertExactKeys (claimMembers claims) ["authority_origin", "bwg_version", "challenge_id",
      "disclosure_digest_sha256", "exp", "iat", "iss", "jti", "pool_offer_set_signature_sha256",
      "reason", "webauthn"] "trusted consent claims" = .ok () := by
  have hkeys : sortedKeys (["iss", "jti", "challenge_id", "disclosure_digest_sha256",
      "pool_offer_set_signature_sha256", "reason", "authority_origin", "webauthn", "iat", "exp",
      "bwg_version"].map CodeUnits.ofString) =
      sortedKeys (["authority_origin", "bwg_version", "challenge_id", "disclosure_digest_sha256",
        "exp", "iat", "iss", "jti", "pool_offer_set_signature_sha256", "reason",
        "webauthn"].map CodeUnits.ofString) := by decide +kernel
  exact if_neg (not_not.mpr hkeys)

theorem assertExactKeys_webauthnMembers (webauthn : TrustedConsentReceiptWebauthn) :
    assertExactKeys (webauthnMembers webauthn) ["attestation", "user_present", "user_verified"]
      "trusted consent WebAuthn result" = .ok () := by
  have hkeys : sortedKeys (["user_present", "user_verified", "attestation"].map
      CodeUnits.ofString) = sortedKeys (["attestation", "user_present", "user_verified"].map
        CodeUnits.ofString) := by decide +kernel
  exact if_neg (not_not.mpr hkeys)

theorem isString_jsText (text other : String) :
    isString (jsText text) (CodeUnits.ofString other) = (text == other) :=
  isText_jsText text other

/-- The grammar of an identity at the Authority is that of the client with a bound. -/
theorem isCeremonyId_of_valid {text : String} (hvalid : isTrustedConsentCeremonyId text = true) :
    isCeremonyId (jsText text) = true := by
  have hread : (requiredString (jsText text) >>= CodeUnits.maybeText) = some text :=
    CodeUnits.maybeText_ofString text
  rw [isTrustedConsentCeremonyId] at hvalid
  cases hsuffix : "ceremony_".toList.isPrefixOf? text.toList with
  | none =>
      rw [hsuffix] at hvalid
      cases hvalid
  | some suffix =>
      rw [hsuffix] at hvalid
      simp only [Bool.and_eq_true] at hvalid
      have hspelled := List.isPrefixOf?_eq_some_iff_append_eq.mp hsuffix
      have hcharacters := hvalid.2
      rw [← hspelled, List.all_append, Bool.and_eq_true] at hcharacters
      rw [isCeremonyId, hread]
      simp only [hsuffix, hvalid.1.1, hcharacters.2, Bool.and_self]

section Claims

variable {parseUrl : String → Option Url}

/-- The request for the terms of a binding. -/
def consentRequest (binding : TrustedConsentBinding parseUrl) : TrustedConsentRequest where
  challengeId := CodeUnits.ofString binding.challengeId
  disclosureDigestSha256 := CodeUnits.ofString binding.disclosureDigestSha256
  poolOfferSetSignatureSha256 := CodeUnits.ofString binding.poolOfferSetSignatureSha256
  reason := CodeUnits.ofString binding.reason.asStr
  authorityOrigin := CodeUnits.ofString binding.authorityOrigin
  expiresAtUnixSeconds := binding.challengeExpiresAtUnixSeconds

theorem checkClaims_eq_ok {claims : TrustedConsentReceiptClaims} {issuer : String}
    {binding : TrustedConsentBinding parseUrl}
    (hjti : isTrustedConsentCeremonyId claims.jti = true) :
    checkClaims (claimMembers claims) (webauthnMembers claims.webauthn)
        (CodeUnits.ofString issuer) (consentRequest binding) = .ok () ↔
      ClaimsMatch claims issuer binding := by
  have hiss : fieldOf (claimMembers claims) "iss" = jsText claims.iss := rfl
  have hjtiField : fieldOf (claimMembers claims) "jti" = jsText claims.jti := rfl
  have hchallenge : fieldOf (claimMembers claims) "challenge_id" =
    jsText claims.challengeId := rfl
  have hdigest : fieldOf (claimMembers claims) "disclosure_digest_sha256" =
    jsText claims.disclosureDigestSha256 := rfl
  have hoffers : fieldOf (claimMembers claims) "pool_offer_set_signature_sha256" =
    jsText claims.poolOfferSetSignatureSha256 := rfl
  have hreason : fieldOf (claimMembers claims) "reason" = jsText claims.reason := rfl
  have horigin : fieldOf (claimMembers claims) "authority_origin" =
    jsText claims.authorityOrigin := rfl
  have hversion : fieldOf (claimMembers claims) "bwg_version" = jsText claims.bwgVersion := rfl
  have hpresent : isTrue (fieldOf (webauthnMembers claims.webauthn) "user_present") =
    claims.webauthn.userPresent := rfl
  have hverified : isTrue (fieldOf (webauthnMembers claims.webauthn) "user_verified") =
    claims.webauthn.userVerified := rfl
  have hattestation : fieldOf (webauthnMembers claims.webauthn) "attestation" =
    jsText claims.webauthn.attestation := rfl
  rw [checkClaims, hiss, hjtiField, hchallenge, hdigest, hoffers, hreason, horigin, hversion,
    hpresent, hverified, hattestation, isCeremonyId_of_valid hjti, consentRequest, ClaimsMatch]
  rw [refuse_eq_ok, refuse_eq_ok]
  simp only [isString_jsText, isText_jsText, not_or, Bool.not_eq_false, beq_iff_eq, true_and,
    and_true]

theorem checkLifetime_eq_ok {otherInteger : String → Option ℤ}
    {claims : TrustedConsentReceiptClaims} {binding : TrustedConsentBinding parseUrl} {now : ℕ}
    (hiat : claims.iat < 2 ^ 53) (hexp : claims.exp < 2 ^ 53) (hnow : now < 2 ^ 53) :
    checkLifetime otherInteger (claimMembers claims)
        (consentRequest binding).expiresAtUnixSeconds now = .ok () ↔
      ClaimsAlive claims binding now := by
  have hiatField : safeInteger otherInteger (fieldOf (claimMembers claims) "iat") =
    some (claims.iat : ℤ) := if_pos hiat
  have hexpField : safeInteger otherInteger (fieldOf (claimMembers claims) "exp") =
    some (claims.exp : ℤ) := if_pos hexp
  rw [checkLifetime, hiatField, hexpField, consentRequest, ClaimsAlive]
  simp only [refuse_eq_ok, and_true]
  omega

end Claims

end Headless

/-! ## Agreement -/

section Agreement

open Headless

variable {parseUrl : String → Option Url} {scheme : Ed25519}

/-- When the Authority accepts a receipt. -/
theorem verifyTrustedConsentReceipt_signed {serde : SerdeJson}
    {signer : AuthoritySigningKey scheme} {claims : TrustedConsentReceiptClaims}
    {expectedIssuer : String} {expectedBinding : TrustedConsentBinding parseUrl}
    {trustedKeys : List AuthorityJwk} {now : ℕ}
    (hjti : isTrustedConsentCeremonyId claims.jti = true) (hexp : claims.exp < 2 ^ 53) :
    (∃ found, WorkGate.verifyTrustedConsentReceipt scheme serde
        (signer.signAuthorityPayload trustedConsentReceiptType claims.serialize) expectedIssuer
        expectedBinding trustedKeys now = .ok found) ↔
      Vouched signer trustedKeys
          (signer.signingInput trustedConsentReceiptType claims.serialize) ∧
        ClaimsMatch claims expectedIssuer expectedBinding ∧
        ClaimsAlive claims expectedBinding now := by
  simp only [WorkGate.verifyTrustedConsentReceipt, bind_eq_ok, mapError_eq_ok,
    verifyAuthorityPayload_signed]
  constructor
  · rintro ⟨found, pair, ⟨hvouched, rfl⟩, checked, hchecked, -⟩
    exact ⟨hvouched, (validateReceiptClaims_eq_ok hjti hexp).mp hchecked⟩
  · rintro ⟨hvouched, hclaims⟩
    exact ⟨claims, _, ⟨hvouched, rfl⟩, (), (validateReceiptClaims_eq_ok hjti hexp).mpr hclaims,
      rfl⟩

/-- When the client does: on the same terms. -/
theorem Headless.verifyTrustedConsentReceipt_signed {otherInteger : String → Option ℤ}
    {signer : AuthoritySigningKey scheme} {claims : TrustedConsentReceiptClaims}
    {expectedIssuer : String} {expectedBinding : TrustedConsentBinding parseUrl}
    {trustedKeys : List AuthorityJwk} {now : ℕ}
    (hjti : isTrustedConsentCeremonyId claims.jti = true) (hiat : claims.iat < 2 ^ 53)
    (hexp : claims.exp < 2 ^ 53) (hnow : now < 2 ^ 53)
    (hlength : (signer.signAuthorityPayload trustedConsentReceiptType claims.serialize).length ≤
      maximumCompactReceiptLength) :
    Headless.verifyTrustedConsentReceipt otherInteger scheme
        (CodeUnits.ofString
          (signer.signAuthorityPayload trustedConsentReceiptType claims.serialize))
        (consentRequest expectedBinding)
        ⟨CodeUnits.ofString expectedIssuer, trustedKeys.map trustedKey⟩ now = .ok () ↔
      Vouched signer trustedKeys
          (signer.signingInput trustedConsentReceiptType claims.serialize) ∧
        ClaimsMatch claims expectedIssuer expectedBinding ∧
        ClaimsAlive claims expectedBinding now := by
  generalize hinput : signer.signingInput trustedConsentReceiptType claims.serialize = input
  have hparsed := parseCompactJws_segments
    (headerBytes_ne_nil trustedConsentReceiptType signer.published.kid)
    (claimsBytes_ne_nil claims) (signature_ne_nil signer input)
  rw [← AuthoritySigningKey.signingInput, hinput] at hparsed
  rw [AuthoritySigningKey.signAuthorityPayload, hinput] at hlength
  have hsignature := decodeBase64Url_encode (signature_ne_nil signer input)
  rw [Headless.verifyTrustedConsentReceipt, AuthoritySigningKey.signAuthorityPayload, hinput,
    hparsed hlength]
  have hheader : objectRecord (trustedHeaderToJs trustedConsentReceiptType "Ed25519"
      signer.published.kid) "trusted consent header" = .ok (headerMembers signer.published.kid) :=
    rfl
  have hclaims : objectRecord claims.toJs "trusted consent claims" = .ok (claimMembers claims) :=
    rfl
  have hwebauthn : objectRecord (fieldOf (claimMembers claims) "webauthn")
      "trusted consent WebAuthn result" = .ok (webauthnMembers claims.webauthn) := rfl
  simp only [ok_bind, decodeJson_header, hheader, assertExactKeys_headerMembers,
    readHeader_headerMembers signer.published.kid_ne, hsignature, decodeJson_claims, hclaims,
    hwebauthn, assertExactKeys_claimMembers, assertExactKeys_webauthnMembers, bind_eq_ok,
    selectKey_trustedKeys, refuse_eq_ok, checkClaims_eq_ok hjti,
    checkLifetime_eq_ok hiat hexp hnow]
  constructor
  · rintro ⟨-, ⟨key, hkey, rfl⟩, cryptoKey, himported, hverified, -, hmatch, halive⟩
    rw [importKey_trustedKey] at himported
    cases himported
    rw [Bool.not_eq_false, CodeUnits.utf8_ofString] at hverified
    exact ⟨⟨key, hkey, hverified⟩, hmatch, halive⟩
  · rintro ⟨⟨key, hkey, hverified⟩, hmatch, halive⟩
    refine ⟨_, ⟨key, hkey, rfl⟩, _, importKey_trustedKey key, ?_, (), hmatch, halive⟩
    rw [Bool.not_eq_false, CodeUnits.utf8_ofString]
    exact hverified

/-- What a signed receipt says. -/
theorem eq_of_signTrustedConsentReceipt {signer : AuthoritySigningKey scheme} {issuer : String}
    {ceremony : TrustedConsentCeremony parseUrl} {compact : String}
    (hsigned : signTrustedConsentReceipt signer issuer ceremony = .ok compact) :
    ∃ issuedAt, ceremony.maybeVerifiedAtUnixSeconds = some issuedAt ∧
      compact = signer.signAuthorityPayload trustedConsentReceiptType
        (ceremony.receiptClaims issuer issuedAt).serialize := by
  unfold signTrustedConsentReceipt at hsigned
  cases hverified : ceremony.maybeVerifiedAtUnixSeconds with
  | none =>
      rw [hverified] at hsigned
      cases hsigned
  | some issuedAt =>
      rw [hverified] at hsigned
      obtain ⟨checked, -, hcompact⟩ := bind_eq_ok.mp hsigned
      exact ⟨issuedAt, rfl, (Except.ok.inj hcompact).symm⟩

/-- The claims of a receipt fit the ceremony's own binding, and are alive until it ends. -/
theorem receiptClaims_match (ceremony : TrustedConsentCeremony parseUrl) (issuer : String)
    (issuedAt : ℕ) :
    ClaimsMatch (ceremony.receiptClaims issuer issuedAt) issuer ceremony.binding :=
  ⟨⟨rfl, rfl, rfl, rfl, rfl, rfl, rfl⟩, rfl, rfl, rfl⟩

theorem vouched_of_unique (signer : AuthoritySigningKey scheme) {trustedKeys : List AuthorityJwk}
    (hunique : trustedKeys.filter (fun key => key.kid == signer.published.kid) =
      [signer.published]) (signingInput : String) : Vouched signer trustedKeys signingInput := by
  refine ⟨signer.published, hunique, ?_⟩
  rw [signer.publicKey_eq]
  exact scheme.verify_sign signer.seed (asBytes signingInput)

/-- Authority and client agree on every signed receipt, whatever either expects, and both take it
for its own ceremony from the moment of verification until the challenge ends. -/
theorem trustedConsentReceipt_agrees (serde : SerdeJson) (otherInteger : String → Option ℤ)
    {signer : AuthoritySigningKey scheme} {issuer : String}
    {ceremony : TrustedConsentCeremony parseUrl} {compact : String}
    (hsigned : signTrustedConsentReceipt signer issuer ceremony = .ok compact)
    (hlength : compact.length ≤ 16384)
    (hexpiry : ceremony.binding.challengeExpiresAtUnixSeconds < 2 ^ 53) :
    (∀ (expectedIssuer : String) (expectedBinding : TrustedConsentBinding parseUrl)
        (trustedKeys : List AuthorityJwk) (now : ℕ), now < 2 ^ 53 →
      ((∃ found, WorkGate.verifyTrustedConsentReceipt scheme serde compact expectedIssuer
          expectedBinding trustedKeys now = .ok found) ↔
        Headless.verifyTrustedConsentReceipt otherInteger scheme (CodeUnits.ofString compact)
          (consentRequest expectedBinding)
          ⟨CodeUnits.ofString expectedIssuer, trustedKeys.map trustedKey⟩ now = .ok ())) ∧
    ∀ verifiedAt ∈ ceremony.maybeVerifiedAtUnixSeconds, ∀ (trustedKeys : List AuthorityJwk)
        (now : ℕ),
      trustedKeys.filter (fun key => key.kid == signer.published.kid) = [signer.published] →
      verifiedAt ≤ now → now < ceremony.binding.challengeExpiresAtUnixSeconds →
      (∃ found, WorkGate.verifyTrustedConsentReceipt scheme serde compact issuer ceremony.binding
          trustedKeys now = .ok found) ∧
        Headless.verifyTrustedConsentReceipt otherInteger scheme (CodeUnits.ofString compact)
          (consentRequest ceremony.binding)
          ⟨CodeUnits.ofString issuer, trustedKeys.map trustedKey⟩ now = .ok () := by
  obtain ⟨issuedAt, hverified, rfl⟩ := eq_of_signTrustedConsentReceipt hsigned
  have hjti : isTrustedConsentCeremonyId (ceremony.receiptClaims issuer issuedAt).jti = true :=
    ceremony.ceremonyId.valid
  have hordered : issuedAt < ceremony.binding.challengeExpiresAtUnixSeconds :=
    Nat.lt_of_lt_of_le (ceremony.verifiedInTime issuedAt hverified).2 ceremony.bounded
  have hiat : (ceremony.receiptClaims issuer issuedAt).iat < 2 ^ 53 :=
    Nat.lt_trans hordered hexpiry
  constructor
  · intro expectedIssuer expectedBinding trustedKeys now hnow
    exact (verifyTrustedConsentReceipt_signed hjti hexpiry).trans
      (Headless.verifyTrustedConsentReceipt_signed hjti hiat hexpiry hnow hlength).symm
  · intro verifiedAt hmem trustedKeys now hunique hbegun halive
    have hsame : issuedAt = verifiedAt := Option.some.inj (hverified.symm.trans hmem)
    have hnow : now < 2 ^ 53 := Nat.lt_trans halive hexpiry
    have hbegunClaims : (ceremony.receiptClaims issuer issuedAt).iat ≤ now := hsame ▸ hbegun
    have hterms := And.intro (vouched_of_unique signer hunique (signer.signingInput
      trustedConsentReceiptType (ceremony.receiptClaims issuer issuedAt).serialize))
      (And.intro (receiptClaims_match ceremony issuer issuedAt)
        (show ClaimsAlive (ceremony.receiptClaims issuer issuedAt) ceremony.binding now from
          ⟨hbegunClaims, hordered, halive, rfl⟩))
    exact ⟨(verifyTrustedConsentReceipt_signed hjti hexpiry).mpr hterms,
      (Headless.verifyTrustedConsentReceipt_signed hjti hiat hexpiry hnow hlength).mpr hterms⟩

end Agreement

section Witness

open Headless

/-! ### A ceremony -/

namespace SampleCeremony

def readMembers (bytes : List UInt8) : Option (List (CodeUnits × JsValue)) := do
  let text ← decodeUtf8 bytes
  let value ← JsonText.parse text
  serialRecord value

theorem readMembers_record {members : List (String × JsValue)}
    (hprintable : JsonText.Printable (jsRecord members))
    (hsettled : JsonText.settle (jsRecord members) = jsRecord members) :
    readMembers (asBytes (String.ofList (JsonText.print (jsRecord members)))) =
      some (members.map (Prod.map CodeUnits.ofString id)) := by
  rw [readMembers, decodeUtf8_asBytes (unmarked_record members), Option.bind_eq_bind,
    Option.bind_some, JsonText.parse_print hprintable, hsettled]
  rfl

def readBool : JsValue → Option Bool
  | .bool value => some value
  | _ => none

/-- The serializer's reader, over a parser of JSON. -/
def serde : SerdeJson where
  readHeader bytes := do
    let members ← readMembers bytes
    let typ ← plainText (fieldOf members "typ")
    let alg ← plainText (fieldOf members "alg")
    let kid ← plainText (fieldOf members "kid")
    return ⟨typ, alg, kid, hasField members "crit"⟩
  readClaims bytes := do
    let members ← readMembers bytes
    let webauthn ← serialRecord (fieldOf members "webauthn")
    return {
      iss := ← plainText (fieldOf members "iss")
      jti := ← plainText (fieldOf members "jti")
      challengeId := ← plainText (fieldOf members "challenge_id")
      disclosureDigestSha256 := ← plainText (fieldOf members "disclosure_digest_sha256")
      poolOfferSetSignatureSha256 :=
        ← plainText (fieldOf members "pool_offer_set_signature_sha256")
      reason := ← plainText (fieldOf members "reason")
      authorityOrigin := ← plainText (fieldOf members "authority_origin")
      webauthn := {
        userPresent := ← readBool (fieldOf webauthn "user_present")
        userVerified := ← readBool (fieldOf webauthn "user_verified")
        attestation := ← plainText (fieldOf webauthn "attestation") }
      iat := ← requiredNatural (fieldOf members "iat")
      exp := ← requiredNatural (fieldOf members "exp")
      bwgVersion := ← plainText (fieldOf members "bwg_version") }
  readHeader_serialize typ alg kid := by
    have hread : readMembers (asBytes (String.ofList (serializeHeader typ alg kid))) =
        some ([("typ", jsText typ), ("alg", jsText alg), ("kid", jsText kid)].map
          (Prod.map CodeUnits.ofString id)) := by
      rw [serializeHeader_eq]
      exact readMembers_record (by simp [printable_jsRecord, jsText, JsonText.Printable]) rfl
    rw [hread, bind_of_some rfl]
    exact (bind_of_some (plainText_jsText typ)).trans
      ((bind_of_some (plainText_jsText alg)).trans (bind_of_some (plainText_jsText kid)))
  readClaims_serialize claims := by
    have hread : readMembers (asBytes (String.ofList claims.serialize)) =
        some (claimMembers claims) := by
      rw [serialize_eq]
      exact readMembers_record (by
        simp [printable_jsRecord, webauthnToJs, jsText, jsNatural, JsonText.Printable]) rfl
    have hwebauthn : serialRecord (fieldOf (claimMembers claims) "webauthn") =
      some (webauthnMembers claims.webauthn) := rfl
    have hiss : plainText (fieldOf (claimMembers claims) "iss") =
      some claims.iss := plainText_jsText claims.iss
    have hjti : plainText (fieldOf (claimMembers claims) "jti") =
      some claims.jti := plainText_jsText claims.jti
    have hchallenge : plainText (fieldOf (claimMembers claims) "challenge_id") =
      some claims.challengeId := plainText_jsText claims.challengeId
    have hdigest : plainText (fieldOf (claimMembers claims) "disclosure_digest_sha256") =
      some claims.disclosureDigestSha256 := plainText_jsText claims.disclosureDigestSha256
    have hoffers : plainText (fieldOf (claimMembers claims) "pool_offer_set_signature_sha256") =
      some claims.poolOfferSetSignatureSha256 := plainText_jsText claims.poolOfferSetSignatureSha256
    have hreason : plainText (fieldOf (claimMembers claims) "reason") =
      some claims.reason := plainText_jsText claims.reason
    have horigin : plainText (fieldOf (claimMembers claims) "authority_origin") =
      some claims.authorityOrigin := plainText_jsText claims.authorityOrigin
    have hversion : plainText (fieldOf (claimMembers claims) "bwg_version") =
      some claims.bwgVersion := plainText_jsText claims.bwgVersion
    have hpresent : readBool (fieldOf (webauthnMembers claims.webauthn) "user_present") =
      some claims.webauthn.userPresent := rfl
    have hverified : readBool (fieldOf (webauthnMembers claims.webauthn) "user_verified") =
      some claims.webauthn.userVerified := rfl
    have hattestation : plainText (fieldOf (webauthnMembers claims.webauthn) "attestation") =
      some claims.webauthn.attestation := plainText_jsText claims.webauthn.attestation
    have hiat : requiredNatural (fieldOf (claimMembers claims) "iat") = some claims.iat := rfl
    have hexp : requiredNatural (fieldOf (claimMembers claims) "exp") = some claims.exp := rfl
    rw [hread, bind_of_some rfl, bind_of_some hwebauthn, bind_of_some hiss, bind_of_some hjti,
      bind_of_some hchallenge, bind_of_some hdigest, bind_of_some hoffers, bind_of_some hreason,
      bind_of_some horigin, bind_of_some hpresent, bind_of_some hverified,
      bind_of_some hattestation, bind_of_some hiat, bind_of_some hexp, bind_of_some hversion]
    rfl

/-- The parser of a world with one origin. -/
def parseOrigin (text : String) : Option Url :=
  if text = "https://authority.example" then
    some ⟨"https", some "authority.example", "", none, "/", none, none, text⟩
  else none

def binding : TrustedConsentBinding parseOrigin where
  challengeId := "challenge_7"
  disclosureDigestSha256 := "0123456789012345678901234567890123456789012"
  poolOfferSetSignatureSha256 := "abcdefghijabcdefghijabcdefghijabcdefghij_-A"
  reason := .elevatedWork
  authorityOrigin := "https://authority.example"
  challengeExpiresAtUnixSeconds := 200
  valid := by decide +kernel

def ceremony : TrustedConsentCeremony parseOrigin where
  ceremonyId := ⟨"ceremony_1", by decide⟩
  binding := binding
  status := .verified
  createdAtUnixSeconds := 100
  expiresAtUnixSeconds := 160
  maybeVerifiedAtUnixSeconds := some 120
  created := by decide
  ordered := by decide
  bounded := by decide
  verifiedInTime := by simp

theorem kid_ne : "key-1" ≠ "" := by decide

theorem length_signerKey : (Ed25519.showing.publicKey [1, 2, 3]).length = 32 :=
  Ed25519.showing.length_publicKey _

def signer : AuthoritySigningKey Ed25519.showing where
  published := ⟨"key-1", Ed25519.showing.publicKey [1, 2, 3], kid_ne, length_signerKey⟩
  seed := [1, 2, 3]
  publicKey_eq := rfl

def receipt : String :=
  signer.signAuthorityPayload trustedConsentReceiptType
    (ceremony.receiptClaims "https://issuer.example" 120).serialize

theorem receipt_signed :
    signTrustedConsentReceipt signer "https://issuer.example" ceremony = .ok receipt := by
  have hvalid : validateReceiptClaims (ceremony.receiptClaims "https://issuer.example" 120)
      "https://issuer.example" ceremony.binding 120 = .ok () := by
    apply (validateReceiptClaims_eq_ok (ceremony.ceremonyId.valid) (by decide)).mpr
    exact ⟨receiptClaims_match ceremony "https://issuer.example" 120, by decide, by decide,
      by decide, rfl⟩
  exact bind_eq_ok.mpr ⟨(), hvalid, rfl⟩

theorem receipt_short : receipt.length ≤ 16384 := by
  have hheader := length_asBytes_ofList_le (serializeHeader trustedConsentReceiptType "Ed25519"
    signer.published.kid)
  have hclaims := length_asBytes_ofList_le (ceremony.receiptClaims "https://issuer.example"
    120).serialize
  have hshort : (serializeHeader trustedConsentReceiptType "Ed25519"
      signer.published.kid).length ≤ 250 := by decide +kernel
  have hbounded : (ceremony.receiptClaims "https://issuer.example" 120).serialize.length ≤ 1000 :=
    by decide +kernel
  have hdot : ".".length = 1 := by decide
  rw [receipt, AuthoritySigningKey.signAuthorityPayload, AuthoritySigningKey.signingInput]
  simp only [String.length_append, Base64Url.length_encode, Ed25519.showing.length_sign, hdot]
  omega

theorem signer_unique : [signer.published].filter (fun key => key.kid == signer.published.kid) =
    [signer.published] := by decide

end SampleCeremony

open SampleCeremony in
theorem sampleReceipt_accepted :
    (∃ found, WorkGate.verifyTrustedConsentReceipt Ed25519.showing serde receipt
        "https://issuer.example" ceremony.binding [signer.published] 130 = .ok found) ∧
      Headless.verifyTrustedConsentReceipt (fun _ => none) Ed25519.showing
        (CodeUnits.ofString receipt) (consentRequest ceremony.binding)
        ⟨CodeUnits.ofString "https://issuer.example", [signer.published].map trustedKey⟩ 130 =
          .ok () := by
  have hagree := trustedConsentReceipt_agrees serde (fun _ => none) receipt_signed receipt_short
    (show (200 : ℕ) < 2 ^ 53 by decide)
  exact hagree.2 120 rfl [signer.published] 130 signer_unique (by decide)
    (show (130 : ℕ) < 200 by decide)

end Witness

end WorkGate
