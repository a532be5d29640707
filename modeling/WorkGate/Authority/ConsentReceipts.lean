/-
# Trusted consent receipts (src/trusted_consent/receipt.rs, src/crypto_profile.rs)

The Authority signs what a verified ceremony confirmed, and verifies such receipts when a lease
is asked for.  A receipt is a compact signature: a header that names the key, the claims, and an
Ed25519 signature over the two.

The serializer and the signature scheme are not part of the repository.  Of the first it is said
that a struct is read back from the text it was written as, of the second that a signature
verifies under the key of its seed.
-/

import WorkGate.Authority.TrustedConsent
import WorkGate.Library.Base64
import WorkGate.Library.SerdeJson

namespace WorkGate

open WorkGate.Library

/-! ## Keys -/

/-- Ed25519, as either side's library provides it. -/
structure Ed25519 where
  publicKey : List UInt8 → List UInt8
  sign : List UInt8 → List UInt8 → List UInt8
  verify : List UInt8 → List UInt8 → List UInt8 → Bool
  verify_sign : ∀ seed message, verify (publicKey seed) message (sign seed message) = true
  length_publicKey : ∀ seed, (publicKey seed).length = 32
  length_sign : ∀ seed message, (sign seed message).length = 64

namespace Ed25519

/-- Bytes brought to the length of a key. -/
def padded (bytes : List UInt8) : List UInt8 := (bytes ++ List.replicate 32 0).take 32

theorem length_padded (bytes : List UInt8) : (padded bytes).length = 32 := by
  simp [padded]

/-- Signatures that show the key and the message. -/
def showing : Ed25519 where
  publicKey := padded
  sign seed message := padded seed ++ padded message
  verify publicKey message signature := signature == publicKey ++ padded message
  verify_sign _ _ := beq_self_eq_true _
  length_publicKey := length_padded
  length_sign seed message := by rw [List.length_append, length_padded, length_padded]

end Ed25519

/-- The fields of a key at a JSON boundary. -/
structure AuthorityJwkWire where
  kid : String
  kty : String
  crv : String
  x : String
  alg : String
  publicKeyUse : String
  keyOps : List String
  deriving DecidableEq

/-- A validated trusted Authority verification key. -/
structure AuthorityJwk where
  kid : String
  publicKey : List UInt8
  kid_ne : kid ≠ ""
  length_publicKey : publicKey.length = 32

instance : DecidableEq AuthorityJwk := fun first second =>
  decidable_of_iff (first.kid = second.kid ∧ first.publicKey = second.publicKey) (by
    cases first
    cases second
    simp)

/-- `to_wire`. -/
def AuthorityJwk.toWire (key : AuthorityJwk) : AuthorityJwkWire where
  kid := key.kid
  kty := "OKP"
  crv := "Ed25519"
  x := Base64Url.encode key.publicKey
  alg := "Ed25519"
  publicKeyUse := "sig"
  keyOps := ["verify"]

/-- Ed25519 Authority signer pinned to one published key. -/
structure AuthoritySigningKey (scheme : Ed25519) where
  published : AuthorityJwk
  seed : List UInt8
  publicKey_eq : published.publicKey = scheme.publicKey seed

/-! ## Claims -/

/-- The failures of verifying what an Authority signed. -/
inductive CryptoProfileError
  | malformedJws
  | invalidBase64Url
  | invalidJson
  | unsupportedCriticalHeader
  | invalidAuthorityPayloadType
  | unknownAlgorithm
  | symmetricAlgorithm
  | unsecuredAlgorithm
  | deprecatedAlgorithm
  | unknownKeyId
  | ambiguousKeyId
  | invalidSignature
  deriving DecidableEq, Repr

structure TrustedConsentReceiptWebauthn where
  userPresent : Bool
  userVerified : Bool
  attestation : String
  deriving DecidableEq

structure TrustedConsentReceiptClaims where
  iss : String
  jti : String
  challengeId : String
  disclosureDigestSha256 : String
  poolOfferSetSignatureSha256 : String
  reason : String
  authorityOrigin : String
  webauthn : TrustedConsentReceiptWebauthn
  iat : ℕ
  exp : ℕ
  bwgVersion : String
  deriving DecidableEq

/-- `serde_json::to_vec`, of the claims. -/
def TrustedConsentReceiptClaims.serialize (claims : TrustedConsentReceiptClaims) : List Char :=
  serdeStruct [("iss", serdeString claims.iss), ("jti", serdeString claims.jti),
    ("challenge_id", serdeString claims.challengeId),
    ("disclosure_digest_sha256", serdeString claims.disclosureDigestSha256),
    ("pool_offer_set_signature_sha256", serdeString claims.poolOfferSetSignatureSha256),
    ("reason", serdeString claims.reason),
    ("authority_origin", serdeString claims.authorityOrigin),
    ("webauthn", serdeStruct [("user_present", serdeBool claims.webauthn.userPresent),
      ("user_verified", serdeBool claims.webauthn.userVerified),
      ("attestation", serdeString claims.webauthn.attestation)]),
    ("iat", serdeUnsigned claims.iat), ("exp", serdeUnsigned claims.exp),
    ("bwg_version", serdeString claims.bwgVersion)]

/-- `GatePassHeaderWire`; of critical headers only the presence is read. -/
structure GatePassHeaderWire where
  typ : String
  alg : String
  kid : String
  criticalHeaders : Bool
  deriving DecidableEq

/-- `AuthoritySigningHeader`, serialized. -/
def serializeHeader (typ alg kid : String) : List Char :=
  serdeStruct [("typ", serdeString typ), ("alg", serdeString alg), ("kid", serdeString kid)]

/-- `serde_json::from_slice` at the two types: what was written is read back. -/
structure SerdeJson where
  readHeader : List UInt8 → Option GatePassHeaderWire
  readClaims : List UInt8 → Option TrustedConsentReceiptClaims
  readHeader_serialize : ∀ typ alg kid,
    readHeader (asBytes (String.ofList (serializeHeader typ alg kid))) =
      some ⟨typ, alg, kid, false⟩
  readClaims_serialize : ∀ claims : TrustedConsentReceiptClaims,
    readClaims (asBytes (String.ofList claims.serialize)) = some claims

/-! ## Signing and verifying payloads -/

/-- What the signature of a payload is over. -/
def AuthoritySigningKey.signingInput {scheme : Ed25519} (signer : AuthoritySigningKey scheme)
    (signatureType : String) (serialized : List Char) : String :=
  Base64Url.encode (asBytes (String.ofList
      (serializeHeader signatureType "Ed25519" signer.published.kid))) ++ "." ++
    Base64Url.encode (asBytes (String.ofList serialized))

/-- `sign_authority_payload`, of a serialized payload. -/
def AuthoritySigningKey.signAuthorityPayload {scheme : Ed25519}
    (signer : AuthoritySigningKey scheme) (signatureType : String) (serialized : List Char) :
    String :=
  let signingInput := signer.signingInput signatureType serialized
  signingInput ++ "." ++ Base64Url.encode (scheme.sign signer.seed (asBytes signingInput))

structure CompactJws where
  protectedHeader : String
  payload : String
  signature : String
  signingInput : String
  deriving DecidableEq

/-- `CompactJws::parse`. -/
def CompactJws.parse (value : String) : Except CryptoProfileError CompactJws :=
  match value.toList.splitOn '.' with
  | [protectedHeader, payload, signature] =>
      if protectedHeader.isEmpty || payload.isEmpty || signature.isEmpty then .error .malformedJws
      else .ok {
        protectedHeader := String.ofList protectedHeader
        payload := String.ofList payload
        signature := String.ofList signature
        signingInput := String.ofList protectedHeader ++ "." ++ String.ofList payload }
  | _ => .error .malformedJws

/-- `decode_base64url`: the one spelling of some bytes. -/
def decodeBase64urlStrict (value : String) : Except CryptoProfileError (List UInt8) :=
  match Base64Url.decode value with
  | none => .error .invalidBase64Url
  | some bytes => if Base64Url.encode bytes = value then .ok bytes else .error .invalidBase64Url

/-- `decode_json`. -/
def decodeJsonWith {Value : Type} (read : List UInt8 → Option Value) (value : String) :
    Except CryptoProfileError Value := do
  let bytes ← decodeBase64urlStrict value
  match read bytes with
  | none => .error .invalidJson
  | some found => .ok found

/-- `validate_algorithm`. -/
def validateAlgorithm (algorithm requiredAlgorithm : String) : Except CryptoProfileError Unit :=
  if algorithm = requiredAlgorithm then .ok ()
  else if algorithm = "none" then .error .unsecuredAlgorithm
  else if algorithm ∈ ["HS256", "HS384", "HS512"] then .error .symmetricAlgorithm
  else if algorithm = "EdDSA" then .error .deprecatedAlgorithm
  else .error .unknownAlgorithm

/-- `verify_authority_payload`, for the claims of receipts. -/
def verifyAuthorityPayload (scheme : Ed25519) (serde : SerdeJson) (compactJws expectedType : String)
    (trustedKeys : List AuthorityJwk) :
    Except CryptoProfileError (String × TrustedConsentReceiptClaims) := do
  let compact ← CompactJws.parse compactJws
  let header ← decodeJsonWith serde.readHeader compact.protectedHeader
  if header.criticalHeaders then .error .unsupportedCriticalHeader
  else if header.typ ≠ expectedType then .error .invalidAuthorityPayloadType
  else do
    validateAlgorithm header.alg "Ed25519"
    match trustedKeys.filter fun key => key.kid == header.kid with
    | [] => .error .unknownKeyId
    | [key] => do
        let signature ← decodeBase64urlStrict compact.signature
        if scheme.verify key.publicKey (asBytes compact.signingInput) signature = false then
          .error .invalidSignature
        else do
          let claims ← decodeJsonWith serde.readClaims compact.payload
          .ok (header.kid, claims)
    | _ :: _ :: _ => .error .ambiguousKeyId

/-! ## Receipts -/

variable {parseUrl : String → Option Url}

def trustedConsentReceiptType : String := "bwg-trusted-consent+jws"

/-- `validate_receipt_claims`. -/
def validateReceiptClaims (claims : TrustedConsentReceiptClaims) (expectedIssuer : String)
    (expectedBinding : TrustedConsentBinding parseUrl) (now : ℕ) :
    Except TrustedConsentError Unit := do
  let _ ← TrustedConsentCeremonyId.tryFrom claims.jti
  if claims.iss ≠ expectedIssuer ∨ claims.challengeId ≠ expectedBinding.challengeId ∨
      claims.disclosureDigestSha256 ≠ expectedBinding.disclosureDigestSha256 ∨
      claims.poolOfferSetSignatureSha256 ≠ expectedBinding.poolOfferSetSignatureSha256 ∨
      claims.reason ≠ expectedBinding.reason.asStr ∨
      claims.authorityOrigin ≠ expectedBinding.authorityOrigin ∨
      claims.webauthn.userPresent = false ∨ claims.webauthn.userVerified = false ∨
      claims.webauthn.attestation ≠ "trusted_non_self" ∨ claims.bwgVersion ≠ "BWG/0.1" ∨
      claims.exp ≠ expectedBinding.challengeExpiresAtUnixSeconds ∨ claims.iat ≥ claims.exp ∨
      signedArtifactIsTimeValid now claims.iat claims.exp = false then .error .invalidReceipt
  else .ok ()

/-- The claims of a receipt for a ceremony verified at an instant. -/
def TrustedConsentCeremony.receiptClaims (ceremony : TrustedConsentCeremony parseUrl)
    (issuer : String) (issuedAt : ℕ) : TrustedConsentReceiptClaims where
  iss := issuer
  jti := ceremony.ceremonyId.text
  challengeId := ceremony.binding.challengeId
  disclosureDigestSha256 := ceremony.binding.disclosureDigestSha256
  poolOfferSetSignatureSha256 := ceremony.binding.poolOfferSetSignatureSha256
  reason := ceremony.binding.reason.asStr
  authorityOrigin := ceremony.binding.authorityOrigin
  webauthn := ⟨true, true, "trusted_non_self"⟩
  iat := issuedAt
  exp := ceremony.binding.challengeExpiresAtUnixSeconds
  bwgVersion := "BWG/0.1"

/-- `sign_trusted_consent_receipt`. -/
def signTrustedConsentReceipt {scheme : Ed25519} (signer : AuthoritySigningKey scheme)
    (issuer : String) (ceremony : TrustedConsentCeremony parseUrl) :
    Except TrustedConsentError String :=
  match ceremony.maybeVerifiedAtUnixSeconds with
  | none => .error .receiptUnavailable
  | some issuedAt => do
      let claims := ceremony.receiptClaims issuer issuedAt
      validateReceiptClaims claims issuer ceremony.binding issuedAt
      .ok (signer.signAuthorityPayload trustedConsentReceiptType claims.serialize)

/-- `verify_trusted_consent_receipt`. -/
def verifyTrustedConsentReceipt (scheme : Ed25519) (serde : SerdeJson)
    (compactReceipt expectedIssuer : String) (expectedBinding : TrustedConsentBinding parseUrl)
    (trustedKeys : List AuthorityJwk) (now : ℕ) :
    Except TrustedConsentError TrustedConsentReceiptClaims := do
  let (_, claims) ← (verifyAuthorityPayload scheme serde compactReceipt trustedConsentReceiptType
    trustedKeys).mapError fun _ => .invalidReceipt
  validateReceiptClaims claims expectedIssuer expectedBinding now
  .ok claims

end WorkGate
