/-
# Receipts in the client (web/trusted-consent.ts)

Before it grants consent the client verifies the receipt of the Authority against the request it
showed.  It reads the compact signature with the means of a browser: `split`, `atob`, a decoder of
UTF-8 that replaces what it cannot read, `JSON.parse` and Web Cryptography.
-/

import Mathlib.Data.List.Sort
import WorkGate.Authority.ConsentReceipts
import WorkGate.Library.TextDecoder
import WorkGate.Worker.LeaseRequests

namespace WorkGate.Headless

open WorkGate.Library

/-- What the promise is rejected with: an `Error` with a message, or what `importKey` throws. -/
inductive ReceiptRejection
  | error (message : String)
  | dataError
  deriving DecidableEq

/-- `AuthorityVerificationJwk`, what is read of it; no part of a private key is there. -/
structure AuthorityVerificationJwk where
  kid : CodeUnits
  maybeKty : Option CodeUnits
  maybeCrv : Option CodeUnits
  maybeX : Option CodeUnits
  alg : CodeUnits
  publicKeyUse : CodeUnits
  keyOps : List CodeUnits
  deriving DecidableEq

/-- `AuthorityTrustInput`. -/
structure AuthorityTrustInput where
  issuer : CodeUnits
  trustedKeys : List AuthorityVerificationJwk

/-- `TrustedConsentRequest`. -/
structure TrustedConsentRequest where
  challengeId : CodeUnits
  disclosureDigestSha256 : CodeUnits
  poolOfferSetSignatureSha256 : CodeUnits
  reason : CodeUnits
  authorityOrigin : CodeUnits
  expiresAtUnixSeconds : ℕ
  deriving DecidableEq

/-! ## Reading -/

def malformed : ReceiptRejection := .error "trusted consent receipt is malformed"

def maximumCompactReceiptLength : ℕ := 16384

structure CompactJws where
  protectedHeader : CodeUnits
  payload : CodeUnits
  signature : CodeUnits
  signingInput : CodeUnits
  deriving DecidableEq

/-- `parseCompactJws`. -/
def parseCompactJws (value : CodeUnits) : Except ReceiptRejection CompactJws :=
  if value.length > maximumCompactReceiptLength then .error malformed
  else match value.splitOn 46 with
    | [protectedHeader, payload, signature] =>
        if protectedHeader = [] ∨ payload = [] ∨ signature = [] then .error malformed
        else .ok {
          protectedHeader := protectedHeader
          payload := payload
          signature := signature
          signingInput := protectedHeader ++ 46 :: payload }
    | _ => .error malformed

/-- `decodeBase64Url`; `atob` takes any bits where the last byte ends. -/
def decodeBase64Url (value : CodeUnits) : Except ReceiptRejection (List UInt8) :=
  match CodeUnits.maybeText value with
  | none => .error malformed
  | some text =>
      if text.isEmpty || !text.toList.all isBase64UrlCharacter then .error malformed
      else match Base64Url.decode text with
        | none => .error malformed
        | some bytes => .ok bytes

/-- `decodeJson`. -/
def decodeJson (value : CodeUnits) : Except ReceiptRejection JsValue := do
  let bytes ← decodeBase64Url value
  match JsonText.parse (TextDecoder.decode bytes) with
  | none => .error malformed
  | some found => .ok found

/-- `objectRecord`. -/
def objectRecord (value : JsValue) (label : String) :
    Except ReceiptRejection (List (CodeUnits × JsValue)) :=
  match value with
  | .object members => .ok members
  | _ => .error (.error (label ++ " must be an object"))

/-- The order of `sort` without a comparison. -/
def unitsAtMost : CodeUnits → CodeUnits → Bool
  | [], _ => true
  | _ :: _, [] => false
  | left :: lefts, right :: rights =>
      if left = right then unitsAtMost lefts rights else decide (left.toNat < right.toNat)

/-- `JSON.stringify`, of keys in their order. -/
def sortedKeys (keys : List CodeUnits) : List Char :=
  JsonText.print (.array ((keys.insertionSort fun left right => unitsAtMost left right).map .string))

/-- `assertExactKeys`. -/
def assertExactKeys (value : List (CodeUnits × JsValue)) (expected : List String)
    (label : String) : Except ReceiptRejection Unit :=
  if sortedKeys (value.map Prod.fst) ≠ sortedKeys (expected.map CodeUnits.ofString) then
    .error (.error (label ++ " has unknown or missing fields"))
  else .ok ()

/-- Whether a value is the string another one is. -/
def isString (value : JsValue) (units : CodeUnits) : Bool := requiredString value == some units

def isTrue : JsValue → Bool
  | .bool value => value
  | _ => false

/-- `/^ceremony_[A-Za-z0-9_]+$/u`. -/
def isCeremonyId (value : JsValue) : Bool :=
  match requiredString value >>= CodeUnits.maybeText with
  | none => false
  | some text =>
      match "ceremony_".toList.isPrefixOf? text.toList with
      | none => false
      | some suffix => !suffix.isEmpty &&
          suffix.all fun character => character.isAlphanum || character == '_'

/-! ## Verifying -/

/-- `crypto.subtle.importKey`, of a public key. -/
def importKey (key : AuthorityVerificationJwk) : Except ReceiptRejection (List UInt8) :=
  match key.maybeX >>= CodeUnits.maybeText >>= Base64Url.decode with
  | none => .error .dataError
  | some bytes => if bytes.length = 32 then .ok bytes else .error .dataError

/-- The one key of that name, when it is a verification key of the profile. -/
def selectKey (trustedKeys : List AuthorityVerificationJwk) (kid : CodeUnits) :
    Except ReceiptRejection AuthorityVerificationJwk :=
  match trustedKeys.filter fun key => key.kid == kid with
  | [key] =>
      if key.maybeKty ≠ some (CodeUnits.ofString "OKP") ∨
          key.maybeCrv ≠ some (CodeUnits.ofString "Ed25519") ∨
          key.alg ≠ CodeUnits.ofString "Ed25519" ∨
          key.publicKeyUse ≠ CodeUnits.ofString "sig" ∨
          JsonText.print (.array (key.keyOps.map .string)) ≠ "[\"verify\"]".toList then
        .error (.error "invalid trusted consent verification key")
      else .ok key
  | _ => .error (.error "trusted consent key is not uniquely trusted")

/-- The key id of a header of the profile. -/
def readHeader (header : List (CodeUnits × JsValue)) : Except ReceiptRejection CodeUnits :=
  let invalid : ReceiptRejection := .error "invalid trusted consent receipt profile"
  if isText (fieldOf header "typ") "bwg-trusted-consent+jws" = false ∨
      isText (fieldOf header "alg") "Ed25519" = false then .error invalid
  else match requiredString (fieldOf header "kid") with
    | none => .error invalid
    | some kid => if kid.length = 0 then .error invalid else .ok kid

/-- The profile of the claims: that of the disclosed work, and what the authenticator assures. -/
def checkClaims (claims webauthn : List (CodeUnits × JsValue)) (issuer : CodeUnits)
    (request : TrustedConsentRequest) : Except ReceiptRejection Unit :=
  if isString (fieldOf claims "iss") issuer = false ∨
      isCeremonyId (fieldOf claims "jti") = false ∨
      isString (fieldOf claims "challenge_id") request.challengeId = false ∨
      isString (fieldOf claims "disclosure_digest_sha256") request.disclosureDigestSha256 = false ∨
      isString (fieldOf claims "pool_offer_set_signature_sha256")
        request.poolOfferSetSignatureSha256 = false ∨
      isString (fieldOf claims "reason") request.reason = false ∨
      isString (fieldOf claims "authority_origin") request.authorityOrigin = false ∨
      isText (fieldOf claims "bwg_version") "BWG/0.1" = false then
    .error (.error "trusted consent receipt does not match the disclosed work")
  else if isTrue (fieldOf webauthn "user_present") = false ∨
      isTrue (fieldOf webauthn "user_verified") = false ∨
      isText (fieldOf webauthn "attestation") "trusted_non_self" = false then
    .error (.error "trusted consent receipt lacks required WebAuthn assurances")
  else .ok ()

section Verifying

-- The safe integer that a number not written as a natural one is read as, if it is one.
variable (otherInteger : String → Option ℤ)

/-- A value for which `Number.isSafeInteger` holds. -/
def safeInteger : JsValue → Option ℤ
  | .number (.natural value) => if value < 2 ^ 53 then some value else none
  | .number (.other text) => otherInteger text
  | _ => none

/-- The lifetime of the claims. -/
def checkLifetime (claims : List (CodeUnits × JsValue)) (expiresAtUnixSeconds : ℕ)
    (nowUnixSeconds : ℕ) : Except ReceiptRejection Unit :=
  let stale : ReceiptRejection :=
    .error "trusted consent receipt is stale or outside the challenge lifetime"
  match safeInteger otherInteger (fieldOf claims "iat"),
      safeInteger otherInteger (fieldOf claims "exp") with
  | some iat, some exp =>
      if ¬ nowUnixSeconds < 2 ^ 53 ∨ iat > nowUnixSeconds ∨ iat ≥ exp ∨ exp ≤ nowUnixSeconds ∨
          exp ≠ expiresAtUnixSeconds then .error stale
      else .ok ()
  | _, _ => .error stale

/-- `verifyTrustedConsentReceipt`. -/
def verifyTrustedConsentReceipt (scheme : Ed25519) (compactReceipt : CodeUnits)
    (request : TrustedConsentRequest) (trust : AuthorityTrustInput) (nowUnixSeconds : ℕ) :
    Except ReceiptRejection Unit := do
  let compact ← parseCompactJws compactReceipt
  let header ← decodeJson compact.protectedHeader
  let header ← objectRecord header "trusted consent header"
  assertExactKeys header ["alg", "kid", "typ"] "trusted consent header"
  let kid ← readHeader header
  let key ← selectKey trust.trustedKeys kid
  let cryptoKey ← importKey key
  let signature ← decodeBase64Url compact.signature
  if scheme.verify cryptoKey (CodeUnits.utf8 compact.signingInput) signature = false then
    .error (.error "invalid trusted consent receipt signature")
  else do
    let claims ← decodeJson compact.payload
    let claims ← objectRecord claims "trusted consent claims"
    let webauthn ← objectRecord (fieldOf claims "webauthn") "trusted consent WebAuthn result"
    assertExactKeys claims ["authority_origin", "bwg_version", "challenge_id",
      "disclosure_digest_sha256", "exp", "iat", "iss", "jti", "pool_offer_set_signature_sha256",
      "reason", "webauthn"] "trusted consent claims"
    assertExactKeys webauthn ["attestation", "user_present", "user_verified"]
      "trusted consent WebAuthn result"
    checkClaims claims webauthn trust.issuer request
    checkLifetime otherInteger claims request.expiresAtUnixSeconds nowUnixSeconds

end Verifying

end WorkGate.Headless
