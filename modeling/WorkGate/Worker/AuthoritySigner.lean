/-
# The signer of the Gate Authority (src/work_lease_authorization.rs)

The Gate Authority issues the same artifacts from Rust.  What is signed comes from structs whose
fields are declared in code-point order and from the escaping of the serializer, and the inputs
are validated by rules of their own.
-/

import WorkGate.Library.Base64
import WorkGate.Library.SerdeJson
import WorkGate.Library.Urls
import WorkGate.Progress.Event

namespace WorkGate.WorkLeaseAuthority

open WorkGate.Library

/-- Rejections from building or signing a Work Lease authorization.  Serializing these structs
does not fail. -/
inductive WorkLeaseAuthorizationError
  | invalidSigningKey
  | invalidIssuer
  | invalidControlSessionBinding
  | invalidSequence
  | invalidIdentifier
  | invalidStratum
  | authorizationTooLarge
  deriving DecidableEq, Repr

/-! ## Validated inputs -/

/-- Bytes of base64url only; a character of several bytes has none of them. -/
def isBase64urlText (text : String) : Bool := text.toList.all isOpaqueIdCharacter

/-- `validate_identifier`. -/
def validIdentifier (value : String) : Bool :=
  !value.isEmpty && value.utf8ByteSize ≤ 128 && isBase64urlText value

/-- `valid_key_id`. -/
def validKeyId (value : String) : Bool :=
  1 ≤ value.utf8ByteSize && value.utf8ByteSize ≤ 32 && isBase64urlText value

/-- `valid_issuer`. -/
def validIssuer (value : String) : Bool :=
  1 ≤ value.utf8ByteSize && value.utf8ByteSize ≤ 128 &&
    value.toList.all fun character => isOpaqueIdCharacter character || character == '.'

/-- `valid_stratum_secret`: at most 512 characters. -/
def validStratumSecret (value : String) : Bool := !value.isEmpty && value.toList.length ≤ 512

/-- `valid_stratum_endpoint`: `stratum+tcp://host:port/` with no user info or query. -/
def validStratumEndpoint (value : String) : Bool :=
  match "stratum+tcp://".toList.isPrefixOf? value.toList with
  | none => false
  | some rest =>
    if rest.getLast? = some '/' then
      match ParsedUrl.splitLast ':' rest.dropLast with
      | (none, _) => false
      | (some host, port) =>
          !host.isEmpty &&
            (host.all fun character => character.isAlphanum || character == '.' ||
              character == '-') &&
            port.all Char.isDigit && port.head? ≠ some '0' &&
            (!port.isEmpty && Nat.ofDigitChars 10 port 0 ≤ 65535 &&
              0 < Nat.ofDigitChars 10 port 0)
    else false

/-- Possession-derived control-session digest. -/
structure ControlSessionBinding where
  text : String
  valid : text.utf8ByteSize = 43 ∧ isBase64urlText text = true

/-- `ControlSessionBinding::try_from`. -/
def ControlSessionBinding.tryFrom (value : String) :
    Except WorkLeaseAuthorizationError ControlSessionBinding :=
  if h : value.utf8ByteSize = 43 ∧ isBase64urlText value = true then .ok ⟨value, h⟩
  else .error .invalidControlSessionBinding

/-- Durable non-zero per-key authorization sequence. -/
structure AuthorizationSequence where
  value : ℕ
  valid : 0 < value ∧ value < 2 ^ 64

/-- `AuthorizationSequence::try_from`. -/
def AuthorizationSequence.tryFrom (value : UInt64) :
    Except WorkLeaseAuthorizationError AuthorizationSequence :=
  if h : value.toNat = 0 then .error .invalidSequence
  else .ok ⟨value.toNat, Nat.pos_of_ne_zero h, value.toNat_lt⟩

/-- Lease-scoped Stratum V1 credentials the Worker uses for one grant. -/
structure WorkerStratumV1 where
  endpoint : String
  password : String
  username : String
  validEndpoint : validStratumEndpoint endpoint = true
  validUsername : validStratumSecret username = true
  validPassword : validStratumSecret password = true

/-- `WorkerStratumV1::new`. -/
def WorkerStratumV1.new (endpoint username password : String) :
    Except WorkLeaseAuthorizationError WorkerStratumV1 :=
  if h : validStratumEndpoint endpoint = true ∧ validStratumSecret username = true ∧
      validStratumSecret password = true then
    .ok ⟨endpoint, password, username, h.1, h.2.1, h.2.2⟩
  else .error .invalidStratum

/-- Ed25519 Work Lease Authority signer; the key pair is that of its seed. -/
structure WorkLeaseAuthoritySigner where
  kid : String
  issuer : String
  seed : List UInt8
  validKid : validKeyId kid = true
  validIssuer : validIssuer issuer = true

/-- `from_seed_base64url`. -/
def WorkLeaseAuthoritySigner.fromSeedBase64url (kid issuer seedBase64url : String) :
    Except WorkLeaseAuthorizationError WorkLeaseAuthoritySigner :=
  if hkid : validKeyId kid = true then
    if hissuer : WorkLeaseAuthority.validIssuer issuer = true then
      match Base64Url.decode seedBase64url with
      | none => .error .invalidSigningKey
      | some seed =>
          -- The decoder takes the one spelling of its bytes, and the key pair 32 of them.
          if Base64Url.encode seed = seedBase64url ∧ seed.length = 32 then
            .ok ⟨kid, issuer, seed, hkid, hissuer⟩
          else .error .invalidSigningKey
    else .error .invalidIssuer
  else .error .invalidSigningKey

/-! ## Signing -/

/-- `canonical_bytes`, of what a value serializes to. -/
def canonicalBytes (serialized : List Char) : List UInt8 := asBytes (String.ofList serialized)

/-- What the cryptographic library does. -/
structure RingCrypto where
  sha256 : List UInt8 → List UInt8
  sign : List UInt8 → List UInt8 → List UInt8

def workerLeaseAuthorizationProfile : String := "bwg-worker-lease-authorization/0.2"
def workerLeaseAuthorizationType : String := "bwg-worker-lease-authorization+jws"
def workerControllerProtocolVersion : String := "bwg-worker-controller/0.4"

/-- Controller 0.4 authorization-field byte limit. -/
def maximumWorkerLeaseAuthorizationBytes : ℕ := 512

/-- Device lease length the Authority grants, the Controller 0.4 maximum. -/
def workerLeaseDurationMilliseconds : ℕ := 60000

/-- Device renewal point the Authority grants, the Controller 0.4 maximum. -/
def workerLeaseRenewAfterMilliseconds : ℕ := 20000

def WorkerStratumV1.serialize (stratum : WorkerStratumV1) : List Char :=
  serdeStruct [("endpoint", serdeString stratum.endpoint),
    ("password", serdeString stratum.password), ("username", serdeString stratum.username)]

/-- `GrantRequest`. -/
def grantRequest (challengeId leaseId : String) (stratum : WorkerStratumV1) : List Char :=
  serdeStruct [("challengeId", serdeString challengeId),
    ("durationMilliseconds", serdeUnsigned workerLeaseDurationMilliseconds),
    ("leaseId", serdeString leaseId),
    ("protocolVersion", serdeString workerControllerProtocolVersion),
    ("renewAfterMilliseconds", serdeUnsigned workerLeaseRenewAfterMilliseconds),
    ("stratum", stratum.serialize)]

/-- `RenewalRequest`. -/
def renewalRequest (leaseId : String) : List Char :=
  serdeStruct [("durationMilliseconds", serdeUnsigned workerLeaseDurationMilliseconds),
    ("leaseId", serdeString leaseId),
    ("protocolVersion", serdeString workerControllerProtocolVersion),
    ("renewAfterMilliseconds", serdeUnsigned workerLeaseRenewAfterMilliseconds)]

/-- `RequestDigestInput`. -/
def requestDigestInput (signer : WorkLeaseAuthoritySigner) (operation activeChallengeId : String)
    (request : List Char) : List Char :=
  serdeStruct [("activeChallengeId", serdeString activeChallengeId),
    ("audience", serdeString workerControllerProtocolVersion),
    ("issuer", serdeString signer.issuer), ("operation", serdeString operation),
    ("profile", serdeString workerLeaseAuthorizationProfile), ("request", request)]

/-- `Payload`. -/
def payloadText (controlSession operation requestSha256 sequence : String) : List Char :=
  serdeStruct [("controlSessionBindingSha256", serdeString controlSession),
    ("operation", serdeString operation), ("requestSha256", serdeString requestSha256),
    ("sequence", serdeString sequence)]

/-- `Header`. -/
def headerText (kid : String) : List Char :=
  serdeStruct [("alg", serdeString "Ed25519"), ("kid", serdeString kid),
    ("typ", serdeString workerLeaseAuthorizationType)]

/-- The payload `sign` builds. -/
def WorkLeaseAuthoritySigner.payload (ring : RingCrypto) (signer : WorkLeaseAuthoritySigner)
    (operation activeChallengeId : String) (request : List Char)
    (controlSession : ControlSessionBinding) (sequence : AuthorizationSequence) : List Char :=
  let requestDigest := ring.sha256
    (canonicalBytes (requestDigestInput signer operation activeChallengeId request))
  payloadText controlSession.text operation (Base64Url.encode requestDigest) sequence.value.repr

/-- `sign`. -/
def WorkLeaseAuthoritySigner.sign (ring : RingCrypto) (signer : WorkLeaseAuthoritySigner)
    (operation activeChallengeId : String) (request : List Char)
    (controlSession : ControlSessionBinding) (sequence : AuthorizationSequence) :
    Except WorkLeaseAuthorizationError String :=
  let payload := signer.payload ring operation activeChallengeId request controlSession sequence
  let signingInput := Base64Url.encode (canonicalBytes (headerText signer.kid)) ++ "." ++
    Base64Url.encode (canonicalBytes payload)
  let signature := ring.sign signer.seed (asBytes signingInput)
  let compact := signingInput ++ "." ++ Base64Url.encode signature
  if maximumWorkerLeaseAuthorizationBytes < (asBytes compact).length then
    .error .authorizationTooLarge
  else .ok compact

/-- Device grant returned by Start and Resume; its protocol version and window are fixed. -/
structure WorkerLeaseGrant where
  leaseId : String
  challengeId : String
  authorization : String
  stratum : WorkerStratumV1

/-- Device renewal returned by Renew; its protocol version and window are fixed. -/
structure WorkerLeaseRenewal where
  leaseId : String
  authorization : String

/-- `sign_grant`. -/
def WorkLeaseAuthoritySigner.signGrant (ring : RingCrypto) (signer : WorkLeaseAuthoritySigner)
    (leaseId challengeId : String) (stratum : WorkerStratumV1)
    (controlSession : ControlSessionBinding) (sequence : AuthorizationSequence) :
    Except WorkLeaseAuthorizationError WorkerLeaseGrant :=
  if !validIdentifier leaseId then .error .invalidIdentifier
  else if !validIdentifier challengeId then .error .invalidIdentifier
  else match signer.sign ring "start" challengeId (grantRequest challengeId leaseId stratum)
      controlSession sequence with
    | .error error => .error error
    | .ok authorization => .ok { leaseId, challengeId, authorization, stratum }

/-- `sign_renewal`. -/
def WorkLeaseAuthoritySigner.signRenewal (ring : RingCrypto) (signer : WorkLeaseAuthoritySigner)
    (leaseId activeChallengeId : String) (controlSession : ControlSessionBinding)
    (sequence : AuthorizationSequence) :
    Except WorkLeaseAuthorizationError WorkerLeaseRenewal :=
  if !validIdentifier leaseId then .error .invalidIdentifier
  else if !validIdentifier activeChallengeId then .error .invalidIdentifier
  else match signer.sign ring "renew" activeChallengeId (renewalRequest leaseId) controlSession
      sequence with
    | .error error => .error error
    | .ok authorization => .ok { leaseId, authorization }

end WorkGate.WorkLeaseAuthority
