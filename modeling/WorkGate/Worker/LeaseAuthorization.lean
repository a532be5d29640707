/-
# Signing and verifying Work Lease authorizations (web/worker-lease-authorization.ts)

The artifact is a compact signature over a header that names the signing key and a payload that
binds the operation, the possession context and the digest of everything else: the profile, the
issuer, the audience, the active challenge and the complete request.
-/

import WorkGate.Worker.LeaseTrust

namespace WorkGate

open WorkGate.Library

/-- A private key as the runtime holds it. -/
structure CryptoKey where
  type : String
  algorithmName : String
  usages : List String
  material : List UInt8
  deriving DecidableEq

/-- What `crypto.subtle` does.  Signing may throw; so may importing a public key or verifying. -/
structure WebCrypto where
  sha256 : List UInt8 → List UInt8
  sign : CryptoKey → List UInt8 → Option (List UInt8)
  verify : WorkLeaseAuthorityJwk → List UInt8 → List UInt8 → Option Bool

/-- The arguments of `signWorkerLeaseAuthorization`. -/
structure SigningRequest where
  input : JsValue
  sequence : CodeUnits
  kid : CodeUnits
  issuer : CodeUnits
  audience : CodeUnits
  privateKey : CryptoKey

def workerLeaseAuthorizationProfile : String := "bwg-worker-lease-authorization/0.2"

def workerLeaseAuthorizationType : String := "bwg-worker-lease-authorization+jws"

/-- Controller 0.4 authorization-field byte limit. -/
def maximumWorkerLeaseAuthorizationBytes : ℕ := 512

/-- `new TextEncoder().encode(canonicalJson(value))`. -/
def canonicalBytes (value : JsValue) : List UInt8 := asBytes (String.ofList (canonicalJson value))

/-! ## What is bound -/

/-- Everything the request digest is over. -/
structure BoundRequest where
  issuer : String
  audience : String
  operation : WorkerLeaseAuthorizationOperation
  activeChallengeId : String
  request : AuthorizationlessRequest
  deriving DecidableEq

def BoundRequest.toJs (bound : BoundRequest) : JsValue :=
  jsRecord [("profile", jsText workerLeaseAuthorizationProfile), ("issuer", jsText bound.issuer),
    ("audience", jsText bound.audience), ("operation", jsText bound.operation.text),
    ("activeChallengeId", jsText bound.activeChallengeId), ("request", bound.request.toJs)]

def WorkerLeaseAuthorizationInput.bound (input : WorkerLeaseAuthorizationInput)
    (issuer audience : String) : BoundRequest :=
  { issuer, audience, operation := input.operation, activeChallengeId := input.activeChallengeId,
    request := input.request }

/-- The bytes `requestDigest` digests. -/
def requestPreimage (input : WorkerLeaseAuthorizationInput) (issuer audience : String) :
    List UInt8 :=
  canonicalBytes (input.bound issuer audience).toJs

/-- `requestDigest`. -/
def requestDigest (crypto : WebCrypto) (input : WorkerLeaseAuthorizationInput)
    (issuer audience : String) : String :=
  Base64Url.encode (crypto.sha256 (requestPreimage input issuer audience))

/-! ## Artifacts -/

/-- The payload of an artifact. -/
structure AuthorizationPayload where
  controlSessionBindingSha256 : String
  operation : WorkerLeaseAuthorizationOperation
  requestSha256 : String
  sequence : String
  deriving DecidableEq

def AuthorizationPayload.toJs (payload : AuthorizationPayload) : JsValue :=
  jsRecord [("controlSessionBindingSha256", jsText payload.controlSessionBindingSha256),
    ("operation", jsText payload.operation.text),
    ("requestSha256", jsText payload.requestSha256), ("sequence", jsText payload.sequence)]

/-- The protected header of an artifact signed with a key. -/
def headerToJs (kid : String) : JsValue :=
  jsRecord [("alg", jsText "Ed25519"), ("kid", jsText kid),
    ("typ", jsText workerLeaseAuthorizationType)]

/-- `protectedHeader + "." + encodedPayload`. -/
def signingInputOf (kid : String) (payload : AuthorizationPayload) : String :=
  Base64Url.encode (canonicalBytes (headerToJs kid)) ++ "." ++
    Base64Url.encode (canonicalBytes payload.toJs)

/-! ## Signing -/

/-- `assertPrivateSigningKey`. -/
def isPrivateSigningKey (key : CryptoKey) : Bool :=
  key.type = "private" && key.algorithmName = "Ed25519" && key.usages.contains "sign"

/-- What a call signs: the admitted input, the terms and the key id it is signed under. -/
structure AdmittedSigning where
  input : WorkerLeaseAuthorizationInput
  sequence : ℕ
  kid : String
  issuer : String
  audience : String
  deriving DecidableEq

/-- The checks before anything is signed. -/
def SigningRequest.admitted (request : SigningRequest) : Option AdmittedSigning := do
  let input ← parseAuthorizationInput request.input
  let sequence ← parseSequence request.sequence
  let kid ← parseKeyId request.kid
  let issuer ← parseTrustLabel request.issuer
  let audience ← parseAudience request.audience
  guard (isPrivateSigningKey request.privateKey)
  return { input, sequence, kid, issuer, audience }

def AdmittedSigning.payload (crypto : WebCrypto) (admitted : AdmittedSigning) :
    AuthorizationPayload :=
  { controlSessionBindingSha256 := admitted.input.controlSessionBindingSha256
    operation := admitted.input.operation
    requestSha256 := requestDigest crypto admitted.input admitted.issuer admitted.audience
    sequence := admitted.sequence.repr }

def AdmittedSigning.signingInput (crypto : WebCrypto) (admitted : AdmittedSigning) : String :=
  signingInputOf admitted.kid (admitted.payload crypto)

/-- `signWorkerLeaseAuthorization`. -/
def signWorkerLeaseAuthorization (crypto : WebCrypto) (request : SigningRequest) :
    Option String := do
  let admitted ← request.admitted
  let signature ← crypto.sign request.privateKey (asBytes (admitted.signingInput crypto))
  let compactJws := admitted.signingInput crypto ++ "." ++ Base64Url.encode signature
  guard ((asBytes compactJws).length ≤ maximumWorkerLeaseAuthorizationBytes)
  return compactJws

/-! ## Verifying -/

/-- `new TextDecoder("utf-8", { fatal: true }).decode` and `JSON.parse`. -/
def parseJsonBytes (bytes : List UInt8) : Option (String × JsValue) := do
  let text ← decodeUtf8 bytes
  let value ← JsonText.parse text
  return (text, value)

/-- A segment and the bytes it spells in the only way. -/
def decodeSegment (segment : CodeUnits) (maximumCharacters : ℕ) : Option (List UInt8) :=
  (decodeBase64Url segment maximumCharacters).filter fun bytes =>
    CodeUnits.ofString (Base64Url.encode bytes) = segment

/-- The three segments of an artifact; a fourth may only be empty. -/
def splitArtifact (artifact : CodeUnits) : Option (CodeUnits × CodeUnits × CodeUnits) :=
  match artifact.splitOn 46 with
  | header :: payload :: signature :: rest =>
      if header = [] ∨ payload = [] ∨ signature = [] ∨ rest.head?.any (· ≠ []) then none
      else some (header, payload, signature)
  | _ => none

/-- The key id of a protected header. -/
def parseHeader (bytes : List UInt8) : Option String := do
  let (_, value) ← parseJsonBytes bytes
  let members ← exactRecord value ["alg", "kid", "typ"] []
  guard (isText (fieldOf members "alg") "Ed25519" &&
    isText (fieldOf members "typ") workerLeaseAuthorizationType)
  requiredString (fieldOf members "kid") >>= parseKeyId

/-- The payload, whose text is the canonical one of what it says, and its sequence. -/
def parsePayload (bytes : List UInt8) : Option (AuthorizationPayload × ℕ) := do
  let (text, value) ← parseJsonBytes bytes
  let members ← exactRecord value
    ["controlSessionBindingSha256", "operation", "requestSha256", "sequence"] []
  let controlSessionBindingSha256 ← parseDigest (fieldOf members "controlSessionBindingSha256")
  let operation ← parseOperation (fieldOf members "operation")
  let requestSha256 ← parseDigest (fieldOf members "requestSha256")
  let sequenceUnits ← requiredString (fieldOf members "sequence")
  guard (text = String.ofList (canonicalJson value))
  let sequence ← parseSequence sequenceUnits
  let text ← CodeUnits.maybeText sequenceUnits
  return ({ controlSessionBindingSha256, operation, requestSha256, sequence := text }, sequence)

/-- `verifyWorkerLeaseAuthorization`. -/
def verifyWorkerLeaseAuthorization (crypto : WebCrypto) (authorization input trust : JsValue) :
    Option VerifiedWorkerLeaseAuthorization := do
  let artifact ← requiredString authorization
  guard ((CodeUnits.utf8 artifact).length ≤ maximumWorkerLeaseAuthorizationBytes)
  let input ← parseAuthorizationInput input
  let trust ← parseWorkLeaseAuthorityTrust trust
  let (protectedHeader, encodedPayload, encodedSignature) ← splitArtifact artifact
  let headerBytes ← decodeSegment protectedHeader 512
  let payloadBytes ← decodeSegment encodedPayload 512
  let signature ← decodeSegment encodedSignature 86
  let kid ← parseHeader headerBytes
  let (payload, sequence) ← parsePayload payloadBytes
  guard (payload.operation = input.operation)
  guard (payload.controlSessionBindingSha256 = input.controlSessionBindingSha256)
  guard (payload.requestSha256 = requestDigest crypto input trust.issuer trust.audience)
  match trust.keys.filter fun key => key.kid = kid with
  | [key] =>
      guard (signature.length = 64)
      let valid ← crypto.verify key signature
        (CodeUnits.utf8 (protectedHeader ++ 46 :: encodedPayload))
      guard valid
      return { keyId := kid, sequence }
  | _ => none

end WorkGate
