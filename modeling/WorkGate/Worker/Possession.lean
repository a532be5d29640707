/-
# Local device possession proofs (web/worker-possession.ts)

Before a Worker is given leases, the page asks it to prove that it holds its identity key.  A
challenge names everything the proof must be for: the nonces and the identifier of the serial
session, the digests of the Work Challenge, of the capabilities and of the manifest, and, where the
Worker is known, the fingerprint of its key.  The claims come back twice, as data and inside the
signature, and a challenge is verified once.
-/

import WorkGate.Library.Hex
import WorkGate.Library.Machine
import WorkGate.Serial.Records
import WorkGate.Worker.LeaseAuthorization

namespace WorkGate

open WorkGate.Library

def workerPossessionProfile : String := "bwg-worker-possession/0.2"

def workerPossessionProofProfile : String := "bwg-worker-possession-proof/0.2"

/-- Domain separator for one verified possession transcript's authorization context. -/
def workerControlSessionProfile : String := "bwg-worker-control-session/0.2"

def workerPossessionType : String := "bwg-worker-possession+jws"

/-! ## Bindings, requests and claims -/

/-- Closed reason separating first establishment from same-Worker reacquisition. -/
inductive WorkerPossessionPurpose
  | initialAdmission
  | transportReacquisition
  deriving DecidableEq

def WorkerPossessionPurpose.text : WorkerPossessionPurpose → String
  | .initialAdmission => "initial_admission"
  | .transportReacquisition => "transport_reacquisition"

structure WorkerPossessionBindingFields where
  possessionNonce : String
  challengeBindingSha256 : String
  controllerCapabilitySha256 : String
  serialManifestSha256 : String
  sessionId : String
  hostNonce : String
  deviceNonce : String
  deriving DecidableEq

/-- Illegal initial/reacquisition fingerprint combinations cannot be constructed. -/
inductive PossessionGround
  | initialAdmission
  | transportReacquisition (expectedDeviceIdentityFingerprint : String)
  deriving DecidableEq

def PossessionGround.purpose : PossessionGround → WorkerPossessionPurpose
  | .initialAdmission => .initialAdmission
  | .transportReacquisition _ => .transportReacquisition

structure WorkerPossessionBinding extends WorkerPossessionBindingFields where
  requestId : String
  ground : PossessionGround
  maybeExpectedFirmwareSourceCommit : Option String
  maybeExpectedAppElfSha256 : Option String
  deriving DecidableEq

structure WorkerPossessionPayload extends WorkerPossessionBindingFields where
  purpose : WorkerPossessionPurpose
  deriving DecidableEq

/-- Strict request sent before any Work Lease command; its profile and command have one value
each. -/
structure WorkerPossessionRequest where
  requestId : String
  payload : WorkerPossessionPayload
  deriving DecidableEq

/-- Strict public Ed25519 Device Identity key; its other fields have one value each. -/
structure WorkerDeviceIdentityJwk where
  x : String
  deriving DecidableEq

/-- Canonical signed possession transcript. -/
structure WorkerPossessionClaims extends WorkerPossessionPayload where
  firmwareSourceCommit : String
  appElfSha256 : String
  deviceIdentityJwk : WorkerDeviceIdentityJwk
  deriving DecidableEq

inductive PossessionFailureCode
  | invalidRequest
  | proofUnavailable
  deriving DecidableEq

def PossessionFailureCode.text : PossessionFailureCode → String
  | .invalidRequest => "invalid_request"
  | .proofUnavailable => "proof_unavailable"

/-- Correlated proof response; a failure keeps its code alone. -/
inductive WorkerPossessionResponse
  | proved (requestId : String) (claims : WorkerPossessionClaims) (compactJws : CodeUnits)
  | failed (requestId : String) (code : PossessionFailureCode)
  deriving DecidableEq

/-- Successful local continuity result retained only inside the browser adapter. -/
structure VerifiedWorkerPossession where
  deviceIdentityFingerprint : String
  deviceIdentityKeySha256 : String
  firmwareSourceCommit : String
  appElfSha256 : String
  controlSessionBindingSha256 : String
  deriving DecidableEq

/-- The two errors of this file. -/
inductive PossessionFailure
  | invalidRequest
  | invalidProof
  deriving DecidableEq

def PossessionFailure.message : PossessionFailure → String
  | .invalidRequest => "Worker possession request is invalid"
  | .invalidProof => "Worker possession proof is invalid"

/-- `requestFor`. -/
def WorkerPossessionBinding.request (binding : WorkerPossessionBinding) :
    WorkerPossessionRequest where
  requestId := binding.requestId
  payload := { binding.toWorkerPossessionBindingFields with purpose := binding.ground.purpose }

/-! ## As data -/

def WorkerPossessionPayload.members (payload : WorkerPossessionPayload) :
    List (String × JsValue) :=
  [("purpose", jsText payload.purpose.text), ("possessionNonce", jsText payload.possessionNonce),
    ("challengeBindingSha256", jsText payload.challengeBindingSha256),
    ("controllerCapabilitySha256", jsText payload.controllerCapabilitySha256),
    ("serialManifestSha256", jsText payload.serialManifestSha256),
    ("sessionId", jsText payload.sessionId), ("hostNonce", jsText payload.hostNonce),
    ("deviceNonce", jsText payload.deviceNonce)]

def WorkerPossessionRequest.toJs (request : WorkerPossessionRequest) : JsValue :=
  jsRecord [("profile", jsText workerPossessionProfile), ("requestId", jsText request.requestId),
    ("command", jsText "prove_possession"), ("payload", jsRecord request.payload.members)]

def WorkerDeviceIdentityJwk.toJs (jwk : WorkerDeviceIdentityJwk) : JsValue :=
  jsRecord [("kty", jsText "OKP"), ("crv", jsText "Ed25519"), ("x", jsText jwk.x),
    ("alg", jsText "Ed25519"), ("use", jsText "sig"), ("key_ops", .array [jsText "verify"])]

def WorkerPossessionClaims.toJs (claims : WorkerPossessionClaims) : JsValue :=
  jsRecord (("profile", jsText workerPossessionProofProfile) ::
    (claims.toWorkerPossessionPayload.members ++
      [("firmwareSourceCommit", jsText claims.firmwareSourceCommit),
        ("appElfSha256", jsText claims.appElfSha256),
        ("deviceIdentityJwk", claims.deviceIdentityJwk.toJs)]))

def WorkerPossessionResponse.toJs : WorkerPossessionResponse → JsValue
  | .proved requestId claims compactJws =>
      jsRecord [("profile", jsText workerPossessionProfile), ("requestId", jsText requestId),
        ("ok", .bool true), ("result", jsRecord [("claims", claims.toJs),
          ("compactJws", .string compactJws)])]
  | .failed requestId code =>
      jsRecord [("profile", jsText workerPossessionProfile), ("requestId", jsText requestId),
        ("ok", .bool false), ("error", jsRecord [("code", jsText code.text),
          ("message", jsText "Worker possession proof was unavailable")])]

/-! ## Reading -/

/-- `^pos_[A-Za-z0-9_-]{1,124}$`. -/
def validPossessionRequestId (text : String) : Bool :=
  match "pos_".toList.isPrefixOf? text.toList with
  | none => false
  | some rest => 1 ≤ rest.length && rest.length ≤ 124 && rest.all isOpaqueIdCharacter

/-- Lower-case hexadecimal digits, as many as that. -/
def isHexText (length : ℕ) (text : String) : Bool :=
  text.toList.length = length &&
    text.toList.all fun character => character.isDigit || ('a' ≤ character && character ≤ 'f')

/-- `sourceCommit`. -/
def isSourceCommit (text : String) : Bool := isHexText 40 text

/-- `elfDigest`. -/
def isElfDigest (text : String) : Bool := isHexText 64 text

/-- `validPurpose`. -/
def parsePossessionPurpose (value : JsValue) : Option WorkerPossessionPurpose :=
  [.initialAdmission, .transportReacquisition].find? fun purpose => isText value purpose.text

/-- A text that passes a check. -/
def checkedText (value : JsValue) (valid : String → Bool) : Option String :=
  (plainText value).filter valid

/-- A text that passes a check, where there is one. -/
def expectedText (value : JsValue) (valid : String → Bool) : Option (Option String) :=
  if isUndefined value then some none else (checkedText value valid).map some

/-- The fields bindings and claims have in common. -/
def readPossessionPayload (members : List (CodeUnits × JsValue)) :
    Option WorkerPossessionPayload := do
  let purpose ← parsePossessionPurpose (fieldOf members "purpose")
  let possessionNonce ← checkedText (fieldOf members "possessionNonce") isDigest
  let challengeBindingSha256 ← checkedText (fieldOf members "challengeBindingSha256") isDigest
  let controllerCapabilitySha256 ←
    checkedText (fieldOf members "controllerCapabilitySha256") isDigest
  let serialManifestSha256 ← checkedText (fieldOf members "serialManifestSha256") isDigest
  let sessionId ← checkedText (fieldOf members "sessionId") serialToken
  let hostNonce ← checkedText (fieldOf members "hostNonce") serialNonce
  let deviceNonce ← checkedText (fieldOf members "deviceNonce") serialNonce
  let fields : WorkerPossessionBindingFields :=
    { possessionNonce, challengeBindingSha256, controllerCapabilitySha256, serialManifestSha256,
      sessionId, hostNonce, deviceNonce }
  return { fields with purpose }

/-- A purpose with the fingerprint it needs, or without the one it forbids. -/
def possessionGround : WorkerPossessionPurpose → Option String → Option PossessionGround
  | .initialAdmission, none => some .initialAdmission
  | .transportReacquisition, some fingerprint => some (.transportReacquisition fingerprint)
  | _, _ => none

/-- The fields of a binding. -/
def readPossessionBinding (members : List (CodeUnits × JsValue)) :
    Option WorkerPossessionBinding := do
  let requestId ← checkedText (fieldOf members "requestId") validPossessionRequestId
  let payload ← readPossessionPayload members
  let maybeExpectedFirmwareSourceCommit ←
    expectedText (fieldOf members "expectedFirmwareSourceCommit") isSourceCommit
  let maybeExpectedAppElfSha256 ← expectedText (fieldOf members "expectedAppElfSha256") isElfDigest
  let maybeFingerprint ← expectedText (fieldOf members "expectedDeviceIdentityFingerprint") isDigest
  let ground ← possessionGround payload.purpose maybeFingerprint
  return { payload.toWorkerPossessionBindingFields with
    requestId, ground, maybeExpectedFirmwareSourceCommit, maybeExpectedAppElfSha256 }

/-- `parseBinding`. -/
def parsePossessionBinding (input : JsValue) : Except PossessionFailure WorkerPossessionBinding :=
  match exactRecord input
      ["requestId", "purpose", "possessionNonce", "challengeBindingSha256",
        "controllerCapabilitySha256", "serialManifestSha256", "sessionId", "hostNonce",
        "deviceNonce"]
      ["expectedDeviceIdentityFingerprint", "expectedFirmwareSourceCommit",
        "expectedAppElfSha256"] with
  | none => .error .invalidProof
  | some members =>
    match readPossessionBinding members with
    | none => .error .invalidRequest
    | some binding => .ok binding

/-- The key among the claims. -/
def parseDeviceIdentityJwk (value : JsValue) : Option WorkerDeviceIdentityJwk := do
  let key ← exactRecord value ["kty", "crv", "x", "alg", "use", "key_ops"] []
  guard (isText (fieldOf key "kty") "OKP" && isText (fieldOf key "crv") "Ed25519")
  let x ← checkedText (fieldOf key "x") isCanonicalPrimeSubgroupEd25519PublicKey
  guard (isText (fieldOf key "alg") "Ed25519" && isText (fieldOf key "use") "sig" &&
    isVerifyOnly (fieldOf key "key_ops"))
  return { x }

/-- `parseClaims`. -/
def parsePossessionClaims (input : JsValue) : Option WorkerPossessionClaims := do
  let value ← exactRecord input
    ["profile", "purpose", "possessionNonce", "challengeBindingSha256",
      "controllerCapabilitySha256", "serialManifestSha256", "sessionId", "hostNonce", "deviceNonce",
      "firmwareSourceCommit", "appElfSha256", "deviceIdentityJwk"] []
  let deviceIdentityJwk ← parseDeviceIdentityJwk (fieldOf value "deviceIdentityJwk")
  guard (isText (fieldOf value "profile") workerPossessionProofProfile)
  let payload ← readPossessionPayload value
  let firmwareSourceCommit ← checkedText (fieldOf value "firmwareSourceCommit") isSourceCommit
  let appElfSha256 ← checkedText (fieldOf value "appElfSha256") isElfDigest
  return { payload with firmwareSourceCommit, appElfSha256, deviceIdentityJwk }

/-- The code of a failure; its message is read and dropped. -/
def parsePossessionFailure (value : JsValue) : Option PossessionFailureCode := do
  let error ← exactRecord value ["code", "message"] []
  let code ← [PossessionFailureCode.invalidRequest, .proofUnavailable].find? fun code =>
    isText (fieldOf error "code") code.text
  let message ← requiredString (fieldOf error "message")
  guard (message.length ≠ 0 ∧ message.length ≤ 256)
  return code

/-- `parseResponse`. -/
def parsePossessionResponse (input : JsValue) : Option WorkerPossessionResponse := do
  let envelope ← serialRecord input
  guard (isText (fieldOf envelope "profile") workerPossessionProfile)
  let requestId ← checkedText (fieldOf envelope "requestId") validPossessionRequestId
  match fieldOf envelope "ok" with
  | .bool true =>
      let value ← exactRecord input ["profile", "requestId", "ok", "result"] []
      let result ← exactRecord (fieldOf value "result") ["claims", "compactJws"] []
      let compactJws ← (requiredString (fieldOf result "compactJws")).filter (·.length ≤ 8192)
      let claims ← parsePossessionClaims (fieldOf result "claims")
      return .proved requestId claims compactJws
  | .bool false =>
      let value ← exactRecord input ["profile", "requestId", "ok", "error"] []
      let code ← parsePossessionFailure (fieldOf value "error")
      return .failed requestId code
  | _ => none

/-! ## Verifying -/

/-- What `crypto.subtle` does here.  Importing a key or verifying may throw. -/
structure PossessionCrypto where
  sha256 : List UInt8 → List UInt8
  verify : WorkerDeviceIdentityJwk → List UInt8 → List UInt8 → Option Bool

/-- The claims a binding expects; what it does not name is taken from the claims themselves. -/
def expectedPossessionClaims (binding : WorkerPossessionBinding)
    (claims : WorkerPossessionClaims) : WorkerPossessionClaims :=
  { binding.request.payload with
    firmwareSourceCommit := claims.firmwareSourceCommit
    appElfSha256 := claims.appElfSha256
    deviceIdentityJwk := claims.deviceIdentityJwk }

/-- An expected text that is given is the one there. -/
def meetsExpected (maybeExpected : Option String) (text : String) : Bool :=
  maybeExpected.all (· == text)

/-- The protected header says how the signature was made and nothing else. -/
def isPossessionHeader (bytes : List UInt8) : Bool :=
  match parseJsonBytes bytes with
  | some (_, .object header) =>
      header.length = 2 && isText (fieldOf header "alg") "Ed25519" &&
        isText (fieldOf header "typ") workerPossessionType
  | _ => false

/-- The fingerprint of an identity key. -/
def deviceIdentityFingerprint (crypto : PossessionCrypto) (jwk : WorkerDeviceIdentityJwk) :
    String :=
  Base64Url.encode (crypto.sha256 (canonicalBytes jwk.toJs))

/-- What the session digest is over. -/
def controlSessionPreimage (request : WorkerPossessionRequest)
    (response : WorkerPossessionResponse) : List UInt8 :=
  canonicalBytes (jsRecord [("profile", jsText workerControlSessionProfile),
    ("request", request.toJs), ("response", response.toJs)])

/-- `verifyResponse`. -/
def verifyPossessionResponse (crypto : PossessionCrypto) (binding : WorkerPossessionBinding)
    (input : JsValue) : Option VerifiedWorkerPossession := do
  let response ← parsePossessionResponse input
  match response with
  | .failed _ _ => none
  | .proved requestId responseClaims compactJws =>
      guard (requestId = binding.requestId)
      let claims ← parsePossessionClaims responseClaims.toJs
      guard (canonicalJson claims.toJs = canonicalJson (expectedPossessionClaims binding claims).toJs)
      guard (meetsExpected binding.maybeExpectedFirmwareSourceCommit claims.firmwareSourceCommit)
      guard (meetsExpected binding.maybeExpectedAppElfSha256 claims.appElfSha256)
      let (protectedHeader, payload, signature) ← splitArtifact compactJws
      guard (protectedHeader.length ≤ 512 ∧ payload.length ≤ 4096 ∧ signature.length = 86)
      let header ← decodeBase64Url protectedHeader 512
      guard (isPossessionHeader header)
      let payloadBytes ← decodeBase64Url payload 4096
      let decodedPayload ← decodeUtf8 payloadBytes
      guard (decodedPayload = String.ofList (canonicalJson claims.toJs))
      let signatureBytes ← decodeBase64Url signature 86
      let valid ← crypto.verify claims.deviceIdentityJwk signatureBytes
        (CodeUnits.utf8 (protectedHeader ++ 46 :: payload))
      guard valid
      let fingerprint := deviceIdentityFingerprint crypto claims.deviceIdentityJwk
      guard (binding.ground = .initialAdmission ∨
        binding.ground = .transportReacquisition fingerprint)
      let key ← decodeBase64Url (CodeUnits.ofString claims.deviceIdentityJwk.x) 43
      return {
        deviceIdentityFingerprint := fingerprint
        deviceIdentityKeySha256 := Hex.encode (crypto.sha256 key)
        firmwareSourceCommit := claims.firmwareSourceCommit
        appElfSha256 := claims.appElfSha256
        controlSessionBindingSha256 :=
          Base64Url.encode (crypto.sha256 (controlSessionPreimage binding.request response)) }

/-! ## Challenges -/

/-- A challenge, with the response that is being verified. -/
structure WorkerPossessionChallenge where
  consumed : Bool
  maybeVerifying : Option JsValue

/-- Calls of `verify`, with the copy of what they were given if it can be copied, and the end of the
one under way. -/
inductive PossessionEvent
  | verify (maybeResponse : Option JsValue)
  | settles

/-- What becomes of a call; every rejection is the invalid proof. -/
inductive PossessionAnswer
  | pending
  | rejected
  | resolved (verified : VerifiedWorkerPossession)
  | idle

namespace WorkerPossessionChallenge

/-- `verify`, up to its first suspension. -/
def verify (challenge : WorkerPossessionChallenge) (maybeResponse : Option JsValue) :
    WorkerPossessionChallenge × PossessionAnswer :=
  if challenge.consumed then (challenge, .rejected)
  else match maybeResponse with
    | none => ({ challenge with consumed := true }, .rejected)
    | some response => ({ consumed := true, maybeVerifying := some response }, .pending)

/-- The call under way settles. -/
def settles (crypto : PossessionCrypto) (binding : WorkerPossessionBinding)
    (challenge : WorkerPossessionChallenge) : WorkerPossessionChallenge × PossessionAnswer :=
  match challenge.maybeVerifying with
  | none => (challenge, .idle)
  | some response =>
    match verifyPossessionResponse crypto binding response with
    | none => ({ challenge with maybeVerifying := none }, .rejected)
    | some verified => ({ challenge with maybeVerifying := none }, .resolved verified)

end WorkerPossessionChallenge

/-- `createWorkerPossessionChallenge`, for a binding it accepts, under any calls of `verify`. -/
def possessionChallengeMachine (crypto : PossessionCrypto) (binding : WorkerPossessionBinding) :
    Machine WorkerPossessionChallenge PossessionEvent PossessionAnswer where
  init := ⟨false, none⟩
  admits _ _ _ := True
  step challenge
    | .verify maybeResponse => challenge.verify maybeResponse
    | .settles => challenge.settles crypto binding

end WorkGate
