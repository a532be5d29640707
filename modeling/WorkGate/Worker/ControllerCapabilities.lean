/-
# Signed capabilities of a Worker Controller (web/worker-controller-semantics.ts,
web/worker-controller-signed-profile.ts, web/reference-firmware-board.ts, web/worker-serial.ts)

What a board says of itself before it is given a lease, and the signature of the firmware's
publisher over it.  The claims come twice, as capabilities and inside the signature, and the
signature also covers the digest of the serial manifest.
-/

import WorkGate.Library.Results
import WorkGate.Serial.Envelope
import WorkGate.Worker.Possession

namespace WorkGate

open WorkGate.Library

/-- What the functions here throw. -/
inductive CapabilityFailure
  | capability
  | attestation
  | publicShape
  | unknownField
  | incomplete
  | field
  | capabilities
  | manifest
  /-- The error of a decoder, of a parser or of `crypto.subtle`. -/
  | platform
  deriving DecidableEq

/-! ## Capabilities -/

/-- `exactRecord` of the public shapes, an unknown field before a missing one. -/
def publicRecord (value : JsValue) (required optional : List String) :
    Except CapabilityFailure (List (CodeUnits × JsValue)) := do
  let members ← orThrow .publicShape (serialRecord value)
  throwIf (members.any fun member =>
    !(required ++ optional).any fun key => CodeUnits.ofString key == member.1) .unknownField
  throwIf (required.any fun key => !hasField members key) .incomplete
  return members

/-- `validLabel`: up to 128 letters, digits, dots, underscores and dashes. -/
def validLabel (text : String) : Bool := isTrustLabel text

/-- `requiredString` of the public shapes. -/
def publicString (members : List (CodeUnits × JsValue)) (key : String) :
    Except CapabilityFailure CodeUnits :=
  orThrow .field (requiredString (fieldOf members key))

/-- A field that has to be a label. -/
def publicLabel (members : List (CodeUnits × JsValue)) (key : String) :
    Except CapabilityFailure String := do
  let units ← publicString members key
  orThrow .capabilities ((CodeUnits.maybeText units).filter validLabel)

inductive SettingsPreservation
  | compatible
  | upgradeRequired
  | unsupported
  deriving DecidableEq

def SettingsPreservation.text : SettingsPreservation → String
  | .compatible => "compatible"
  | .upgradeRequired => "upgrade_required"
  | .unsupported => "unsupported"

def settingsPreservations : List SettingsPreservation :=
  [.compatible, .upgradeRequired, .unsupported]

/-- `WorkerControllerCapabilities`; its other fields have one value each. -/
structure WorkerControllerCapabilities where
  model : String
  revision : String
  firmwareName : String
  firmwareVersion : String
  referenceFirmware : Bool
  settingsPreservation : SettingsPreservation
  deriving DecidableEq

def requiredBoolean : JsValue → Option Bool
  | .bool value => some value
  | _ => none

/-- `parseWorkerControllerCapabilities`. -/
def parseWorkerControllerCapabilities (input : JsValue) :
    Except CapabilityFailure WorkerControllerCapabilities := do
  let value ← publicRecord input ["protocolVersion", "board", "firmware", "compatibility"] []
  let board ← publicRecord (fieldOf value "board") ["model", "revision", "usbTransport"] []
  let firmware ← publicRecord (fieldOf value "firmware") ["name", "version"] []
  let compatibility ← publicRecord (fieldOf value "compatibility")
    ["referenceFirmware", "workLease", "miningBaselineRestoration", "settingsPreservation"] []
  let preservation ← publicString compatibility "settingsPreservation"
  throwIf (isText (fieldOf value "protocolVersion") workerControllerProtocolVersion = false)
    .capabilities
  let model ← publicLabel board "model"
  let revision ← publicLabel board "revision"
  throwIf (isText (fieldOf board "usbTransport") "web_serial" = false) .capabilities
  let firmwareName ← publicLabel firmware "name"
  let firmwareVersion ← publicLabel firmware "version"
  let referenceFirmware ← orThrow .capabilities
    (requiredBoolean (fieldOf compatibility "referenceFirmware"))
  throwIf (isText (fieldOf compatibility "workLease") "supported" = false) .capabilities
  throwIf (isText (fieldOf compatibility "miningBaselineRestoration") "supported" = false)
    .capabilities
  let settingsPreservation ← orThrow .capabilities
    (settingsPreservations.find? fun candidate => CodeUnits.ofString candidate.text = preservation)
  return { model, revision, firmwareName, firmwareVersion, referenceFirmware,
           settingsPreservation }

/-! ## Attestations -/

/-- One admitted Reference Firmware board identity. -/
structure ReferenceFirmwareBoard where
  model : String
  revision : String
  deriving DecidableEq

/-- `REFERENCE_FIRMWARE_BOARDS`. -/
def referenceFirmwareBoards : List ReferenceFirmwareBoard :=
  [⟨"bitaxe-ultra", "205"⟩, ⟨"bitaxe-gamma", "601"⟩]

/-- `maybeReferenceFirmwareBoard`. -/
def maybeReferenceFirmwareBoard (model revision : JsValue) : Option ReferenceFirmwareBoard :=
  referenceFirmwareBoards.find? fun board =>
    isText model board.model && isText revision board.revision

/-- `SignedWorkerControllerProfile`. -/
structure SignedWorkerControllerProfile where
  protocolVersion : String
  transportProfile : String
  label : String

/-- `WorkerControllerCapabilityClaims`.  The field `settingsPreservation` is looked at as
`String(value)` alone, and kept as it is. -/
structure CapabilityClaims where
  board : ReferenceFirmwareBoard
  firmwareName : String
  firmwareVersion : String
  referenceFirmware : Bool
  settingsPreservation : JsValue
  serialManifestSha256 : String

/-- `WorkerControllerCapabilityAttestation`. -/
structure CapabilityAttestation where
  claims : CapabilityClaims
  compactJws : CodeUnits

/-- `SignedWorkerControllerCapabilities`; its other fields have one value each. -/
structure SignedWorkerControllerCapabilities extends WorkerControllerCapabilities where
  attestation : CapabilityAttestation

def referenceFirmwareCapabilityProfile : String := "bwg-reference-firmware-capability/0.2"

def workerCapabilityType : String := "bwg-worker-capability+jws"

/-- Claims as data. -/
def CapabilityClaims.toJs (profile : SignedWorkerControllerProfile) (claims : CapabilityClaims) :
    JsValue :=
  jsRecord [("profile", jsText referenceFirmwareCapabilityProfile),
    ("protocolVersion", jsText profile.protocolVersion),
    ("board", jsRecord [("model", jsText claims.board.model),
      ("revision", jsText claims.board.revision)]),
    ("firmware", jsRecord [("name", jsText claims.firmwareName),
      ("version", jsText claims.firmwareVersion)]),
    ("compatibility", jsRecord [("referenceFirmware", .bool claims.referenceFirmware),
      ("workLease", jsText "supported"), ("miningBaselineRestoration", jsText "supported"),
      ("settingsPreservation", claims.settingsPreservation)]),
    ("transportProfile", jsText profile.transportProfile),
    ("serialManifestSha256", jsText claims.serialManifestSha256)]

/-- The claims that capabilities have to be attested with. -/
def WorkerControllerCapabilities.claimed (parsed : WorkerControllerCapabilities)
    (serialManifestSha256 : String) : CapabilityClaims where
  board := ⟨parsed.model, parsed.revision⟩
  firmwareName := parsed.firmwareName
  firmwareVersion := parsed.firmwareVersion
  referenceFirmware := parsed.referenceFirmware
  settingsPreservation := jsText parsed.settingsPreservation.text
  serialManifestSha256 := serialManifestSha256

/-- `value.compactJws`, of 1 to 8192 code units. -/
def attestationToken (value : JsValue) : Option CodeUnits :=
  (requiredString value).filter fun units => units.length ≠ 0 && units.length ≤ 8192

/-- `exactRecord` with the message of a malformed capability or attestation. -/
def exactCapabilityRecord (failure : CapabilityFailure) (value : JsValue)
    (required optional : List String) :
    Except CapabilityFailure (List (CodeUnits × JsValue)) :=
  orThrow failure (exactRecord value required optional)

instance lawfulBEq_characters : LawfulBEq (List Char) := inferInstance

/-- `parseCapabilityAttestation`. -/
def parseCapabilityAttestation (input : JsValue) (profile : SignedWorkerControllerProfile) :
    Except CapabilityFailure CapabilityAttestation := do
  let value ← exactCapabilityRecord .capability input ["claims", "compactJws"] []
  let claims ← exactCapabilityRecord .capability (fieldOf value "claims")
    ["profile", "protocolVersion", "board", "firmware", "compatibility", "transportProfile",
      "serialManifestSha256"] []
  let board ← exactCapabilityRecord .capability (fieldOf claims "board") ["model", "revision"] []
  let firmware ← exactCapabilityRecord .capability (fieldOf claims "firmware")
    ["name", "version"] []
  let compatibility ← exactCapabilityRecord .capability (fieldOf claims "compatibility")
    ["referenceFirmware", "workLease", "miningBaselineRestoration", "settingsPreservation"] []
  let admitted := maybeReferenceFirmwareBoard (fieldOf board "model") (fieldOf board "revision")
  throwIf (isText (fieldOf claims "profile") referenceFirmwareCapabilityProfile = false ∨
    isText (fieldOf claims "protocolVersion") profile.protocolVersion = false) .capability
  let board ← orThrow .capability admitted
  let firmwareName ← orThrow .capability (checkedText (fieldOf firmware "name") validLabel)
  let firmwareVersion ← orThrow .capability (checkedText (fieldOf firmware "version") validLabel)
  let referenceFirmware ← orThrow .capability
    (requiredBoolean (fieldOf compatibility "referenceFirmware"))
  throwIf (isText (fieldOf compatibility "workLease") "supported" = false ∨
    isText (fieldOf compatibility "miningBaselineRestoration") "supported" = false) .capability
  let settingsPreservation := fieldOf compatibility "settingsPreservation"
  throwIf (stringOf settingsPreservation ∉ settingsPreservations.map (·.text.toList)) .capability
  throwIf (isText (fieldOf claims "transportProfile") profile.transportProfile = false) .capability
  let serialManifestSha256 ← orThrow .capability
    (checkedText (fieldOf claims "serialManifestSha256") isDigest)
  let compactJws ← orThrow .capability (attestationToken (fieldOf value "compactJws"))
  return {
    claims := { board, firmwareName, firmwareVersion, referenceFirmware, settingsPreservation,
                serialManifestSha256 }
    compactJws }

/-- The capabilities as the protocol without signatures has them. -/
def withoutAttestation (value board : List (CodeUnits × JsValue)) : JsValue :=
  let withoutTransportProfile := value.filter fun member =>
    member.1 ≠ CodeUnits.ofString "transportProfile" ∧ member.1 ≠ CodeUnits.ofString "attestation"
  .object (withMember "board" (.object (withMember "usbTransport" (jsText "web_serial") board))
    (withMember "protocolVersion" (jsText workerControllerProtocolVersion)
      withoutTransportProfile))

/-- `parseSignedWorkerControllerCapabilities`. -/
def parseSignedWorkerControllerCapabilities (input : JsValue)
    (profile : SignedWorkerControllerProfile) :
    Except CapabilityFailure SignedWorkerControllerCapabilities := do
  let value ← orThrow .capability (serialRecord input)
  let board ← orThrow .capability (serialRecord (fieldOf value "board"))
  throwIf (isText (fieldOf value "protocolVersion") profile.protocolVersion = false ∨
    isText (fieldOf value "transportProfile") profile.transportProfile = false ∨
    isText (fieldOf board "usbTransport") "web_serial" = false) .capability
  let attestation ← parseCapabilityAttestation (fieldOf value "attestation") profile
  let semantic ← parseWorkerControllerCapabilities (withoutAttestation value board)
  throwIf (canonicalJson (attestation.claims.toJs profile) ≠
    canonicalJson ((semantic.claimed attestation.claims.serialManifestSha256).toJs profile))
    .capability
  return { semantic with attestation }

/-! ## The serial manifest -/

/-- `WORKER_SERIAL_MANIFEST`. -/
def workerSerialManifest : JsValue :=
  jsRecord [("profile", jsText workerSerialProfile),
    ("qualificationAttemptProfile", jsText "worker-qualification-attempt-v1"),
    ("poolDifficultyHintProfile", jsText "worker-stratum-difficulty-hint-v1"),
    ("transport", jsText "esp32s3_usb_serial_jtag"), ("baudRate", jsNatural 115200),
    ("framing", jsText "utf8_ndjson"),
    ("maximumControlPayloadBytes", jsNatural maximumSerialControlPayloadBytes),
    ("maximumWireFrameBytes", jsNatural maximumSerialWireBytes),
    ("heartbeatIntervalMilliseconds", jsNatural 1000),
    ("heartbeatTimeoutMilliseconds", jsNatural 2800), ("foregroundOnly", .bool true),
    ("hostToDeviceReceiveWindowBytes", jsNatural 2048),
    ("maximumHostWriteChunkBytes", jsNatural 1024),
    ("recordWriteTimeoutMilliseconds", jsNatural 2000),
    ("payloadIntegrity", jsText "sha256_exact_utf8_json")]

/-- `parseWorkerSerialManifest`; it returns the one manifest there is. -/
def parseWorkerSerialManifest (input : JsValue) : Except CapabilityFailure JsValue := do
  throwIf (canonicalJson input ≠ canonicalJson workerSerialManifest) .manifest
  return workerSerialManifest

/-! ## Verification -/

/-- A key of the firmware's publisher; its other fields have one value each. -/
structure CapabilityVerificationKey where
  x : String
  kid : String
  maybeExt : Option Bool
  deriving DecidableEq

/-- A field that is a truth value where it is given. -/
def optionalBoolean : JsValue → Option (Option Bool)
  | .undefined => some none
  | .bool value => some (some value)
  | _ => none

/-- The fields of a public verification key, its coordinate checked as the caller wants. -/
def readVerificationKey (validX validKid : String → Bool) (value : JsValue) :
    Option CapabilityVerificationKey := do
  let key ← exactRecord value ["kty", "crv", "x", "kid", "alg", "use", "key_ops"] ["ext"]
  guard (isText (fieldOf key "kty") "OKP" && isText (fieldOf key "crv") "Ed25519")
  let x ← checkedText (fieldOf key "x") validX
  let kid ← checkedText (fieldOf key "kid") validKid
  guard (isText (fieldOf key "alg") "Ed25519" && isText (fieldOf key "use") "sig" &&
    isVerifyOnly (fieldOf key "key_ops"))
  let maybeExt ← optionalBoolean (fieldOf key "ext")
  return { x, kid, maybeExt }

/-- `parseCapabilityVerificationKey`. -/
def parseCapabilityVerificationKey (input : JsValue) :
    Except CapabilityFailure CapabilityVerificationKey :=
  orThrow .attestation
    (readVerificationKey isCanonicalPrimeSubgroupEd25519PublicKey validLabel input)

/-- What `crypto.subtle` does here.  Importing a key or verifying may throw. -/
structure CapabilityCrypto where
  sha256 : List UInt8 → List UInt8
  verify : CapabilityVerificationKey → List UInt8 → List UInt8 → Option Bool

/-- `jsonRecord`, of a protected header, and its key id. -/
def capabilityKeyId (bytes : List UInt8) : Option String := do
  let (_, value) ← parseJsonBytes bytes
  let header ← exactRecord value ["alg", "typ", "kid"] []
  guard (isText (fieldOf header "alg") "Ed25519" &&
    isText (fieldOf header "typ") workerCapabilityType)
  checkedText (fieldOf header "kid") validLabel

/-- The key that alone has this id. -/
def matchingKey (keys : List CapabilityVerificationKey) (kid : String) :
    Option CapabilityVerificationKey :=
  match keys.filter fun key => key.kid = kid with
  | [key] => some key
  | _ => none

/-- The segments of a token, each within its length. -/
def capabilitySegments (compactJws : CodeUnits) : Option (CodeUnits × CodeUnits × CodeUnits) :=
  (splitArtifact compactJws).filter fun segments =>
    segments.1.length ≤ 512 ∧ segments.2.1.length ≤ 4096 ∧ segments.2.2.length = 86

/-- `verifySignedWorkerControllerCapability`. -/
def verifySignedWorkerControllerCapability (crypto : CapabilityCrypto)
    (capability manifest : JsValue) (trustedKeys : List JsValue)
    (profile : SignedWorkerControllerProfile) :
    Except CapabilityFailure SignedWorkerControllerCapabilities := do
  let admittedCapability ← parseSignedWorkerControllerCapabilities capability profile
  let admittedManifest ← parseWorkerSerialManifest manifest
  let admittedKeys ← trustedKeys.mapM parseCapabilityVerificationKey
  let (protectedHeader, payload, signature) ← orThrow .attestation
    (capabilitySegments admittedCapability.attestation.compactJws)
  let headerBytes ← orThrow .attestation (decodeSegment protectedHeader 512)
  let payloadBytes ← orThrow .attestation (decodeSegment payload 4096)
  let signatureBytes ← orThrow .attestation (decodeSegment signature 86)
  let kid ← orThrow .attestation (capabilityKeyId headerBytes)
  let key ← orThrow .attestation (matchingKey admittedKeys kid)
  let decodedPayload ← orThrow .platform (decodeUtf8 payloadBytes)
  throwIf (decodedPayload ≠
    String.ofList (canonicalJson (admittedCapability.attestation.claims.toJs profile)))
    .attestation
  let manifestDigest := sha256Base64UrlBytes crypto.sha256 (canonicalBytes admittedManifest)
  throwIf (admittedCapability.referenceFirmware = false ∨
    manifestDigest ≠ admittedCapability.attestation.claims.serialManifestSha256) .attestation
  let valid ← orThrow .platform (crypto.verify key signatureBytes
    (CodeUnits.utf8 (protectedHeader ++ 46 :: payload)))
  throwIf (valid = false) .attestation
  return admittedCapability

end WorkGate
