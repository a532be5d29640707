/-
# Admission of firmware packages (web/bitaxe-firmware-package.ts)

A package is a manifest, an image and the Update Authority's compact signature over the manifest.
It is admitted when the signature is of a trusted key, the image has the digest the manifest names
and the device can take it and go back.
-/

import WorkGate.Library.TextDecoder
import WorkGate.Worker.ControllerCapabilities

namespace WorkGate

open WorkGate.Library

/-- `MAXIMUM_FIRMWARE_IMAGE_BYTES`. -/
def maximumFirmwareImageBytes : ℕ := 8388608

/-- What the functions here throw. -/
inductive FirmwareFailure
  | package
  | image
  | imageSize
  | signature
  | manifest
  | digest
  | incompatible
  /-- The error of a parser or of `crypto.subtle`. -/
  | platform
  deriving DecidableEq

/-! ## Manifests -/

/-- The parts of a URL that are looked at. -/
structure PageUrl where
  protocol : CodeUnits
  username : CodeUnits
  password : CodeUnits
  search : CodeUnits
  hash : CodeUnits

structure CompatibleBoard where
  model : String
  revisions : List String
  deriving DecidableEq

/-- `FirmwareManifest`; its other fields have one value each. -/
structure FirmwareManifest where
  firmwareVersion : String
  imageSha256 : String
  compatibleBoards : List CompatibleBoard
  minimumAppSlotBytes : ℕ
  minimumReadable : ℕ
  maximumReadable : ℕ
  target : ℕ
  sourceUrl : CodeUnits
  deriving DecidableEq

def firmwareManifestProfile : String := "bwg-reference-firmware/0.1"

def firmwareManifestType : String := "bwg-firmware-manifest+jws"

def firmwarePartitionScheme : String := "esp32-ota-ab"

def CompatibleBoard.toJs (board : CompatibleBoard) : JsValue :=
  jsRecord [("model", jsText board.model), ("revisions", .array (board.revisions.map jsText))]

/-- A manifest as data. -/
def FirmwareManifest.toJs (manifest : FirmwareManifest) : JsValue :=
  jsRecord [("profile", jsText firmwareManifestProfile),
    ("firmwareVersion", jsText manifest.firmwareVersion),
    ("imageSha256", jsText manifest.imageSha256),
    ("compatibleBoards", .array (manifest.compatibleBoards.map CompatibleBoard.toJs)),
    ("partition", jsRecord [("scheme", jsText firmwarePartitionScheme),
      ("minimumAppSlotBytes", jsNatural manifest.minimumAppSlotBytes),
      ("rollbackRequired", .bool true)]),
    ("settingsSchema", jsRecord [("minimumReadable", jsNatural manifest.minimumReadable),
      ("maximumReadable", jsNatural manifest.maximumReadable),
      ("target", jsNatural manifest.target)]),
    ("sourceUrl", .string manifest.sourceUrl)]

/-- `hasExactKeys`, of an object. -/
def hasExactKeys {α : Type} (members : List (CodeUnits × α)) (required : List String) : Bool :=
  (members.all fun member => required.any fun key => CodeUnits.ofString key == member.1) &&
    required.all fun key => (members.lookup (CodeUnits.ofString key)).isSome

/-- An object with these keys. -/
def recordWithKeys (failure : FirmwareFailure) (value : JsValue) (required : List String) :
    Except FirmwareFailure (List (CodeUnits × JsValue)) :=
  orThrow failure ((serialRecord value).filter fun members => hasExactKeys members required)

/-- `validBoundedLabel`. -/
def validBoundedLabel (maximumLength : ℕ) (text : String) : Bool :=
  decide (1 ≤ text.toList.length) && decide (text.toList.length ≤ maximumLength) &&
    text.toList.all fun character => isOpaqueIdCharacter character || character == '.'

/-- `^\d+\.\d+\.\d+$`. -/
def isVersionText (text : String) : Bool :=
  match text.toList.splitOn '.' with
  | [major, minor, patch] =>
      [major, minor, patch].all fun digits => !digits.isEmpty && digits.all Char.isDigit
  | _ => false

/-- `validHttpsUrl`. -/
def isPlainHttpsUrl (parseUrl : CodeUnits → Option PageUrl) (value : CodeUnits) : Bool :=
  match parseUrl value with
  | none => false
  | some url => url.protocol = CodeUnits.ofString "https:" && url.username.isEmpty &&
      url.password.isEmpty && url.search.isEmpty && url.hash.isEmpty

/-- An array of one to 32 elements. -/
def boundedElements : JsValue → Option (List JsValue)
  | .array elements => if elements.length = 0 ∨ 32 < elements.length then none else some elements
  | _ => none

/-- `parseCompatibleBoard`. -/
def parseCompatibleBoard (input : JsValue) : Except FirmwareFailure CompatibleBoard := do
  let value ← recordWithKeys .manifest input ["model", "revisions"]
  let model ← orThrow .manifest (checkedText (fieldOf value "model") (validBoundedLabel 64))
  let values ← orThrow .manifest (boundedElements (fieldOf value "revisions"))
  let revisions ← values.mapM fun revision =>
    orThrow .manifest (checkedText revision (validBoundedLabel 64))
  return { model, revisions }

/-- A number that has to be a positive safe integer. -/
def positiveSafeInteger (value : JsValue) : Except FirmwareFailure ℕ :=
  orThrow .manifest ((requiredNatural value).filter fun found =>
    0 < found && found ≤ maximumSafeInteger)

section Packages

variable (parseUrl : CodeUnits → Option PageUrl)

/-- `parseManifest`. -/
def parseFirmwareManifest (input : JsValue) : Except FirmwareFailure FirmwareManifest := do
  let value ← recordWithKeys .manifest input ["profile", "firmwareVersion", "imageSha256",
    "compatibleBoards", "partition", "settingsSchema", "sourceUrl"]
  let partition ← recordWithKeys .manifest (fieldOf value "partition")
    ["scheme", "minimumAppSlotBytes", "rollbackRequired"]
  let settingsSchema ← recordWithKeys .manifest (fieldOf value "settingsSchema")
    ["minimumReadable", "maximumReadable", "target"]
  throwIf (isText (fieldOf value "profile") firmwareManifestProfile = false) .manifest
  let firmwareVersion ← orThrow .manifest
    (checkedText (fieldOf value "firmwareVersion") fun text =>
      decide (text.toList.length ≤ 64) && isVersionText text)
  let imageSha256 ← orThrow .manifest (checkedText (fieldOf value "imageSha256") isDigest)
  let boards ← orThrow .manifest (boundedElements (fieldOf value "compatibleBoards"))
  let sourceUrl ← orThrow .manifest ((requiredString (fieldOf value "sourceUrl")).filter
    fun url => decide (url.length ≤ 2048) && isPlainHttpsUrl parseUrl url)
  let compatibleBoards ← boards.mapM parseCompatibleBoard
  throwIf (isText (fieldOf partition "scheme") firmwarePartitionScheme = false) .manifest
  let minimumAppSlotBytes ← positiveSafeInteger (fieldOf partition "minimumAppSlotBytes")
  throwIf (requiredBoolean (fieldOf partition "rollbackRequired") ≠ some true) .manifest
  let minimumReadable ← positiveSafeInteger (fieldOf settingsSchema "minimumReadable")
  let maximumReadable ← positiveSafeInteger (fieldOf settingsSchema "maximumReadable")
  let target ← positiveSafeInteger (fieldOf settingsSchema "target")
  throwIf (minimumReadable > maximumReadable ∨ target < minimumReadable ∨
    target > maximumReadable) .manifest
  return { firmwareVersion, imageSha256, compatibleBoards, minimumAppSlotBytes, minimumReadable,
           maximumReadable, target, sourceUrl }

/-! ## Packages -/

/-- The value of a field of a package: data, or an array of bytes. -/
inductive PackageValue
  | data (value : JsValue)
  | bytes (image : List UInt8)

def PackageValue.asData : PackageValue → JsValue
  | .data value => value
  | .bytes _ => .undefined

def PackageValue.maybeBytes : PackageValue → Option (List UInt8)
  | .data _ => none
  | .bytes image => some image

/-- `value[key]` of a package. -/
def packageField (members : List (CodeUnits × PackageValue)) (key : String) : PackageValue :=
  (members.lookup (CodeUnits.ofString key)).getD (.data .undefined)

structure FirmwarePackage where
  manifest : FirmwareManifest
  image : List UInt8
  signature : CodeUnits

/-- `parseFirmwarePackage`; what is no object has no members. -/
def parseFirmwarePackage (input : Option (List (CodeUnits × PackageValue))) :
    Except FirmwareFailure FirmwarePackage := do
  let value ← orThrow .package
    (input.filter fun members => hasExactKeys members ["manifest", "image", "signature"])
  let image ← orThrow .image (packageField value "image").maybeBytes
  throwIf (image.length = 0 ∨ image.length > maximumFirmwareImageBytes) .imageSize
  let signature ← orThrow .signature
    ((requiredString (packageField value "signature").asData).filter fun units =>
      units.length ≤ 131072)
  let manifest ← parseFirmwareManifest parseUrl (packageField value "manifest").asData
  return { manifest, image, signature }

/-- A coordinate of a key, not looked at any further here. -/
def isCoordinateText (text : String) : Bool := isDigest text

/-- `parseUpdateAuthorityKey`. -/
def parseUpdateAuthorityKey (input : JsValue) :
    Except FirmwareFailure CapabilityVerificationKey :=
  orThrow .signature (readVerificationKey isCoordinateText (validBoundedLabel 128) input)

/-- `parseCompactJws`. -/
def parseCompactJws (value : CodeUnits) :
    Except FirmwareFailure (CodeUnits × CodeUnits × CodeUnits) :=
  orThrow .signature ((splitArtifact value).filter fun segments =>
    segments.1.length ≤ 512 ∧ segments.2.1.length ≤ 130000 ∧ segments.2.2.length = 86)

/-- `parseJsonRecord`. -/
def parseJsonRecord (bytes : List UInt8) :
    Except FirmwareFailure (List (CodeUnits × JsValue)) := do
  let parsed ← orThrow .platform (JsonText.parse (TextDecoder.decode bytes))
  orThrow .signature (serialRecord parsed)

/-- The key id of a protected header. -/
def firmwareKeyId (header : List (CodeUnits × JsValue)) : Except FirmwareFailure String := do
  throwIf (hasExactKeys header ["alg", "typ", "kid"] = false) .signature
  throwIf (isText (fieldOf header "alg") "Ed25519" = false ∨
    isText (fieldOf header "typ") firmwareManifestType = false) .signature
  orThrow .signature (checkedText (fieldOf header "kid") (validBoundedLabel 128))

/-- `BitaxeDeviceSnapshot`, as far as it is looked at; its partition scheme has one value. -/
structure BitaxeDeviceSnapshot where
  capabilities : WorkerControllerCapabilities
  settingsSchemaVersion : ℕ
  appSlotBytes : ℕ
  rollbackAvailable : Bool
  bootable : Bool

/-- `compatible`; every manifest requires that the device can go back. -/
def FirmwareManifest.compatible (manifest : FirmwareManifest) (snapshot : BitaxeDeviceSnapshot) :
    Bool :=
  (manifest.compatibleBoards.any fun candidate =>
      candidate.model = snapshot.capabilities.model &&
        candidate.revisions.contains snapshot.capabilities.revision) &&
    snapshot.capabilities.settingsPreservation ≠ .unsupported && snapshot.bootable &&
    decide (manifest.minimumAppSlotBytes ≤ snapshot.appSlotBytes) && snapshot.rollbackAvailable &&
    decide (manifest.minimumReadable ≤ snapshot.settingsSchemaVersion) &&
    decide (snapshot.settingsSchemaVersion ≤ manifest.maximumReadable)

/-- `admitFirmwarePackage`. -/
def admitFirmwarePackage (crypto : CapabilityCrypto)
    (firmwarePackage : Option (List (CodeUnits × PackageValue))) (trustedKeys : List JsValue)
    (snapshot : BitaxeDeviceSnapshot) : Except FirmwareFailure (FirmwareManifest × List UInt8) := do
  let admitted ← parseFirmwarePackage parseUrl firmwarePackage
  let trustedKeySnapshot ← trustedKeys.mapM parseUpdateAuthorityKey
  let (header, payload, signature) ← parseCompactJws admitted.signature
  let headerBytes ← orThrow .signature (decodeBase64Url header 512)
  let record ← parseJsonRecord headerBytes
  let kid ← firmwareKeyId record
  let key ← orThrow .signature (matchingKey trustedKeySnapshot kid)
  let payloadBytes ← orThrow .signature (decodeBase64Url payload 130000)
  throwIf (TextDecoder.decode payloadBytes ≠
    String.ofList (canonicalJson admitted.manifest.toJs)) .signature
  let signatureBytes ← orThrow .signature (decodeBase64Url signature 86)
  let valid ← orThrow .platform (crypto.verify key signatureBytes
    (CodeUnits.utf8 (header ++ 46 :: payload)))
  throwIf (valid = false) .signature
  throwIf (sha256Base64UrlBytes crypto.sha256 admitted.image ≠ admitted.manifest.imageSha256)
    .digest
  throwIf (admitted.manifest.compatible snapshot = false) .incompatible
  return (admitted.manifest, admitted.image)

end Packages

end WorkGate
