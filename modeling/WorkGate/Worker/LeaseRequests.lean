/-
# Work Lease requests (web/worker-controller-semantics.ts, web/worker-lease-authorization.ts)

A start or a renewal of a Work Lease as it is read out of untrusted data, before an authorization
is attached to it, and the data it is written as again.  Every failure is one and the same error
to the caller, so reading gives an `Option`.
-/

import WorkGate.Library.Base64
import WorkGate.Library.Urls
import WorkGate.Worker.Admission
import WorkGate.Worker.CanonicalJson

namespace WorkGate

open WorkGate.Library

/-! ## Records and their fields -/

/-- An object with these members. -/
def jsRecord (members : List (String × JsValue)) : JsValue :=
  .object (members.map (Prod.map CodeUnits.ofString id))

/-- A text of characters as data. -/
def jsText (text : String) : JsValue := .string (CodeUnits.ofString text)

def jsNatural (value : ℕ) : JsValue := .number (.natural value)

/-- `value[key]` of a record. -/
def fieldOf (members : List (CodeUnits × JsValue)) (key : String) : JsValue :=
  (members.lookup (CodeUnits.ofString key)).getD .undefined

/-- `Object.hasOwn`. -/
def hasField (members : List (CodeUnits × JsValue)) (key : String) : Bool :=
  (members.lookup (CodeUnits.ofString key)).isSome

def isUndefined : JsValue → Bool
  | .undefined => true
  | _ => false

/-- `record`, `serialRecord`: an object that is no array. -/
def serialRecord : JsValue → Option (List (CodeUnits × JsValue))
  | .object members => some members
  | _ => none

/-- `exactRecord`: every required key is there and no key that is neither required nor optional. -/
def exactRecord (value : JsValue) (required optional : List String) :
    Option (List (CodeUnits × JsValue)) := do
  let members ← serialRecord value
  guard (required.all (hasField members))
  guard (members.all fun member =>
    (required ++ optional).any fun key => CodeUnits.ofString key == member.1)
  return members

/-- `exactSerialRecord`: as many keys as required, and these are there. -/
def exactSerialRecord (value : JsValue) (keys : List String) :
    Option (List (CodeUnits × JsValue)) := do
  let members ← serialRecord value
  guard (members.length = keys.length)
  guard (keys.all (hasField members))
  return members

/-- `requiredString`. -/
def requiredString : JsValue → Option CodeUnits
  | .string units => some units
  | _ => none

/-- A string in which no surrogate stands alone, as every pattern of characters needs it. -/
def plainText (value : JsValue) : Option String := requiredString value >>= CodeUnits.maybeText

/-- The string `value` is compared with. -/
def isText (value : JsValue) (text : String) : Bool :=
  requiredString value == some (CodeUnits.ofString text)

/-- `requiredNumber`; a number that is no natural one fails every check it is put to. -/
def requiredNatural : JsValue → Option ℕ
  | .number (.natural value) => some value
  | _ => none

/-! ## Texts of a grant -/

/-- `identifier`, `validIdentifier`: up to 128 letters, digits, dashes and underscores. -/
def parseIdentifier (value : JsValue) : Option String :=
  (plainText value).filter validLeaseId

/-- `digest`. -/
def parseDigest (value : JsValue) : Option String := (plainText value).filter isDigest

/-- `validSecret`: one to 512 code units. -/
def validSecret (units : CodeUnits) : Bool := 0 < units.length && units.length ≤ 512

/-- `decodeBase64Url`. -/
def decodeBase64Url (units : CodeUnits) (maximumCharacters : ℕ) : Option (List UInt8) := do
  guard (units.length ≠ 0 ∧ units.length ≤ maximumCharacters ∧ units.length % 4 ≠ 1)
  let text ← CodeUnits.maybeText units
  guard (text.toList.all isOpaqueIdCharacter)
  Base64Url.decode text

/-- The id of an attempt or an allowance: sixteen bytes in their one spelling. -/
def parseByteId (value : JsValue) : Option String := do
  let text ← plainText value
  let bytes ← decodeBase64Url (CodeUnits.ofString text) 22
  guard (bytes.length = 16 ∧ Base64Url.encode bytes = text)
  return text

/-- `validStratumEndpoint`.  A special scheme and a text without an authority, which are not read
here, have another protocol or no host name. -/
def validStratumEndpoint (endpoint : CodeUnits) : Bool :=
  match ParsedUrl.parse ((CodeUnits.pieces endpoint).map CodeUnits.Piece.character) with
  | none => false
  | some url =>
      url.scheme = "stratum+tcp".toList && !url.host.isEmpty && url.username.isEmpty &&
        url.password.isEmpty && url.maybePort.any (0 < ·) && url.segments = [[]] &&
        url.query.isEmpty && url.fragment.isEmpty

/-! ## Stratum credentials -/

def workerV2StandardProfile : String := "bwg-worker-stratum-v2-standard/0.1"

/-- Private signed runtime input. -/
structure WorkerV2Stratum where
  endpoint : String
  authorityPublicKey : String
  userIdentity : String
  deriving DecidableEq

/-- The credentials of a grant, of either protocol version. -/
inductive WorkerStratum
  | v1 (endpoint username password : CodeUnits) (maybeSuggestedDifficulty : Option ℕ)
  | v2 (stratum : WorkerV2Stratum)
  deriving DecidableEq

/-- A decimal number of at most three digits without a leading zero. -/
def maybeOctet (digits : List Char) : Option ℕ :=
  if digits.all Char.isDigit ∧ digits ≠ [] ∧ digits.length ≤ 3 ∧
      (digits.head? = some '0' → digits = ['0']) then
    some (Nat.ofDigitChars 10 digits 0)
  else none

/-- `noisePrivateIpv4`. -/
def noisePrivateIpv4 (host : List Char) : Bool :=
  match (host.splitOn '.').mapM maybeOctet with
  | some [a, b, c, d] =>
      decide (a ≤ 255 ∧ b ≤ 255 ∧ c ≤ 255 ∧ d ≤ 255) &&
        decide (a = 10 ∨ a = 172 ∧ 16 ≤ b ∧ b ≤ 31 ∨ a = 192 ∧ b = 168)
  | _ => false

/-- `^stratum\+tcp:\/\/([^/:]+):([1-9][0-9]{0,4})\/$`, with the address and the port in range. -/
def validV2Endpoint (endpoint : String) : Bool :=
  match "stratum+tcp://".toList.isPrefixOf? endpoint.toList with
  | none => false
  | some rest =>
    let host := rest.takeWhile fun character => character ≠ '/' && character ≠ ':'
    match rest.dropWhile fun character => character ≠ '/' && character ≠ ':' with
    | ':' :: rest =>
        let port := rest.takeWhile Char.isDigit
        rest.dropWhile Char.isDigit = ['/'] && port ≠ [] && port.head? ≠ some '0' &&
          port.length ≤ 5 && Nat.ofDigitChars 10 port 0 ≤ 65535 && noisePrivateIpv4 host
    | _ => false

/-- `serialNonce`: 42 characters and one that leaves no bits over. -/
def serialNonce (text : String) : Bool :=
  isDigest text && text.toList.getLast?.any (· ∈ "AEIMQUYcgkosw048".toList)

/-- The identity is text that its bytes spell again. -/
def validUserIdentity (units : CodeUnits) : Bool :=
  0 ∉ units && 1 ≤ (CodeUnits.utf8 units).length && (CodeUnits.utf8 units).length ≤ 255 &&
    (decodeUtf8 (CodeUnits.utf8 units)).map CodeUnits.ofString = some units

/-- `parseWorkerV2Stratum`. -/
def parseWorkerV2Stratum (value : JsValue) : Option WorkerV2Stratum := do
  let members ← exactSerialRecord value
    ["profile", "endpoint", "authorityPublicKey", "userIdentity"]
  guard (isText (fieldOf members "profile") workerV2StandardProfile)
  let endpoint ← plainText (fieldOf members "endpoint")
  let identity ← requiredString (fieldOf members "userIdentity")
  guard (validV2Endpoint endpoint)
  guard (validUserIdentity identity)
  let userIdentity ← CodeUnits.maybeText identity
  let authorityPublicKey ← (plainText (fieldOf members "authorityPublicKey")).filter serialNonce
  return { endpoint, authorityPublicKey, userIdentity }

/-- The part of `parseWorkerLeaseGrant` that reads the credentials. -/
def parseWorkerStratum (value : JsValue) : Option WorkerStratum := do
  let raw ← serialRecord value
  if hasField raw "profile" then
    let stratum ← parseWorkerV2Stratum value
    guard (validStratumEndpoint (CodeUnits.ofString stratum.endpoint))
    return .v2 stratum
  else
    let members ← exactRecord value ["endpoint", "username", "password"] ["suggestedDifficulty"]
    let maybeSuggestedDifficulty ←
      if hasField members "suggestedDifficulty" then
        ((requiredNatural (fieldOf members "suggestedDifficulty")).filter (· ≤ 65535)).map some
      else some none
    let endpoint ← requiredString (fieldOf members "endpoint")
    let username ← requiredString (fieldOf members "username")
    let password ← requiredString (fieldOf members "password")
    guard (validSecret username && validSecret password)
    guard (validStratumEndpoint endpoint)
    return .v1 endpoint username password maybeSuggestedDifficulty

/-! ## Qualification modes -/

structure WorkerAcceptanceCampaign where
  id : String
  window : ℕ
  maximumActiveMilliseconds : ℕ
  deriving DecidableEq

inductive QualificationAttemptPurpose
  | diagnostic
  | normal
  | foregroundLoss
  | heartbeatLoss
  deriving DecidableEq

structure WorkerQualificationAttempt where
  id : String
  ordinal : ℕ
  purpose : QualificationAttemptPurpose
  maximumActiveMilliseconds : ℕ
  deriving DecidableEq

structure WorkerSoakAllowance where
  id : String
  ordinal : ℕ
  deriving DecidableEq

def soakMaximumActiveMilliseconds : ℕ := 600000

/-- `^[A-Za-z0-9_-]{21}[AQgw]$`. -/
def validCampaignId (text : String) : Bool :=
  validIdentifier 22 22 text && text.toList.getLast?.any (· ∈ "AQgw".toList)

/-- `parseAcceptanceCampaign`. -/
def parseAcceptanceCampaign (value : JsValue) : Option WorkerAcceptanceCampaign := do
  let members ← exactRecord value ["id", "window", "maximumActiveMilliseconds"] []
  let id ← (plainText (fieldOf members "id")).filter validCampaignId
  let window ← (requiredNatural (fieldOf members "window")).filter (· ≤ 2)
  let maximumActiveMilliseconds ← requiredNatural (fieldOf members "maximumActiveMilliseconds")
  guard (maximumActiveMilliseconds = if window = 0 then 180000 else 30000)
  return { id, window, maximumActiveMilliseconds }

def QualificationAttemptPurpose.text : QualificationAttemptPurpose → String
  | .diagnostic => "diagnostic"
  | .normal => "normal"
  | .foregroundLoss => "foreground_loss"
  | .heartbeatLoss => "heartbeat_loss"

/-- `purpose`. -/
def parsePurpose (value : JsValue) : Option QualificationAttemptPurpose :=
  [.diagnostic, .normal, .foregroundLoss, .heartbeatLoss].find?
    fun purpose => isText value purpose.text

/-- `integer(value, 1, 0xffffffff)`. -/
def parseOrdinal (value : JsValue) : Option ℕ :=
  (requiredNatural value).filter fun ordinal => 1 ≤ ordinal && ordinal ≤ 0xffffffff

/-- `parseWorkerQualificationAttempt`. -/
def parseWorkerQualificationAttempt (value : JsValue) : Option WorkerQualificationAttempt := do
  let members ← exactSerialRecord value
    ["schema", "id", "ordinal", "purpose", "maximumActiveMilliseconds"]
  guard (isText (fieldOf members "schema") "worker-qualification-attempt-v1")
  let id ← parseByteId (fieldOf members "id")
  let purpose ← parsePurpose (fieldOf members "purpose")
  let maximumActiveMilliseconds ← requiredNatural (fieldOf members "maximumActiveMilliseconds")
  guard (maximumActiveMilliseconds = if purpose = .normal then 180000 else 30000)
  let ordinal ← parseOrdinal (fieldOf members "ordinal")
  return { id, ordinal, purpose, maximumActiveMilliseconds }

/-- `parseWorkerSoakAllowance`. -/
def parseWorkerSoakAllowance (value : JsValue) : Option WorkerSoakAllowance := do
  let members ← exactSerialRecord value ["schema", "id", "ordinal", "maximumActiveMilliseconds"]
  guard (isText (fieldOf members "schema") "worker-soak-allowance-v2")
  let id ← parseByteId (fieldOf members "id")
  let maximumActiveMilliseconds ← requiredNatural (fieldOf members "maximumActiveMilliseconds")
  guard (maximumActiveMilliseconds = soakMaximumActiveMilliseconds)
  let ordinal ← parseOrdinal (fieldOf members "ordinal")
  return { id, ordinal }

/-! ## Grants and renewals -/

def workerControllerProtocolVersion : String := "bwg-worker-controller/0.4"

/-- Exclusive upper bound for one device Work Lease duration. -/
def maximumWorkLeaseMilliseconds : ℕ := 60000

/-- Latest recommended renewal point within a still-valid Work Lease. -/
def maximumRenewAfterMilliseconds : ℕ := 20000

/-- What `parseLeaseWindow` returns beside the protocol version. -/
structure DeviceLeaseWindow where
  durationMilliseconds : ℕ
  renewAfterMilliseconds : ℕ
  deriving DecidableEq

/-- `parseLeaseWindow`. -/
def parseLeaseWindow (members : List (CodeUnits × JsValue)) : Option DeviceLeaseWindow := do
  guard (isText (fieldOf members "protocolVersion") workerControllerProtocolVersion)
  let durationMilliseconds ← requiredNatural (fieldOf members "durationMilliseconds")
  let renewAfterMilliseconds ← requiredNatural (fieldOf members "renewAfterMilliseconds")
  guard (0 < durationMilliseconds ∧ durationMilliseconds ≤ maximumWorkLeaseMilliseconds)
  guard (0 < renewAfterMilliseconds ∧ renewAfterMilliseconds ≤ maximumRenewAfterMilliseconds ∧
    renewAfterMilliseconds < durationMilliseconds)
  return { durationMilliseconds, renewAfterMilliseconds }

/-- Start request shape before the opaque authorization is attached. -/
structure AuthorizationlessWorkerLeaseGrant where
  window : DeviceLeaseWindow
  maybeQualificationAttempt : Option WorkerQualificationAttempt
  maybeAcceptanceCampaign : Option WorkerAcceptanceCampaign
  maybeSoakAllowance : Option WorkerSoakAllowance
  leaseId : String
  challengeId : String
  stratum : WorkerStratum
  deriving DecidableEq

/-- Configuration for starting one bounded device lease. -/
structure WorkerLeaseGrant extends AuthorizationlessWorkerLeaseGrant where
  authorization : CodeUnits

/-- Renew request shape before the opaque authorization is attached. -/
structure AuthorizationlessWorkerLeaseRenewal where
  window : DeviceLeaseWindow
  leaseId : String
  deriving DecidableEq

/-- Extension for the exact active device lease. -/
structure WorkerLeaseRenewal extends AuthorizationlessWorkerLeaseRenewal where
  authorization : CodeUnits

/-- A field that may be left out. -/
def parseOptional {α : Type} (parse : JsValue → Option α) (value : JsValue) : Option (Option α) :=
  if isUndefined value then some none else (parse value).map some

/-- `validSoakShape`. -/
def validSoakShape (grant : AuthorizationlessWorkerLeaseGrant) : Bool :=
  match grant.maybeSoakAllowance, grant.stratum with
  | none, _ => true
  | some _, .v2 _ => false
  | some _, .v1 .. =>
      grant.window.durationMilliseconds = 60000 && grant.window.renewAfterMilliseconds = 20000

def grantModes : List String := ["acceptanceCampaign", "qualificationAttempt", "soakAllowance"]

/-- `parseWorkerLeaseGrant`. -/
def parseWorkerLeaseGrant (value : JsValue) : Option WorkerLeaseGrant := do
  let members ← exactRecord value ["protocolVersion", "leaseId", "challengeId", "authorization",
    "durationMilliseconds", "renewAfterMilliseconds", "stratum"] grantModes
  guard ((grantModes.filter fun mode => !isUndefined (fieldOf members mode)).length ≤ 1)
  let stratum ← parseWorkerStratum (fieldOf members "stratum")
  let window ← parseLeaseWindow members
  let maybeQualificationAttempt ←
    parseOptional parseWorkerQualificationAttempt (fieldOf members "qualificationAttempt")
  let maybeAcceptanceCampaign ←
    parseOptional parseAcceptanceCampaign (fieldOf members "acceptanceCampaign")
  let maybeSoakAllowance ←
    parseOptional parseWorkerSoakAllowance (fieldOf members "soakAllowance")
  let leaseId ← parseIdentifier (fieldOf members "leaseId")
  let challengeId ← parseIdentifier (fieldOf members "challengeId")
  let authorization ← requiredString (fieldOf members "authorization")
  guard (validSecret authorization)
  let grant : AuthorizationlessWorkerLeaseGrant := {
    window, maybeQualificationAttempt, maybeAcceptanceCampaign, maybeSoakAllowance, leaseId,
    challengeId, stratum }
  guard (validSoakShape grant)
  return { grant with authorization }

/-- `parseWorkerLeaseRenewal`. -/
def parseWorkerLeaseRenewal (value : JsValue) : Option WorkerLeaseRenewal := do
  let members ← exactRecord value
    ["protocolVersion", "leaseId", "authorization", "durationMilliseconds",
      "renewAfterMilliseconds"] []
  let window ← parseLeaseWindow members
  let leaseId ← parseIdentifier (fieldOf members "leaseId")
  let authorization ← requiredString (fieldOf members "authorization")
  guard (validSecret authorization)
  return { window, leaseId, authorization }

/-- What stands in for the authorization while a request is read without it. -/
def separateAuthorization : CodeUnits × JsValue :=
  (CodeUnits.ofString "authorization", jsText "authorization-is-verified-separately")

/-- `authorizationlessGrant`. -/
def authorizationlessGrant (value : JsValue) : Option AuthorizationlessWorkerLeaseGrant := do
  let members ← exactRecord value ["protocolVersion", "leaseId", "challengeId",
    "durationMilliseconds", "renewAfterMilliseconds", "stratum"] grantModes
  let parsed ← parseWorkerLeaseGrant (.object (members ++ [separateAuthorization]))
  return parsed.toAuthorizationlessWorkerLeaseGrant

/-- `authorizationlessRenewal`. -/
def authorizationlessRenewal (value : JsValue) : Option AuthorizationlessWorkerLeaseRenewal := do
  let members ← exactRecord value
    ["protocolVersion", "leaseId", "durationMilliseconds", "renewAfterMilliseconds"] []
  let parsed ← parseWorkerLeaseRenewal (.object (members ++ [separateAuthorization]))
  return parsed.toAuthorizationlessWorkerLeaseRenewal

/-- A request of either kind. -/
inductive AuthorizationlessRequest
  | start (grant : AuthorizationlessWorkerLeaseGrant)
  | renew (renewal : AuthorizationlessWorkerLeaseRenewal)
  deriving DecidableEq

/-- Complete immutable input bound by a Work Lease authorization. -/
structure WorkerLeaseAuthorizationInput where
  activeChallengeId : String
  controlSessionBindingSha256 : String
  request : AuthorizationlessRequest
  deriving DecidableEq

/-- The operation is the kind of the request. -/
def WorkerLeaseAuthorizationInput.operation (input : WorkerLeaseAuthorizationInput) :
    WorkerLeaseAuthorizationOperation :=
  match input.request with
  | .start _ => .start
  | .renew _ => .renew

def WorkerLeaseAuthorizationOperation.text : WorkerLeaseAuthorizationOperation → String
  | .start => "start"
  | .renew => "renew"

/-- `operation`. -/
def parseOperation (value : JsValue) : Option WorkerLeaseAuthorizationOperation :=
  [.start, .renew].find? fun operation => isText value operation.text

/-- `parseAuthorizationInput`. -/
def parseAuthorizationInput (value : JsValue) : Option WorkerLeaseAuthorizationInput := do
  let members ← exactRecord value
    ["operation", "activeChallengeId", "controlSessionBindingSha256", "request"] []
  let operation ← parseOperation (fieldOf members "operation")
  let activeChallengeId ← parseIdentifier (fieldOf members "activeChallengeId")
  let controlSessionBindingSha256 ← parseDigest (fieldOf members "controlSessionBindingSha256")
  match operation with
  | .start =>
      let grant ← authorizationlessGrant (fieldOf members "request")
      guard (grant.challengeId = activeChallengeId)
      return { activeChallengeId, controlSessionBindingSha256, request := .start grant }
  | .renew =>
      let renewal ← authorizationlessRenewal (fieldOf members "request")
      return { activeChallengeId, controlSessionBindingSha256, request := .renew renewal }

/-! ## Requests as data -/

/-- A member that is left out where there is nothing to say. -/
def optionalMember {α : Type} (key : String) (toJs : α → JsValue) (maybe : Option α) :
    List (String × JsValue) :=
  maybe.toList.map fun value => (key, toJs value)

def WorkerStratum.toJs : WorkerStratum → JsValue
  | .v1 endpoint username password maybeSuggestedDifficulty =>
      jsRecord ([("endpoint", .string endpoint), ("username", .string username),
        ("password", .string password)] ++
        optionalMember "suggestedDifficulty" jsNatural maybeSuggestedDifficulty)
  | .v2 stratum =>
      jsRecord [("profile", jsText workerV2StandardProfile), ("endpoint", jsText stratum.endpoint),
        ("authorityPublicKey", jsText stratum.authorityPublicKey),
        ("userIdentity", jsText stratum.userIdentity)]

def WorkerQualificationAttempt.toJs (attempt : WorkerQualificationAttempt) : JsValue :=
  jsRecord [("schema", jsText "worker-qualification-attempt-v1"), ("id", jsText attempt.id),
    ("ordinal", jsNatural attempt.ordinal), ("purpose", jsText attempt.purpose.text),
    ("maximumActiveMilliseconds", jsNatural attempt.maximumActiveMilliseconds)]

def WorkerAcceptanceCampaign.toJs (campaign : WorkerAcceptanceCampaign) : JsValue :=
  jsRecord [("id", jsText campaign.id), ("window", jsNatural campaign.window),
    ("maximumActiveMilliseconds", jsNatural campaign.maximumActiveMilliseconds)]

def WorkerSoakAllowance.toJs (allowance : WorkerSoakAllowance) : JsValue :=
  jsRecord [("schema", jsText "worker-soak-allowance-v2"), ("id", jsText allowance.id),
    ("ordinal", jsNatural allowance.ordinal),
    ("maximumActiveMilliseconds", jsNatural soakMaximumActiveMilliseconds)]

/-- The members that `parseLeaseWindow` returns. -/
def DeviceLeaseWindow.members (window : DeviceLeaseWindow) : List (String × JsValue) :=
  [("protocolVersion", jsText workerControllerProtocolVersion),
    ("durationMilliseconds", jsNatural window.durationMilliseconds),
    ("renewAfterMilliseconds", jsNatural window.renewAfterMilliseconds)]

def AuthorizationlessRequest.toJs : AuthorizationlessRequest → JsValue
  | .start grant =>
      jsRecord (grant.window.members ++
        optionalMember "qualificationAttempt" WorkerQualificationAttempt.toJs
          grant.maybeQualificationAttempt ++
        optionalMember "acceptanceCampaign" WorkerAcceptanceCampaign.toJs
          grant.maybeAcceptanceCampaign ++
        optionalMember "soakAllowance" WorkerSoakAllowance.toJs grant.maybeSoakAllowance ++
        [("leaseId", jsText grant.leaseId), ("challengeId", jsText grant.challengeId),
          ("stratum", grant.stratum.toJs)])
  | .renew renewal =>
      jsRecord (renewal.window.members ++ [("leaseId", jsText renewal.leaseId)])

end WorkGate
