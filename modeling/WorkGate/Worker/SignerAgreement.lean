/-
# Both signers sign the same bytes (src/work_lease_authorization.rs,
web/worker-lease-authorization.ts)

The structs the Authority signs declare their fields in the order of the canonical text, so what it
signs are the bytes the TypeScript signer signs for the same grant or renewal.  Therefore a Worker
that trusts the Authority's key accepts every authorization the Authority issues.
-/

import WorkGate.Library.Ascii
import WorkGate.Worker.AuthoritySigner
import WorkGate.Worker.LeaseGuarantees

namespace WorkGate.WorkLeaseAuthority

open WorkGate.Library

/-! ## What a grant and a renewal bind -/

/-- The credentials as the Worker reads them. -/
def WorkerStratumV1.read (stratum : WorkerStratumV1) : WorkerStratum :=
  .v1 (CodeUnits.ofString stratum.endpoint) (CodeUnits.ofString stratum.username)
    (CodeUnits.ofString stratum.password) none

def leaseWindow : DeviceLeaseWindow where
  durationMilliseconds := workerLeaseDurationMilliseconds
  renewAfterMilliseconds := workerLeaseRenewAfterMilliseconds

/-- What a grant is signed for. -/
def grantInput (leaseId challengeId : String) (stratum : WorkerStratumV1)
    (controlSession : ControlSessionBinding) : WorkerLeaseAuthorizationInput where
  activeChallengeId := challengeId
  controlSessionBindingSha256 := controlSession.text
  request := .start {
    window := leaseWindow, maybeQualificationAttempt := none, maybeAcceptanceCampaign := none,
    maybeSoakAllowance := none, leaseId, challengeId, stratum := stratum.read }

/-- What a renewal is signed for. -/
def renewalInput (leaseId activeChallengeId : String) (controlSession : ControlSessionBinding) :
    WorkerLeaseAuthorizationInput where
  activeChallengeId := activeChallengeId
  controlSessionBindingSha256 := controlSession.text
  request := .renew { window := leaseWindow, leaseId }

/-- The call of the TypeScript signer that signs the same. -/
def WorkLeaseAuthoritySigner.signing (signer : WorkLeaseAuthoritySigner)
    (input : WorkerLeaseAuthorizationInput) (sequence : AuthorizationSequence) :
    AdmittedSigning where
  input := input
  sequence := sequence.value
  kid := signer.kid
  issuer := signer.issuer
  audience := workerControllerProtocolVersion

/-! ## Declared order is canonical order -/

/-- A struct is the canonical text of a value whose canonical form has its fields. -/
theorem serdeStruct_eq_canonicalJson {value : JsValue} {fields : List (String × JsValue)}
    (h : canonical value = jsRecord fields) :
    serdeStruct (fields.map fun field => (field.1, JsonText.print field.2)) =
      canonicalJson value := by
  rw [canonicalJson_eq_print, h, jsRecord]
  exact serdeStruct_eq_print fields

theorem grantRequest_eq (leaseId challengeId : String) (stratum : WorkerStratumV1)
    (controlSession : ControlSessionBinding) :
    grantRequest challengeId leaseId stratum =
      canonicalJson (grantInput leaseId challengeId stratum controlSession).request.toJs := by
  have hstratum : stratum.serialize = JsonText.print (canonical stratum.read.toJs) := by
    rw [← canonicalJson_eq_print, ← serdeStruct_eq_canonicalJson
      (show canonical stratum.read.toJs = jsRecord [("endpoint", jsText stratum.endpoint),
        ("password", jsText stratum.password), ("username", jsText stratum.username)] from rfl)]
    simp only [WorkerStratumV1.serialize, jsText, serdeString_eq_print, List.map_cons, List.map_nil]
  rw [← serdeStruct_eq_canonicalJson
    (show canonical (grantInput leaseId challengeId stratum controlSession).request.toJs =
      jsRecord [("challengeId", jsText challengeId),
        ("durationMilliseconds", jsNatural workerLeaseDurationMilliseconds),
        ("leaseId", jsText leaseId),
        ("protocolVersion", jsText workerControllerProtocolVersion),
        ("renewAfterMilliseconds", jsNatural workerLeaseRenewAfterMilliseconds),
        ("stratum", canonical stratum.read.toJs)] from rfl)]
  simp only [grantRequest, hstratum, jsText, jsNatural, serdeString_eq_print,
    serdeUnsigned_eq_print, List.map_cons, List.map_nil]

theorem renewalRequest_eq (leaseId activeChallengeId : String)
    (controlSession : ControlSessionBinding) :
    renewalRequest leaseId =
      canonicalJson (renewalInput leaseId activeChallengeId controlSession).request.toJs := by
  rw [← serdeStruct_eq_canonicalJson
    (show canonical (renewalInput leaseId activeChallengeId controlSession).request.toJs =
      jsRecord [("durationMilliseconds", jsNatural workerLeaseDurationMilliseconds),
        ("leaseId", jsText leaseId),
        ("protocolVersion", jsText workerControllerProtocolVersion),
        ("renewAfterMilliseconds", jsNatural workerLeaseRenewAfterMilliseconds)] from rfl)]
  simp only [renewalRequest, jsText, jsNatural, serdeString_eq_print, serdeUnsigned_eq_print,
    List.map_cons, List.map_nil]

theorem requestDigestInput_eq (signer : WorkLeaseAuthoritySigner)
    (input : WorkerLeaseAuthorizationInput) :
    requestDigestInput signer input.operation.text input.activeChallengeId
        (canonicalJson input.request.toJs) =
      canonicalJson (input.bound signer.issuer workerControllerProtocolVersion).toJs := by
  have hcanonical : canonical (input.bound signer.issuer workerControllerProtocolVersion).toJs =
      jsRecord [("activeChallengeId", jsText input.activeChallengeId),
        ("audience", jsText workerControllerProtocolVersion), ("issuer", jsText signer.issuer),
        ("operation", jsText input.operation.text),
        ("profile", jsText workerLeaseAuthorizationProfile),
        ("request", canonical input.request.toJs)] := by
    obtain ⟨activeChallengeId, binding, request⟩ := input
    cases request with
    | start grant => rfl
    | renew renewal => rfl
  rw [← serdeStruct_eq_canonicalJson hcanonical, canonicalJson_eq_print]
  simp only [requestDigestInput, jsText, serdeString_eq_print, List.map_cons, List.map_nil]

theorem headerText_eq (kid : String) : headerText kid = canonicalJson (headerToJs kid) := by
  rw [← serdeStruct_eq_canonicalJson
    (show canonical (headerToJs kid) = jsRecord [("alg", jsText "Ed25519"), ("kid", jsText kid),
      ("typ", jsText workerLeaseAuthorizationType)] from rfl)]
  simp only [headerText, jsText, serdeString_eq_print, List.map_cons, List.map_nil]

theorem payloadText_eq (payload : AuthorizationPayload) :
    payloadText payload.controlSessionBindingSha256 payload.operation.text payload.requestSha256
      payload.sequence = canonicalJson payload.toJs := by
  rw [← serdeStruct_eq_canonicalJson
    (show canonical payload.toJs = jsRecord
      [("controlSessionBindingSha256", jsText payload.controlSessionBindingSha256),
        ("operation", jsText payload.operation.text),
        ("requestSha256", jsText payload.requestSha256),
        ("sequence", jsText payload.sequence)] from rfl)]
  simp only [payloadText, jsText, serdeString_eq_print, List.map_cons, List.map_nil]

/-! ## What the constructors keep -/

theorem fields_of_fromSeedBase64url {kid issuer seedBase64url : String}
    {signer : WorkLeaseAuthoritySigner}
    (h : WorkLeaseAuthoritySigner.fromSeedBase64url kid issuer seedBase64url = .ok signer) :
    signer.kid = kid ∧ signer.issuer = issuer ∧ Base64Url.encode signer.seed = seedBase64url := by
  rw [WorkLeaseAuthoritySigner.fromSeedBase64url] at h
  split at h
  · split at h
    · split at h
      · cases h
      · split at h
        · next hseed =>
            cases h
            exact ⟨rfl, rfl, hseed.1⟩
        · cases h
    · cases h
  · cases h

theorem text_of_tryFrom {value : String} {controlSession : ControlSessionBinding}
    (h : ControlSessionBinding.tryFrom value = .ok controlSession) :
    controlSession.text = value := by
  rw [ControlSessionBinding.tryFrom] at h
  split at h
  · cases h
    rfl
  · cases h

theorem value_of_tryFrom {value : UInt64} {sequence : AuthorizationSequence}
    (h : AuthorizationSequence.tryFrom value = .ok sequence) : sequence.value = value.toNat := by
  rw [AuthorizationSequence.tryFrom] at h
  split at h
  · cases h
  · cases h
    rfl

theorem read_of_new {endpoint username password : String} {stratum : WorkerStratumV1}
    (h : WorkerStratumV1.new endpoint username password = .ok stratum) :
    stratum.read = .v1 (CodeUnits.ofString endpoint) (CodeUnits.ofString username)
      (CodeUnits.ofString password) none := by
  rw [WorkerStratumV1.new] at h
  split at h
  · cases h
    rfl
  · cases h

/-! ## One signing input -/

section Signing

variable {ring : RingCrypto} {crypto : WebCrypto} {signer : WorkLeaseAuthoritySigner}
  {input : WorkerLeaseAuthorizationInput} {controlSession : ControlSessionBinding}
  {sequence : AuthorizationSequence}

/-- The payload of both signers is one. -/
theorem payload_eq (hsha256 : crypto.sha256 = ring.sha256)
    (hbinding : input.controlSessionBindingSha256 = controlSession.text) :
    signer.payload ring input.operation.text input.activeChallengeId
        (canonicalJson input.request.toJs) controlSession sequence =
      canonicalJson ((signer.signing input sequence).payload crypto).toJs := by
  rw [← payloadText_eq, WorkLeaseAuthoritySigner.payload, requestDigestInput_eq, ← hsha256,
    ← hbinding]
  rfl

/-- The Authority signs the bytes the TypeScript signer signs for the same input. -/
theorem sign_eq (hsha256 : crypto.sha256 = ring.sha256)
    (hbinding : input.controlSessionBindingSha256 = controlSession.text) :
    signer.sign ring input.operation.text input.activeChallengeId
        (canonicalJson input.request.toJs) controlSession sequence =
      let signingInput := (signer.signing input sequence).signingInput crypto
      let compact := signingInput ++ "." ++
        Base64Url.encode (ring.sign signer.seed (asBytes signingInput))
      if maximumWorkerLeaseAuthorizationBytes < (asBytes compact).length then
        .error .authorizationTooLarge
      else .ok compact := by
  rw [WorkLeaseAuthoritySigner.sign, payload_eq hsha256 hbinding, headerText_eq]
  rfl

end Signing

/-! ## Every issued authorization is accepted -/

/-- Bytes and characters of such a text are as many. -/
theorem utf8ByteSize_of_base64url {text : String} (h : isBase64urlText text = true) :
    text.utf8ByteSize = text.toList.length := by
  apply utf8ByteSize_of_ascii
  intro character hmem
  exact toNat_lt_of_isOpaqueIdCharacter (List.all_eq_true.mp h character hmem)

/-- Both sides take the same key ids. -/
theorem validKeyId_eq (kid : String) : validKeyId kid = WorkGate.validKeyId kid := by
  by_cases hcharacters : isBase64urlText kid = true
  · rw [validKeyId, utf8ByteSize_of_base64url hcharacters]
    rfl
  · have hrefused : isBase64urlText kid = false := by simpa using hcharacters
    have hall : kid.toList.all isOpaqueIdCharacter = false := hrefused
    rw [validKeyId, WorkGate.validKeyId, WorkGate.validIdentifier, hrefused, hall, Bool.and_false,
      Bool.and_false]

theorem isDigest_controlSession (controlSession : ControlSessionBinding) :
    isDigest controlSession.text = true := by
  obtain ⟨text, hlength, hcharacters⟩ := controlSession
  rw [utf8ByteSize_of_base64url hcharacters] at hlength
  have hall : text.toList.all isOpaqueIdCharacter = true := hcharacters
  rw [isDigest, WorkGate.validIdentifier, hlength, hall]
  rfl

/-- A Worker that trusts the Authority: its issuer, and a key of its key id that verifies what its
seed signs. -/
structure Trusts (ring : RingCrypto) (crypto : WebCrypto) (trust : WorkLeaseAuthorityTrust)
    (signer : WorkLeaseAuthoritySigner) : Prop where
  issuer : trust.issuer = signer.issuer
  audience : trust.audience = workerControllerProtocolVersion
  paired : ∃ key ∈ trust.keys, key.kid = signer.kid ∧ ∀ message,
    crypto.verify key (ring.sign signer.seed message) message = some true

section Acceptance

variable {ring : RingCrypto} {crypto : WebCrypto} {signer : WorkLeaseAuthoritySigner}
  {controlSession : ControlSessionBinding} {sequence : AuthorizationSequence}
  {inputValue trustValue : JsValue} {trust : WorkLeaseAuthorityTrust}
  (hsha256 : crypto.sha256 = ring.sha256)
  (hdigests : ∀ bytes, (ring.sha256 bytes).length = 32)
  (hsignatures : ∀ seed message, (ring.sign seed message).length = 64)
  (htrust : parseWorkLeaseAuthorityTrust trustValue = some trust)
  (htrusts : Trusts ring crypto trust signer)

include hsha256 hdigests hsignatures htrust htrusts

theorem sign_accepted {input : WorkerLeaseAuthorizationInput} {authorization : String}
    (hbinding : input.controlSessionBindingSha256 = controlSession.text)
    (hsigned : signer.sign ring input.operation.text input.activeChallengeId
      (canonicalJson input.request.toJs) controlSession sequence = .ok authorization)
    (hinput : parseAuthorizationInput inputValue = some input) :
    verifyWorkerLeaseAuthorization crypto (jsText authorization) inputValue trustValue =
      some { keyId := signer.kid, sequence := sequence.value } := by
  rw [sign_eq hsha256 hbinding] at hsigned
  simp only at hsigned
  split at hsigned
  · cases hsigned
  next hlength =>
    rw [← Except.ok.inj hsigned]
    obtain ⟨key, hmem, hkid, hpaired⟩ := htrusts.paired
    have hheader : parseHeader (WorkGate.canonicalBytes
        (headerToJs (signer.signing input sequence).kid)) = some _ :=
      parseHeader_canonicalBytes ((validKeyId_eq _).symm.trans signer.validKid)
    have hdigest : isDigest ((signer.signing input sequence).payload crypto).requestSha256 =
        true := isDigest_encode (by rw [hsha256]; exact hdigests _)
    have hsession : isDigest ((signer.signing input sequence).payload
        crypto).controlSessionBindingSha256 = true :=
      (congrArg isDigest hbinding).trans (isDigest_controlSession controlSession)
    have hsequence : parseSequence (CodeUnits.ofString
        ((signer.signing input sequence).payload crypto).sequence) = some sequence.value := by
      have hbound := sequence.valid.2
      apply parseSequence_repr sequence.valid.1
      rw [maximumWorkerLeaseAuthorizationSequence]
      omega
    exact verify_signingInput hheader (parsePayload_canonicalBytes hsession hdigest hsequence)
      (hsignatures _ _) (Nat.le_of_not_lt hlength) hinput htrust htrusts.issuer htrusts.audience
      hmem hkid (hpaired _)

/-- A Worker accepts every grant the Authority issues, for the input it was issued for. -/
theorem signGrant_accepted {leaseId challengeId : String} {stratum : WorkerStratumV1}
    {grant : WorkerLeaseGrant}
    (hgrant : signer.signGrant ring leaseId challengeId stratum controlSession sequence =
      .ok grant)
    (hinput : parseAuthorizationInput inputValue =
      some (grantInput leaseId challengeId stratum controlSession)) :
    verifyWorkerLeaseAuthorization crypto (jsText grant.authorization) inputValue trustValue =
      some { keyId := signer.kid, sequence := sequence.value } := by
  rw [WorkLeaseAuthoritySigner.signGrant] at hgrant
  split at hgrant
  · cases hgrant
  split at hgrant
  · cases hgrant
  split at hgrant
  · cases hgrant
  next authorization hsigned =>
    cases hgrant
    rw [grantRequest_eq leaseId challengeId stratum controlSession] at hsigned
    have hinputSigned : signer.sign ring
        (grantInput leaseId challengeId stratum controlSession).operation.text
        (grantInput leaseId challengeId stratum controlSession).activeChallengeId
        (canonicalJson (grantInput leaseId challengeId stratum controlSession).request.toJs)
        controlSession sequence = .ok authorization := hsigned
    exact sign_accepted hsha256 hdigests hsignatures htrust htrusts rfl hinputSigned hinput

/-- And every renewal. -/
theorem signRenewal_accepted {leaseId activeChallengeId : String} {renewal : WorkerLeaseRenewal}
    (hrenewal : signer.signRenewal ring leaseId activeChallengeId controlSession sequence =
      .ok renewal)
    (hinput : parseAuthorizationInput inputValue =
      some (renewalInput leaseId activeChallengeId controlSession)) :
    verifyWorkerLeaseAuthorization crypto (jsText renewal.authorization) inputValue trustValue =
      some { keyId := signer.kid, sequence := sequence.value } := by
  rw [WorkLeaseAuthoritySigner.signRenewal] at hrenewal
  split at hrenewal
  · cases hrenewal
  split at hrenewal
  · cases hrenewal
  split at hrenewal
  · cases hrenewal
  next authorization hsigned =>
    cases hrenewal
    rw [renewalRequest_eq leaseId activeChallengeId controlSession] at hsigned
    have hinputSigned : signer.sign ring
        (renewalInput leaseId activeChallengeId controlSession).operation.text
        (renewalInput leaseId activeChallengeId controlSession).activeChallengeId
        (canonicalJson (renewalInput leaseId activeChallengeId controlSession).request.toJs)
        controlSession sequence = .ok authorization := hsigned
    exact sign_accepted hsha256 hdigests hsignatures htrust htrusts rfl hinputSigned hinput

end Acceptance

/-- From the texts on: a Worker of the same issuer that has the key reads the key id and the number
the Authority was given. -/
theorem issuedGrant_accepted {ring : RingCrypto} {crypto : WebCrypto}
    {kid issuer seedBase64url session leaseId challengeId endpoint username password : String}
    {number : UInt64} {signer : WorkLeaseAuthoritySigner} {controlSession : ControlSessionBinding}
    {sequence : AuthorizationSequence} {stratum : WorkerStratumV1} {grant : WorkerLeaseGrant}
    {inputValue trustValue : JsValue} {trust : WorkLeaseAuthorityTrust}
    (hsha256 : crypto.sha256 = ring.sha256)
    (hdigests : ∀ bytes, (ring.sha256 bytes).length = 32)
    (hsignatures : ∀ seed message, (ring.sign seed message).length = 64)
    (hsigner : WorkLeaseAuthoritySigner.fromSeedBase64url kid issuer seedBase64url = .ok signer)
    (hsession : ControlSessionBinding.tryFrom session = .ok controlSession)
    (hsequence : AuthorizationSequence.tryFrom number = .ok sequence)
    (hstratum : WorkerStratumV1.new endpoint username password = .ok stratum)
    (hgrant : signer.signGrant ring leaseId challengeId stratum controlSession sequence =
      .ok grant)
    (htrust : parseWorkLeaseAuthorityTrust trustValue = some trust)
    (htrusts : Trusts ring crypto trust signer)
    (hinput : parseAuthorizationInput inputValue = some {
      activeChallengeId := challengeId
      controlSessionBindingSha256 := session
      request := .start {
        window := leaseWindow, maybeQualificationAttempt := none
        maybeAcceptanceCampaign := none, maybeSoakAllowance := none, leaseId, challengeId
        stratum := .v1 (CodeUnits.ofString endpoint) (CodeUnits.ofString username)
          (CodeUnits.ofString password) none } }) :
    verifyWorkerLeaseAuthorization crypto (jsText grant.authorization) inputValue trustValue =
      some { keyId := kid, sequence := number.toNat } := by
  obtain ⟨hkid, -, -⟩ := fields_of_fromSeedBase64url hsigner
  rw [← hkid, ← value_of_tryFrom hsequence]
  apply signGrant_accepted hsha256 hdigests hsignatures htrust htrusts hgrant
  rw [hinput, grantInput, text_of_tryFrom hsession, read_of_new hstratum]

end WorkGate.WorkLeaseAuthority
