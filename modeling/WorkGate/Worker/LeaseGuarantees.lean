/-
# What a Work Lease authorization guarantees

Whatever is signed is accepted again, under the key id and the sequence it was signed with.  And
where signatures cannot be forged and digests do not collide, whatever is accepted was signed for
the very input and terms it is accepted for.
-/

import WorkGate.Worker.Ed25519PublicKeys
import WorkGate.Worker.LeaseArtifacts

namespace WorkGate

open WorkGate.Library
open WorkGate.Library.JsonText

/-! ## What is admitted for signing -/

theorem SigningRequest.admitted_cases {request : SigningRequest} {admitted : AdmittedSigning}
    (h : request.admitted = some admitted) :
    parseAuthorizationInput request.input = some admitted.input ∧
      parseSequence request.sequence = some admitted.sequence ∧
      parseKeyId request.kid = some admitted.kid ∧
      parseTrustLabel request.issuer = some admitted.issuer ∧
      parseAudience request.audience = some admitted.audience := by
  simp only [SigningRequest.admitted, Option.bind_eq_bind, Option.bind_eq_some_iff] at h
  obtain ⟨input, hinput, sequence, hsequence, kid, hkid, issuer, hissuer, audience, haudience, -, -,
    hadmitted⟩ := h
  cases hadmitted
  exact ⟨hinput, hsequence, hkid, hissuer, haudience⟩

/-- The possession binding of an admitted input is a digest. -/
theorem isDigest_of_parse {value : JsValue} {input : WorkerLeaseAuthorizationInput}
    (h : parseAuthorizationInput value = some input) :
    isDigest input.controlSessionBindingSha256 = true := by
  simp only [parseAuthorizationInput, Option.bind_eq_bind, Option.bind_eq_some_iff] at h
  obtain ⟨members, -, operation, -, challengeId, -, binding, hbinding, h⟩ := h
  have hdigest : isDigest binding = true := (Option.filter_eq_some_iff.mp hbinding).2
  cases operation with
  | start =>
      simp only [Option.bind_eq_some_iff] at h
      obtain ⟨grant, -, -, -, hinput⟩ := h
      cases hinput
      exact hdigest
  | renew =>
      simp only [Option.bind_eq_some_iff] at h
      obtain ⟨renewal, -, hinput⟩ := h
      cases hinput
      exact hdigest

/-- Digits that do not start with a zero stand for a positive number. -/
theorem bigInt_pos {text : String} (htext : isSequenceText text = true) : 0 < bigInt text := by
  rw [isSequenceText] at htext
  cases hdigits : text.toList with
  | nil =>
      rw [hdigits] at htext
      cases htext
  | cons first rest =>
      rw [hdigits] at htext
      simp only [Bool.and_eq_true, decide_eq_true_eq] at htext
      have hfirst : '0'.toNat < first.toNat := by
        have hdigit := htext.1.1.1
        have hzero : first.toNat ≠ '0'.toNat := fun h => htext.1.1.2 (Char.toNat_inj.mp h)
        rw [Char.isDigit, Bool.and_eq_true, decide_eq_true_eq, decide_eq_true_eq] at hdigit
        have hatLeast : '0'.toNat ≤ first.toNat := hdigit.1
        omega
      rw [bigInt, hdigits, Nat.ofDigitChars_cons, Nat.ofDigitChars_eq_ofDigitChars_zero]
      have hpower : 0 < 10 ^ rest.length := Nat.pow_pos (by decide)
      have hvalue : 0 < 10 ^ rest.length * (10 * 0 + (first.toNat - '0'.toNat)) :=
        Nat.mul_pos hpower (by omega)
      omega

/-- A sequence is read back from its digits. -/
theorem parseSequence_repr {sequence : ℕ} (hpositive : 0 < sequence)
    (hmaximum : sequence ≤ maximumWorkerLeaseAuthorizationSequence) :
    parseSequence (CodeUnits.ofString sequence.repr) = some sequence := by
  have hdigits : isSequenceText sequence.repr = true := by
    have hlength : (Nat.toDigits 10 sequence).length ≤ 20 := by
      apply (Nat.length_toDigits_le_iff (by decide) (by decide)).mpr
      rw [maximumWorkerLeaseAuthorizationSequence] at hmaximum
      omega
    rw [isSequenceText, Nat.toList_repr]
    cases hfirst : Nat.toDigits 10 sequence with
    | nil => exact absurd hfirst Nat.toDigits_ne_nil
    | cons first rest =>
        have hall : ∀ digit ∈ first :: rest, digit.isDigit = true := by
          intro digit hmem
          rw [← hfirst] at hmem
          exact Nat.isDigit_of_mem_toDigits (by decide) (by decide) hmem
        have hzero : first ≠ '0' := by
          intro hzero
          have hback := Nat.ofDigitChars_ten_toDigits (n := sequence)
          rw [hfirst, toDigits_cons hfirst hzero, hzero] at hback
          have hnone : sequence = 0 := hback.symm
          omega
        rw [List.forall_mem_cons] at hall
        rw [hfirst, List.length_cons] at hlength
        simp only [Bool.and_eq_true, decide_eq_true_eq, List.all_eq_true]
        exact ⟨⟨⟨hall.1, hzero⟩, by omega⟩, hall.2⟩
  rw [parseSequence, CodeUnits.maybeText_ofString, Option.filter_some_pos hdigits, Option.map_some,
    bigInt_repr]
  exact Option.filter_some_pos (decide_eq_true hmaximum)

/-- So is one that was read. -/
theorem parseSequence_repr_of_parse {units : CodeUnits} {sequence : ℕ}
    (h : parseSequence units = some sequence) :
    parseSequence (CodeUnits.ofString sequence.repr) = some sequence := by
  obtain ⟨hparsed, hbound⟩ := Option.filter_eq_some_iff.mp h
  obtain ⟨text, htext, hvalue⟩ := Option.map_eq_some_iff.mp hparsed
  have hpositive := bigInt_pos (Option.filter_eq_some_iff.mp htext).2
  rw [hvalue] at hpositive
  exact parseSequence_repr hpositive (of_decide_eq_true hbound)

/-- The header and the payload an admitted call signs are read back. -/
theorem AdmittedSigning.readBack {crypto : WebCrypto} {request : SigningRequest}
    {admitted : AdmittedSigning} (hsha256 : ∀ bytes, (crypto.sha256 bytes).length = 32)
    (h : request.admitted = some admitted) :
    parseHeader (canonicalBytes (headerToJs admitted.kid)) = some admitted.kid ∧
      parsePayload (canonicalBytes (admitted.payload crypto).toJs) =
        some (admitted.payload crypto, admitted.sequence) := by
  obtain ⟨hinput, hsequence, hkid, -, -⟩ := SigningRequest.admitted_cases h
  constructor
  · exact parseHeader_canonicalBytes (Option.filter_eq_some_iff.mp hkid).2
  · apply parsePayload_canonicalBytes
    · exact isDigest_of_parse hinput
    · exact isDigest_encode (hsha256 _)
    · exact parseSequence_repr_of_parse hsequence

/-! ## Whatever is signed is accepted -/

/-- A trust set of the issuer and the audience of a call, with the public half of the key it signs
with under the key id it names. -/
structure TrustsSigner (crypto : WebCrypto) (request : SigningRequest)
    (admitted : AdmittedSigning) (trust : WorkLeaseAuthorityTrust) : Prop where
  issuer : trust.issuer = admitted.issuer
  audience : trust.audience = admitted.audience
  paired : ∃ key ∈ trust.keys, key.kid = admitted.kid ∧ ∀ message signature,
    crypto.sign request.privateKey message = some signature →
      crypto.verify key signature message = some true

theorem parseTrust_nodup {value : JsValue} {trust : WorkLeaseAuthorityTrust}
    (h : parseWorkLeaseAuthorityTrust value = some trust) :
    (trust.keys.map WorkLeaseAuthorityJwk.kid).Nodup := by
  simp only [parseWorkLeaseAuthorityTrust, Option.bind_eq_bind, Option.bind_eq_some_iff,
    guard_eq_some] at h
  obtain ⟨members, -, -, -, values, -, issuer, -, audience, -, keys, -, -, hkids, -, -, htrust⟩ := h
  cases htrust
  exact hkids

/-- A key id names one key. -/
theorem filter_kid {keys : List WorkLeaseAuthorityJwk} {key : WorkLeaseAuthorityJwk}
    (hkids : (keys.map WorkLeaseAuthorityJwk.kid).Nodup) (hmem : key ∈ keys) :
    (keys.filter fun other => other.kid = key.kid) = [key] := by
  induction keys with
  | nil => cases hmem
  | cons other keys ih =>
      rw [List.map_cons, List.nodup_cons] at hkids
      rcases List.mem_cons.mp hmem with rfl | hrest
      · have hnone : (keys.filter fun other => other.kid = key.kid) = [] := by
          apply List.filter_eq_nil_iff.mpr
          intro found hfound hkid
          apply hkids.1
          rw [← of_decide_eq_true hkid]
          exact List.mem_map_of_mem hfound
        rw [List.filter_cons_of_pos (by simp), hnone]
      · have hdifferent : ¬ other.kid = key.kid := by
          intro hkid
          apply hkids.1
          rw [hkid]
          exact List.mem_map_of_mem hrest
        rw [List.filter_cons_of_neg (by simpa using hdifferent), ih hkids.2 hrest]

/-- The bytes a signature is over, from the segments of the artifact. -/
theorem utf8_segments (header payload : List UInt8) :
    CodeUnits.utf8 (CodeUnits.ofString (Base64Url.encode header) ++
        46 :: CodeUnits.ofString (Base64Url.encode payload)) =
      asBytes (Base64Url.encode header ++ "." ++ Base64Url.encode payload) := by
  have hdot : CodeUnits.ofString "." = [46] := by decide
  have hunits : CodeUnits.ofString (Base64Url.encode header) ++
      46 :: CodeUnits.ofString (Base64Url.encode payload) =
        CodeUnits.ofString (Base64Url.encode header ++ "." ++ Base64Url.encode payload) := by
    simp only [ofString_append, hdot, List.append_assoc, List.cons_append, List.nil_append]
  rw [hunits, CodeUnits.utf8_ofString]

/-- Every character takes a byte. -/
theorem length_le_asBytes (characters : List Char) :
    characters.length ≤ (asBytes (String.ofList characters)).length := by
  induction characters with
  | nil => exact Nat.zero_le _
  | cons character characters ih =>
      have hone : 0 < (asBytes (String.ofList [character])).length := by
        apply List.length_pos_iff.mpr
        intro hempty
        have hsame : String.ofList [character] = "" := asBytes_injective hempty
        have hcharacters := congrArg String.toList hsame
        rw [String.toList_ofList] at hcharacters
        cases hcharacters
      rw [asBytes_ofList_cons, List.length_append, List.length_cons]
      omega

theorem length_encode_le (bytes : List UInt8) :
    (bytes.length * 4 + 2) / 3 ≤ (asBytes (Base64Url.encode bytes)).length := by
  have hlength := length_le_asBytes (Base64Url.encode bytes).toList
  rw [String.ofList_toList, String.length_toList, Base64Url.length_encode] at hlength
  exact hlength

/-- Signing, step by step. -/
theorem sign_cases {crypto : WebCrypto} {request : SigningRequest} {artifact : String}
    (h : signWorkerLeaseAuthorization crypto request = some artifact) :
    ∃ admitted signature, request.admitted = some admitted ∧
      crypto.sign request.privateKey (asBytes (admitted.signingInput crypto)) = some signature ∧
      artifact = admitted.signingInput crypto ++ "." ++ Base64Url.encode signature ∧
      (asBytes artifact).length ≤ maximumWorkerLeaseAuthorizationBytes := by
  simp only [signWorkerLeaseAuthorization, Option.bind_eq_bind, Option.bind_eq_some_iff,
    guard_eq_some, pure, Option.some.injEq] at h
  obtain ⟨admitted, hadmitted, signature, hsignature, -, hlength, hartifact⟩ := h
  rw [hartifact] at hlength
  exact ⟨admitted, signature, hadmitted, hsignature, hartifact.symm, hlength⟩

/-- A signature is attached where the artifact stays within its limit. -/
theorem sign_of_length {crypto : WebCrypto} {request : SigningRequest}
    {admitted : AdmittedSigning} {signature : List UInt8}
    (hadmitted : request.admitted = some admitted)
    (hsignature : crypto.sign request.privateKey (asBytes (admitted.signingInput crypto)) =
      some signature)
    (hlength : (asBytes (admitted.signingInput crypto ++ "." ++
      Base64Url.encode signature)).length ≤ maximumWorkerLeaseAuthorizationBytes) :
    signWorkerLeaseAuthorization crypto request =
      some (admitted.signingInput crypto ++ "." ++ Base64Url.encode signature) := by
  simp only [signWorkerLeaseAuthorization, hadmitted, hsignature, Option.bind_eq_bind,
    Option.bind_some, guard, if_pos hlength, pure]

/-- A signature over the bytes of an admitted call is accepted for its input, by whoever has the key
that verifies it. -/
theorem verify_signingInput {crypto : WebCrypto} {admitted : AdmittedSigning}
    {signature : List UInt8} {inputValue trustValue : JsValue} {trust : WorkLeaseAuthorityTrust}
    {key : WorkLeaseAuthorityJwk}
    (hheader : parseHeader (canonicalBytes (headerToJs admitted.kid)) = some admitted.kid)
    (hpayload : parsePayload (canonicalBytes (admitted.payload crypto).toJs) =
      some (admitted.payload crypto, admitted.sequence))
    (hbytes : signature.length = 64)
    (hlength : (asBytes (admitted.signingInput crypto ++ "." ++
      Base64Url.encode signature)).length ≤ maximumWorkerLeaseAuthorizationBytes)
    (hinput : parseAuthorizationInput inputValue = some admitted.input)
    (htrust : parseWorkLeaseAuthorityTrust trustValue = some trust)
    (hissuer : trust.issuer = admitted.issuer) (haudience : trust.audience = admitted.audience)
    (hmem : key ∈ trust.keys) (hkid : key.kid = admitted.kid)
    (hverified : crypto.verify key signature (asBytes (admitted.signingInput crypto)) =
      some true) :
    verifyWorkerLeaseAuthorization crypto
        (jsText (admitted.signingInput crypto ++ "." ++ Base64Url.encode signature)) inputValue
        trustValue = some { keyId := admitted.kid, sequence := admitted.sequence } := by
  -- The three segments and how long they may be.
  have hsome : signature ≠ [] := by
    rintro rfl
    cases hbytes
  have hheaderSome : canonicalBytes (headerToJs admitted.kid) ≠ [] := canonicalBytes_ne_nil _
  have hpayloadSome : canonicalBytes (admitted.payload crypto).toJs ≠ [] :=
    canonicalBytes_ne_nil _
  have hsplit : splitArtifact (CodeUnits.ofString (admitted.signingInput crypto ++ "." ++
      Base64Url.encode signature)) = _ := splitArtifact_append hheaderSome hpayloadSome hsome
  have hbound := hlength
  rw [AdmittedSigning.signingInput, signingInputOf] at hbound
  simp only [asBytes_append, List.length_append, maximumWorkerLeaseAuthorizationBytes] at hbound
  have hheaderLength := length_encode_le (canonicalBytes (headerToJs admitted.kid))
  have hpayloadLength := length_encode_le (canonicalBytes (admitted.payload crypto).toJs)
  have hheaderBytes : decodeSegment _ 512 = _ := decodeSegment_encode hheaderSome (by omega)
  have hpayloadBytes : decodeSegment _ 512 = _ := decodeSegment_encode hpayloadSome (by omega)
  have hsignatureBytes : decodeSegment _ 86 = _ := decodeSegment_encode hsome (by omega)
  have hkeys := filter_kid (parseTrust_nodup htrust) hmem
  rw [hkid] at hkeys
  rw [AdmittedSigning.signingInput, signingInputOf, ← utf8_segments] at hverified
  rw [← CodeUnits.utf8_ofString] at hlength
  have hunits : requiredString (jsText (admitted.signingInput crypto ++ "." ++
      Base64Url.encode signature)) = some _ := rfl
  have hdigest : (admitted.payload crypto).requestSha256 =
      requestDigest crypto admitted.input trust.issuer trust.audience := by
    rw [hissuer, haudience, AdmittedSigning.payload]
  -- Every check passes in turn.
  refine (bind_of_some hunits).trans ?_
  refine (guard_bind hlength).trans ?_
  refine (bind_of_some hinput).trans ?_
  refine (bind_of_some htrust).trans ?_
  refine (bind_of_some hsplit).trans ?_
  refine (bind_of_some hheaderBytes).trans ?_
  refine (bind_of_some hpayloadBytes).trans ?_
  refine (bind_of_some hsignatureBytes).trans ?_
  refine (bind_of_some hheader).trans ?_
  refine (bind_of_some hpayload).trans ?_
  refine (guard_bind rfl).trans ?_
  refine (guard_bind rfl).trans ?_
  refine (guard_bind hdigest).trans ?_
  rw [hkeys]
  refine (guard_bind hbytes).trans ?_
  refine (bind_of_some hverified).trans ?_
  exact guard_bind rfl

/-- An artifact is accepted for what it was signed over. -/
theorem verify_sign {crypto : WebCrypto} {request : SigningRequest} {artifact : String}
    {admitted : AdmittedSigning} {trustValue : JsValue} {trust : WorkLeaseAuthorityTrust}
    (hsha256 : ∀ bytes, (crypto.sha256 bytes).length = 32)
    (hlengths : ∀ key message signature, crypto.sign key message = some signature →
      signature.length = 64)
    (hsigned : signWorkerLeaseAuthorization crypto request = some artifact)
    (hadmitted : request.admitted = some admitted)
    (htrust : parseWorkLeaseAuthorityTrust trustValue = some trust)
    (htrusts : TrustsSigner crypto request admitted trust) :
    verifyWorkerLeaseAuthorization crypto (jsText artifact) request.input trustValue =
      some { keyId := admitted.kid, sequence := admitted.sequence } := by
  obtain ⟨_, signature, hadmitted', hsignature, hartifact, hlength⟩ := sign_cases hsigned
  cases Option.some.inj (hadmitted.symm.trans hadmitted')
  obtain ⟨hheader, hpayload⟩ := AdmittedSigning.readBack hsha256 hadmitted
  obtain ⟨key, hmem, hkid, hpaired⟩ := htrusts.paired
  have hinput := (SigningRequest.admitted_cases hadmitted).1
  have hbytes := hlengths _ _ _ hsignature
  rw [hartifact] at hlength ⊢
  exact verify_signingInput hheader hpayload hbytes hlength hinput htrust htrusts.issuer
    htrusts.audience hmem hkid (hpaired _ _ hsignature)

/-! ## Whatever is accepted was signed -/

/-- The signature an artifact carries, and the bytes it is over. -/
def maybeSignature (authorization : JsValue) : Option (List UInt8 × List UInt8) := do
  let artifact ← requiredString authorization
  let (protectedHeader, encodedPayload, encodedSignature) ← splitArtifact artifact
  let signature ← decodeSegment encodedSignature 86
  return (signature, CodeUnits.utf8 (protectedHeader ++ 46 :: encodedPayload))

/-- The signature of the artifact is no forgery: if a trusted key verifies it, it was made over
what one of these calls signed. -/
def Unforged (crypto : WebCrypto) (trust : WorkLeaseAuthorityTrust)
    (signed : List SigningRequest) (authorization : JsValue) : Prop :=
  ∀ key ∈ trust.keys, ∀ signature message, maybeSignature authorization = some (signature, message) →
    crypto.verify key signature message = some true →
      ∃ request ∈ signed, ∃ admitted, request.admitted = some admitted ∧
        message = asBytes (admitted.signingInput crypto)

/-- No digest of a signed request is that of another one presented under other terms. -/
def CollisionFreeRequests (crypto : WebCrypto) (signed : List SigningRequest)
    (input : WorkerLeaseAuthorizationInput) (issuer audience : String) : Prop :=
  ∀ request ∈ signed, ∀ admitted, request.admitted = some admitted →
    crypto.sha256 (requestPreimage admitted.input admitted.issuer admitted.audience) =
        crypto.sha256 (requestPreimage input issuer audience) →
      requestPreimage admitted.input admitted.issuer admitted.audience =
        requestPreimage input issuer audience

/-- Verifying, step by step. -/
theorem verify_cases {crypto : WebCrypto} {authorization inputValue trustValue : JsValue}
    {verified : VerifiedWorkerLeaseAuthorization}
    (h : verifyWorkerLeaseAuthorization crypto authorization inputValue trustValue =
      some verified) :
    ∃ input trust header payloadBytes signature key payload,
      parseAuthorizationInput inputValue = some input ∧
      parseWorkLeaseAuthorityTrust trustValue = some trust ∧
      maybeSignature authorization = some (signature,
        asBytes (Base64Url.encode header ++ "." ++ Base64Url.encode payloadBytes)) ∧
      parseHeader header = some verified.keyId ∧
      parsePayload payloadBytes = some (payload, verified.sequence) ∧
      payload.operation = input.operation ∧
      payload.controlSessionBindingSha256 = input.controlSessionBindingSha256 ∧
      payload.requestSha256 = requestDigest crypto input trust.issuer trust.audience ∧
      key ∈ trust.keys ∧ crypto.verify key signature
        (asBytes (Base64Url.encode header ++ "." ++ Base64Url.encode payloadBytes)) =
          some true := by
  unfold verifyWorkerLeaseAuthorization at h
  obtain ⟨artifact, hartifact, h⟩ := Option.bind_eq_some_iff.mp h
  obtain ⟨-, -, h⟩ := Option.bind_eq_some_iff.mp h
  obtain ⟨input, hinput, h⟩ := Option.bind_eq_some_iff.mp h
  obtain ⟨trust, htrust, h⟩ := Option.bind_eq_some_iff.mp h
  obtain ⟨⟨headerSegment, payloadSegment, signatureSegment⟩, hsplit, h⟩ :=
    Option.bind_eq_some_iff.mp h
  obtain ⟨header, hheader, h⟩ := Option.bind_eq_some_iff.mp h
  obtain ⟨payloadBytes, hpayloadBytes, h⟩ := Option.bind_eq_some_iff.mp h
  obtain ⟨signature, hsignature, h⟩ := Option.bind_eq_some_iff.mp h
  obtain ⟨kid, hkid, h⟩ := Option.bind_eq_some_iff.mp h
  obtain ⟨⟨payload, sequence⟩, hpayload, h⟩ := Option.bind_eq_some_iff.mp h
  obtain ⟨_, hoperation, h⟩ := Option.bind_eq_some_iff.mp h
  obtain ⟨_, hbinding, h⟩ := Option.bind_eq_some_iff.mp h
  obtain ⟨_, hrequest, h⟩ := Option.bind_eq_some_iff.mp h
  rw [guard_eq_some] at hoperation hbinding hrequest
  split at h
  · next key hkeys =>
      obtain ⟨-, -, h⟩ := Option.bind_eq_some_iff.mp h
      obtain ⟨valid, hvalid, h⟩ := Option.bind_eq_some_iff.mp h
      obtain ⟨_, htrue, hverified⟩ := Option.bind_eq_some_iff.mp h
      rw [guard_eq_some] at htrue
      cases hverified
      rw [htrue] at hvalid
      have hmem : key ∈ trust.keys.filter fun other => other.kid = kid := by
        rw [hkeys]
        exact List.mem_singleton_self key
      have hheaderText : headerSegment = _ := eq_encode_of_decodeSegment hheader
      have hpayloadText : payloadSegment = _ := eq_encode_of_decodeSegment hpayloadBytes
      rw [hheaderText, hpayloadText, utf8_segments] at hvalid
      refine ⟨input, trust, header, payloadBytes, signature, key, payload, hinput, htrust, ?_, hkid,
        hpayload, hoperation, hbinding, hrequest, List.mem_of_mem_filter hmem, hvalid⟩
      have hbytes : decodeSegment signatureSegment 86 = some signature := hsignature
      simp only [maybeSignature, hartifact, hsplit, hbytes, hheaderText, hpayloadText,
        utf8_segments, Option.bind_eq_bind, Option.bind_some, pure]
  · cases h

/-- The bytes a call signs say what its header and its payload are. -/
theorem signingInput_inj {crypto : WebCrypto} {admitted : AdmittedSigning}
    {header payload : List UInt8}
    (h : asBytes (Base64Url.encode header ++ "." ++ Base64Url.encode payload) =
      asBytes (admitted.signingInput crypto)) :
    header = canonicalBytes (headerToJs admitted.kid) ∧
      payload = canonicalBytes (admitted.payload crypto).toJs := by
  have htext := congrArg String.toList (asBytes_injective h)
  rw [AdmittedSigning.signingInput, signingInputOf] at htext
  simp only [String.toList_append, List.append_assoc] at htext
  have hdot : ∀ characters, ".".toList ++ characters = '.' :: characters := fun _ => rfl
  rw [hdot, hdot] at htext
  obtain ⟨hheader, -, hpayload⟩ := (List.append_cons_inj_of_notMem (dot_notMem_encode header)
    (dot_notMem_encode payload)).mp htext
  exact ⟨Base64Url.encode_injective (String.toList_inj.mp hheader),
    Base64Url.encode_injective (String.toList_inj.mp hpayload)⟩

/-- An accepted artifact was signed over the very input and terms it is accepted for. -/
theorem verify_bound {crypto : WebCrypto} {authorization inputValue trustValue : JsValue}
    {verified : VerifiedWorkerLeaseAuthorization} {input : WorkerLeaseAuthorizationInput}
    {trust : WorkLeaseAuthorityTrust} {signed : List SigningRequest}
    (hsha256 : ∀ bytes, (crypto.sha256 bytes).length = 32)
    (h : verifyWorkerLeaseAuthorization crypto authorization inputValue trustValue =
      some verified)
    (hinput : parseAuthorizationInput inputValue = some input)
    (htrust : parseWorkLeaseAuthorityTrust trustValue = some trust)
    (hunforged : Unforged crypto trust signed authorization)
    (hcollisionFree : CollisionFreeRequests crypto signed input trust.issuer trust.audience) :
    ∃ request ∈ signed, ∃ admitted, request.admitted = some admitted ∧ admitted.input = input ∧
      admitted.issuer = trust.issuer ∧ admitted.audience = trust.audience ∧
      verified = { keyId := admitted.kid, sequence := admitted.sequence } := by
  obtain ⟨_, _, header, payloadBytes, signature, key, payload, hinput', htrust', hsignature, hkid,
    hpayload, hoperation, hbinding, hrequest, hmem, hvalid⟩ := verify_cases h
  cases Option.some.inj (hinput.symm.trans hinput')
  cases Option.some.inj (htrust.symm.trans htrust')
  obtain ⟨request, hsigned, admitted, hadmitted, hmessage⟩ :=
    hunforged key hmem signature _ hsignature hvalid
  obtain ⟨hheaderBytes, hpayloadBytes⟩ := signingInput_inj hmessage
  rw [hheaderBytes] at hkid
  rw [hpayloadBytes] at hpayload
  -- The header and the payload are those of that call.
  obtain ⟨hheader, hread⟩ := AdmittedSigning.readBack hsha256 hadmitted
  have hkeyId := Option.some.inj (hheader.symm.trans hkid)
  obtain ⟨hsame, hsequence⟩ := Prod.mk.inj (Option.some.inj (hread.symm.trans hpayload))
  rw [← hsame] at hbinding hrequest
  -- And so is the digest, which is only of that call's request.
  have hdigest := Base64Url.encode_injective hrequest
  have hpreimage := hcollisionFree request hsigned admitted hadmitted hdigest
  obtain ⟨hissuer, haudience, hchallenge, hrequests⟩ := requestPreimage_inj hpreimage
  refine ⟨request, hsigned, admitted, hadmitted, ?_, hissuer, haudience, ?_⟩
  · obtain ⟨challengeId, binding, held⟩ := input
    have hbound : admitted.input.controlSessionBindingSha256 = binding := hbinding
    cases hchallenge
    cases hbound
    cases hrequests
    rfl
  · obtain ⟨keyId, sequence⟩ := verified
    cases hkeyId
    cases hsequence
    rfl

/-! ## The two together -/

/-- An accepted call's artifact is accepted with the call's key id and sequence.  And an artifact
that is accepted was signed over the operation, the possession binding, the complete request, the
issuer and the audience it is accepted for. -/
theorem leaseAuthorization_roundTrip_bound (crypto : WebCrypto)
    (hsha256 : ∀ bytes, (crypto.sha256 bytes).length = 32)
    (hlengths : ∀ key message signature, crypto.sign key message = some signature →
      signature.length = 64) :
    (∀ request artifact, signWorkerLeaseAuthorization crypto request = some artifact →
      ∃ admitted, request.admitted = some admitted ∧
        ∀ trustValue trust, parseWorkLeaseAuthorityTrust trustValue = some trust →
          TrustsSigner crypto request admitted trust →
            ∃ verified, verifyWorkerLeaseAuthorization crypto (jsText artifact) request.input
                trustValue = some verified ∧
              parseKeyId request.kid = some verified.keyId ∧
              parseSequence request.sequence = some verified.sequence) ∧
    (∀ authorization inputValue trustValue verified,
      verifyWorkerLeaseAuthorization crypto authorization inputValue trustValue =
          some verified →
        ∃ input trust, parseAuthorizationInput inputValue = some input ∧
          parseWorkLeaseAuthorityTrust trustValue = some trust ∧
          ∀ signed, Unforged crypto trust signed authorization →
            CollisionFreeRequests crypto signed input trust.issuer trust.audience →
              ∃ request ∈ signed, ∃ admitted, request.admitted = some admitted ∧
                admitted.input.operation = input.operation ∧
                admitted.input.controlSessionBindingSha256 =
                  input.controlSessionBindingSha256 ∧
                admitted.input.activeChallengeId = input.activeChallengeId ∧
                admitted.input.request = input.request ∧
                admitted.issuer = trust.issuer ∧ admitted.audience = trust.audience ∧
                verified = { keyId := admitted.kid, sequence := admitted.sequence }) := by
  constructor
  · intro request artifact hsigned
    obtain ⟨admitted, -, hadmitted, -⟩ := sign_cases hsigned
    refine ⟨admitted, hadmitted, ?_⟩
    intro trustValue trust htrust htrusts
    obtain ⟨-, hsequence, hkid, -, -⟩ := SigningRequest.admitted_cases hadmitted
    exact ⟨_, verify_sign hsha256 hlengths hsigned hadmitted htrust htrusts, hkid, hsequence⟩
  · intro authorization inputValue trustValue verified h
    obtain ⟨input, trust, -, -, -, -, -, hinput, htrust, -⟩ := verify_cases h
    refine ⟨input, trust, hinput, htrust, ?_⟩
    intro signed hunforged hcollisionFree
    obtain ⟨request, hmem, admitted, hadmitted, hsame, hissuer, haudience, hverified⟩ :=
      verify_bound hsha256 h hinput htrust hunforged hcollisionFree
    subst hsame
    exact ⟨request, hmem, admitted, hadmitted, rfl, rfl, rfl, rfl, hissuer, haudience, hverified⟩

/-- A start request of the first protocol version. -/
def exampleAdmittedSigning : AdmittedSigning where
  input := {
    activeChallengeId := "challenge_1"
    controlSessionBindingSha256 := "i2Fqpgry01hOSlXOaOa7ynGNuvAl5vvbLc2gqRC5JZ8"
    request := .start {
      window := ⟨60000, 20000⟩, maybeQualificationAttempt := none
      maybeAcceptanceCampaign := none, maybeSoakAllowance := none, leaseId := "lease_1"
      challengeId := "challenge_1"
      stratum := .v1 (CodeUnits.ofString "stratum+tcp://pool.example:3333/")
        (CodeUnits.ofString "account.worker") (CodeUnits.ofString "secret") none } }
  sequence := 7
  kid := "key_1"
  issuer := "authority.example"
  audience := workerControllerProtocolVersion

def exampleSigningRequest : SigningRequest where
  input := jsRecord [("operation", jsText "start"), ("activeChallengeId", jsText "challenge_1"),
    ("controlSessionBindingSha256", jsText "i2Fqpgry01hOSlXOaOa7ynGNuvAl5vvbLc2gqRC5JZ8"),
    ("request", exampleAdmittedSigning.input.request.toJs)]
  sequence := CodeUnits.ofString "7"
  kid := CodeUnits.ofString "key_1"
  issuer := CodeUnits.ofString "authority.example"
  audience := CodeUnits.ofString workerControllerProtocolVersion
  privateKey := ⟨"private", "Ed25519", ["sign"], (List.range' 1 32).map UInt8.ofNat⟩

/-- The public half of that private key. -/
def exampleTrust : WorkLeaseAuthorityTrust where
  issuer := "authority.example"
  audience := workerControllerProtocolVersion
  keys := [⟨"key_1", "ebVWLo_mVPlAeLES6KmLp5AfhTrmlb7X4OORC60ElmQ"⟩]

def exampleTrustValue : JsValue :=
  jsRecord [("profile", jsText workerDeploymentTrustProfile),
    ("issuer", jsText "authority.example"), ("audience", jsText workerControllerProtocolVersion),
    ("role", jsText "work_lease_authority"),
    ("keys", .array [jsRecord [("kid", jsText "key_1"), ("kty", jsText "OKP"),
      ("crv", jsText "Ed25519"), ("x", jsText "ebVWLo_mVPlAeLES6KmLp5AfhTrmlb7X4OORC60ElmQ"),
      ("alg", jsText "Ed25519"), ("use", jsText "sig"), ("key_ops", .array [jsText "verify"])]])]

def exampleSignature : List UInt8 :=
  (Base64Url.decode ("lPnAfww4Upwd_EmykWdCBhlvXaEEJpKDYFi7eg6iyZM3-" ++
    "NTCAviZEuThddlxkVNqnDWFPtda3EiAxANp0iHyCg")).getD []

def exampleSigningInput : String :=
  "eyJhbGciOiJFZDI1NTE5Iiwia2lkIjoia2V5XzEiLCJ0eXAiOiJid2ctd29ya2VyLWxlYXNlLWF1dGhvcml6YXRpb24" ++
    "randzIn0" ++ "." ++
    "eyJjb250cm9sU2Vzc2lvbkJpbmRpbmdTaGEyNTYiOiJpMkZxcGdyeTAxaE9TbFhPYU9hN3luR051dkFsNXZ2YkxjMm" ++
    "dxUkM1Slo4Iiwib3BlcmF0aW9uIjoic3RhcnQiLCJyZXF1ZXN0U2hhMjU2IjoiNjRORF92ZFY5eFVPd1pmSTE5a0dq" ++
    "UU4waDRFLUZHWGhGOUYxZ2ZqSHVFOCIsInNlcXVlbmNlIjoiNyJ9"

def exampleDigest : List UInt8 :=
  (Base64Url.decode "64ND_vdV9xUOwZfI19kGjQN0h4E-FGXhF9F1gfjHuE8").getD []

/-- A runtime that knows one digest and one signature. -/
def recordedCrypto (preimage digest : List UInt8) (privateKey : CryptoKey)
    (key : WorkLeaseAuthorityJwk) (signed made : List UInt8) : WebCrypto where
  sha256 bytes := if bytes = preimage then digest else List.replicate 32 0
  sign used message := if used = privateKey ∧ message = signed then some made else none
  verify used signature message :=
    some (decide (used = key ∧ signature = made ∧ message = signed))

section Recorded

variable {preimage digest signed made : List UInt8} {privateKey : CryptoKey}
  {key : WorkLeaseAuthorityJwk}

theorem recordedCrypto_sha256 :
    (recordedCrypto preimage digest privateKey key signed made).sha256 preimage = digest :=
  if_pos rfl

theorem recordedCrypto_sign :
    (recordedCrypto preimage digest privateKey key signed made).sign privateKey signed =
      some made :=
  if_pos ⟨rfl, rfl⟩

theorem recordedCrypto_lengths (hdigest : digest.length = 32) (hmade : made.length = 64) :
    (∀ bytes, ((recordedCrypto preimage digest privateKey key signed made).sha256
        bytes).length = 32) ∧
      ∀ used message signature, (recordedCrypto preimage digest privateKey key signed made).sign
        used message = some signature → signature.length = 64 := by
  constructor
  · intro bytes
    simp only [recordedCrypto]
    split
    · exact hdigest
    · rfl
  · intro used message signature h
    simp only [recordedCrypto] at h
    split at h
    · cases h
      exact hmade
    · cases h

/-- What is signed verifies. -/
theorem recordedCrypto_paired {message signature : List UInt8}
    (h : (recordedCrypto preimage digest privateKey key signed made).sign privateKey message =
      some signature) :
    (recordedCrypto preimage digest privateKey key signed made).verify key signature message =
      some true := by
  simp only [recordedCrypto] at h ⊢
  split at h
  · next hsigned =>
      cases h
      simp [hsigned.2]
  · cases h

/-- Nothing else verifies. -/
theorem recordedCrypto_verify {used : WorkLeaseAuthorityJwk} {signature message : List UInt8}
    (h : (recordedCrypto preimage digest privateKey key signed made).verify used signature
      message = some true) : message = signed := by
  simp only [recordedCrypto, Option.some.injEq, decide_eq_true_eq] at h
  exact h.2.2

end Recorded

/-- The digest and the signature of that request. -/
def exampleCrypto : WebCrypto :=
  recordedCrypto (requestPreimage exampleAdmittedSigning.input "authority.example"
      workerControllerProtocolVersion) exampleDigest exampleSigningRequest.privateKey
    ⟨"key_1", "ebVWLo_mVPlAeLES6KmLp5AfhTrmlb7X4OORC60ElmQ"⟩ (asBytes exampleSigningInput)
    exampleSignature

def exampleKeyText : String := "ebVWLo_mVPlAeLES6KmLp5AfhTrmlb7X4OORC60ElmQ"

def exampleKeyBytes : List UInt8 := (Base64Url.decode exampleKeyText).getD []

/-- The key writes down a point whose order is that of the subgroup. -/
theorem isCanonicalPrimeSubgroup_exampleKeyText :
    isCanonicalPrimeSubgroupEd25519PublicKey exampleKeyText = true := by
  have hbytes : exampleKeyBytes.length = 32 ∧ Base64Url.encode exampleKeyBytes = exampleKeyText :=
    by decide +kernel
  have hnumber : littleEndianInteger exampleKeyBytes =
      45496344190318008000939642279785827259593218171636316761783311139454915622265 := by
    decide +kernel
  rw [← hbytes.2]
  apply isCanonicalPrimeSubgroupEd25519PublicKey_of_point
    (x := 36300002532367004847934605825617482858844746958050424245931763046212936362078)
    (y := 45496344190318008000939642279785827259593218171636316761783311139454915622265)
    hbytes.1 (by decide) (by decide) (by decide +kernel) hnumber (by decide) rfl
  decide +kernel

def exampleKeyMembers : List (CodeUnits × JsValue) :=
  [("kid", jsText "key_1"), ("kty", jsText "OKP"), ("crv", jsText "Ed25519"),
    ("x", jsText exampleKeyText), ("alg", jsText "Ed25519"), ("use", jsText "sig"),
    ("key_ops", .array [jsText "verify"])].map (Prod.map CodeUnits.ofString id)

theorem parse_exampleKey :
    parseTrustKey (.object exampleKeyMembers) = some ⟨"key_1", exampleKeyText⟩ := by
  have hrecord : exactRecord (.object exampleKeyMembers)
      ["kid", "kty", "crv", "x", "alg", "use", "key_ops"] [] = some exampleKeyMembers := rfl
  have hkid : (requiredString (fieldOf exampleKeyMembers "kid") >>= parseKeyId) = some "key_1" := by
    decide +kernel
  have hcurve : (isText (fieldOf exampleKeyMembers "kty") "OKP" &&
      isText (fieldOf exampleKeyMembers "crv") "Ed25519") = true := rfl
  have hx : plainText (fieldOf exampleKeyMembers "x") = some exampleKeyText := by decide +kernel
  have huse : (isText (fieldOf exampleKeyMembers "alg") "Ed25519" &&
      isText (fieldOf exampleKeyMembers "use") "sig" &&
      isVerifyOnly (fieldOf exampleKeyMembers "key_ops")) = true := rfl
  rw [parseTrustKey]
  refine (bind_of_some hrecord).trans ?_
  refine (bind_of_some hkid).trans ?_
  refine (guard_bind hcurve).trans ?_
  rw [hx, Option.filter_some_pos isCanonicalPrimeSubgroup_exampleKeyText]
  exact (bind_of_some rfl).trans (guard_bind huse)

def exampleTrustMembers : List (CodeUnits × JsValue) :=
  [("profile", jsText workerDeploymentTrustProfile), ("issuer", jsText "authority.example"),
    ("audience", jsText workerControllerProtocolVersion), ("role", jsText "work_lease_authority"),
    ("keys", .array [.object exampleKeyMembers])].map (Prod.map CodeUnits.ofString id)

/-- The trust is read, its one key as above. -/
theorem parse_exampleTrust :
    parseWorkLeaseAuthorityTrust exampleTrustValue = some exampleTrust := by
  have hrecord : exactRecord exampleTrustValue ["profile", "issuer", "audience", "role", "keys"] [] =
      some exampleTrustMembers := rfl
  have hprofile : (isText (fieldOf exampleTrustMembers "profile") workerDeploymentTrustProfile &&
      isText (fieldOf exampleTrustMembers "role") "work_lease_authority") = true := by
    decide +kernel
  have hkeys : trustKeyValues (fieldOf exampleTrustMembers "keys") =
      some [.object exampleKeyMembers] := rfl
  have hissuer : (requiredString (fieldOf exampleTrustMembers "issuer") >>= parseTrustLabel) =
      some "authority.example" := by
    decide +kernel
  have haudience : (requiredString (fieldOf exampleTrustMembers "audience") >>= parseAudience) =
      some workerControllerProtocolVersion := by
    decide +kernel
  have hparsed : [JsValue.object exampleKeyMembers].mapM parseTrustKey =
      some [⟨"key_1", exampleKeyText⟩] := by
    rw [List.mapM_cons, parse_exampleKey]
    rfl
  rw [parseWorkLeaseAuthorityTrust]
  refine (bind_of_some hrecord).trans ?_
  refine (guard_bind hprofile).trans ?_
  refine (bind_of_some hkeys).trans ?_
  refine (bind_of_some hissuer).trans ?_
  refine (bind_of_some haudience).trans ?_
  refine (bind_of_some hparsed).trans ?_
  exact (guard_bind (List.nodup_singleton _)).trans (guard_bind (List.nodup_singleton _))

/-- The token has room for another byte. -/
theorem succ_length_exampleToken_le : (asBytes (exampleSigningInput ++ "." ++
    Base64Url.encode exampleSignature)).length + 1 ≤ maximumWorkerLeaseAuthorizationBytes := by
  decide +kernel

/-- The request is admitted, and what is signed for it is the text above. -/
theorem signed_exampleSigning :
    exampleSigningRequest.admitted = some exampleAdmittedSigning ∧
      exampleAdmittedSigning.signingInput exampleCrypto = exampleSigningInput ∧
      signWorkerLeaseAuthorization exampleCrypto exampleSigningRequest =
        some (exampleSigningInput ++ "." ++ Base64Url.encode exampleSignature) := by
  have hadmitted : exampleSigningRequest.admitted = some exampleAdmittedSigning := by
    decide +kernel
  have hdigest : requestDigest exampleCrypto exampleAdmittedSigning.input "authority.example"
      workerControllerProtocolVersion = "64ND_vdV9xUOwZfI19kGjQN0h4E-FGXhF9F1gfjHuE8" := by
    rw [requestDigest, exampleCrypto, recordedCrypto_sha256]
    decide +kernel
  have hpayload : exampleAdmittedSigning.payload exampleCrypto =
      { controlSessionBindingSha256 := "i2Fqpgry01hOSlXOaOa7ynGNuvAl5vvbLc2gqRC5JZ8"
        operation := .start
        requestSha256 := "64ND_vdV9xUOwZfI19kGjQN0h4E-FGXhF9F1gfjHuE8"
        sequence := "7" } := by
    have hissued : requestDigest exampleCrypto exampleAdmittedSigning.input
        exampleAdmittedSigning.issuer exampleAdmittedSigning.audience = _ := hdigest
    rw [AdmittedSigning.payload, hissued]
    decide +kernel
  have hinput : exampleAdmittedSigning.signingInput exampleCrypto = exampleSigningInput := by
    rw [AdmittedSigning.signingInput, hpayload]
    decide +kernel
  have hsignature : exampleCrypto.sign exampleSigningRequest.privateKey
      (asBytes (exampleAdmittedSigning.signingInput exampleCrypto)) = some exampleSignature := by
    rw [hinput]
    exact recordedCrypto_sign
  have hlength : (asBytes (exampleAdmittedSigning.signingInput exampleCrypto ++ "." ++
      Base64Url.encode exampleSignature)).length ≤ maximumWorkerLeaseAuthorizationBytes := by
    rw [hinput]
    have hroom := succ_length_exampleToken_le
    omega
  have hsigned := sign_of_length hadmitted hsignature hlength
  rw [hinput] at hsigned
  exact ⟨hadmitted, hinput, hsigned⟩

theorem exampleCrypto_lengths : (∀ bytes, (exampleCrypto.sha256 bytes).length = 32) ∧
    ∀ key message signature, exampleCrypto.sign key message = some signature →
      signature.length = 64 := by
  have hlengths : exampleDigest.length = 32 ∧ exampleSignature.length = 64 := by decide +kernel
  exact recordedCrypto_lengths hlengths.1 hlengths.2

theorem trustsSigner_exampleTrust :
    TrustsSigner exampleCrypto exampleSigningRequest exampleAdmittedSigning exampleTrust :=
  ⟨rfl, rfl, _, List.mem_singleton_self _, rfl, fun _ _ => recordedCrypto_paired⟩

theorem exampleSigning_roundTrip_bound :
    ∃ verified, verifyWorkerLeaseAuthorization exampleCrypto
        (jsText (exampleSigningInput ++ "." ++ Base64Url.encode exampleSignature))
        exampleSigningRequest.input exampleTrustValue = some verified ∧
      verified = { keyId := "key_1", sequence := 7 } ∧
      ∃ request ∈ [exampleSigningRequest], ∃ admitted, request.admitted = some admitted ∧
        admitted.input.request = exampleAdmittedSigning.input.request := by
  obtain ⟨hsha256, hlengths⟩ := exampleCrypto_lengths
  obtain ⟨hexample, hinputSigned, hexampleSigned⟩ := signed_exampleSigning
  obtain ⟨hroundTrip, hbound⟩ :=
    leaseAuthorization_roundTrip_bound exampleCrypto hsha256 hlengths
  obtain ⟨admitted, hadmitted, haccepted⟩ := hroundTrip _ _ hexampleSigned
  cases Option.some.inj (hadmitted.symm.trans hexample)
  obtain ⟨verified, hverified, hkid, hsequence⟩ :=
    haccepted _ _ parse_exampleTrust trustsSigner_exampleTrust
  obtain ⟨input, trust, hinput, htrust, hsigned⟩ := hbound _ _ _ _ hverified
  cases Option.some.inj (htrust.symm.trans parse_exampleTrust)
  have hsame : input = exampleAdmittedSigning.input := by
    have hparsed := (SigningRequest.admitted_cases hexample).1
    exact Option.some.inj (hinput.symm.trans hparsed)
  have hunforged : Unforged exampleCrypto exampleTrust [exampleSigningRequest] (jsText
      (exampleSigningInput ++ "." ++ Base64Url.encode exampleSignature)) := by
    intro key _ signature message _ hvalid
    refine ⟨_, List.mem_singleton_self _, _, hexample, ?_⟩
    rw [hinputSigned]
    exact recordedCrypto_verify hvalid
  have hcollisionFree : CollisionFreeRequests exampleCrypto [exampleSigningRequest] input
      exampleTrust.issuer exampleTrust.audience := by
    intro request hmem other hother _
    cases List.mem_singleton.mp hmem
    cases Option.some.inj (hother.symm.trans hexample)
    rw [hsame]
    rfl
  obtain ⟨request, hmem, other, hother, -, -, -, hrequest, -, -, hkeyId⟩ :=
    hsigned _ hunforged hcollisionFree
  refine ⟨verified, hverified, ?_, request, hmem, other, hother, hsame ▸ hrequest⟩
  cases List.mem_singleton.mp hmem
  cases Option.some.inj (hother.symm.trans hexample)
  exact hkeyId

end WorkGate
