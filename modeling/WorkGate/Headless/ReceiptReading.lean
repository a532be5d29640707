/-
# Reading a receipt (src/crypto_profile.rs, web/trusted-consent.ts)

The Authority writes a receipt with one serializer and the client reads it with another parser.
What the former writes is the JSON text of a record, so both read the same header and the same
claims out of a receipt, and pick the same key.
-/

import WorkGate.Headless.TrustedConsent
import WorkGate.Worker.LeaseArtifacts

namespace WorkGate

open WorkGate.Library

/-! ## What the serializer writes -/

/-- The header as data. -/
def trustedHeaderToJs (typ alg kid : String) : JsValue :=
  jsRecord [("typ", jsText typ), ("alg", jsText alg), ("kid", jsText kid)]

def webauthnToJs (webauthn : TrustedConsentReceiptWebauthn) : JsValue :=
  jsRecord [("user_present", .bool webauthn.userPresent),
    ("user_verified", .bool webauthn.userVerified), ("attestation", jsText webauthn.attestation)]

/-- The claims as data. -/
def TrustedConsentReceiptClaims.toJs (claims : TrustedConsentReceiptClaims) : JsValue :=
  jsRecord [("iss", jsText claims.iss), ("jti", jsText claims.jti),
    ("challenge_id", jsText claims.challengeId),
    ("disclosure_digest_sha256", jsText claims.disclosureDigestSha256),
    ("pool_offer_set_signature_sha256", jsText claims.poolOfferSetSignatureSha256),
    ("reason", jsText claims.reason), ("authority_origin", jsText claims.authorityOrigin),
    ("webauthn", webauthnToJs claims.webauthn), ("iat", jsNatural claims.iat),
    ("exp", jsNatural claims.exp), ("bwg_version", jsText claims.bwgVersion)]

theorem serializeHeader_eq (typ alg kid : String) :
    serializeHeader typ alg kid = JsonText.print (trustedHeaderToJs typ alg kid) := by
  rw [serializeHeader, trustedHeaderToJs, jsRecord, ← serdeStruct_eq_print]
  simp only [jsText, serdeString_eq_print, List.map_cons, List.map_nil]

theorem serialize_eq (claims : TrustedConsentReceiptClaims) :
    claims.serialize = JsonText.print claims.toJs := by
  have hwebauthn : serdeStruct [("user_present", serdeBool claims.webauthn.userPresent),
      ("user_verified", serdeBool claims.webauthn.userVerified),
      ("attestation", serdeString claims.webauthn.attestation)] =
      JsonText.print (webauthnToJs claims.webauthn) := by
    rw [webauthnToJs, jsRecord, ← serdeStruct_eq_print]
    simp only [jsText, serdeString_eq_print, serdeBool_eq_print, List.map_cons, List.map_nil]
  rw [TrustedConsentReceiptClaims.serialize, TrustedConsentReceiptClaims.toJs, hwebauthn, jsRecord,
    ← serdeStruct_eq_print]
  simp only [jsText, jsNatural, serdeString_eq_print, serdeUnsigned_eq_print, List.map_cons,
    List.map_nil]

theorem asBytes_print_jsRecord (members : List (String × JsValue)) :
    ∃ rest, asBytes (String.ofList (JsonText.print (jsRecord members))) = 0x7B :: rest := by
  have hbrace : asBytes (String.ofList ['{']) = [0x7B] := by decide
  rw [jsRecord, JsonText.print_object, asBytes_ofList_cons, hbrace]
  exact ⟨_, rfl⟩

/-- No byte order mark stands before a record. -/
theorem unmarked_record (members : List (String × JsValue)) :
    (asBytes (String.ofList (JsonText.print (jsRecord members)))).take 3 ≠
      [0xEF, 0xBB, 0xBF] := by
  obtain ⟨rest, hbytes⟩ := asBytes_print_jsRecord members
  rw [hbytes]
  intro h
  exact absurd (List.cons.inj h).1 (by decide)

/-! ## The Authority reads a receipt -/

section Authority

/-- The one trusted key of the signer's name verifies what the signer signed. -/
def Vouched {scheme : Ed25519} (signer : AuthoritySigningKey scheme)
    (trustedKeys : List AuthorityJwk) (signingInput : String) : Prop :=
  ∃ key, trustedKeys.filter (fun key => key.kid == signer.published.kid) = [key] ∧
    scheme.verify key.publicKey (asBytes signingInput)
      (scheme.sign signer.seed (asBytes signingInput)) = true

theorem headerBytes_ne_nil (typ kid : String) :
    asBytes (String.ofList (serializeHeader typ "Ed25519" kid)) ≠ [] := by
  obtain ⟨rest, hbytes⟩ := asBytes_print_jsRecord _
  rw [serializeHeader_eq, trustedHeaderToJs, hbytes]
  exact List.cons_ne_nil _ _

theorem claimsBytes_ne_nil (claims : TrustedConsentReceiptClaims) :
    asBytes (String.ofList claims.serialize) ≠ [] := by
  obtain ⟨rest, hbytes⟩ := asBytes_print_jsRecord _
  rw [serialize_eq, TrustedConsentReceiptClaims.toJs, hbytes]
  exact List.cons_ne_nil _ _

theorem signature_ne_nil {scheme : Ed25519} (signer : AuthoritySigningKey scheme)
    (signingInput : String) : scheme.sign signer.seed (asBytes signingInput) ≠ [] := by
  apply List.ne_nil_of_length_pos
  rw [scheme.length_sign]
  exact Nat.zero_lt_succ 63

theorem splitOn_dots (header payload signature : List UInt8) :
    (Base64Url.encode header ++ "." ++ Base64Url.encode payload ++ "." ++
        Base64Url.encode signature).toList.splitOn '.' =
      [(Base64Url.encode header).toList, (Base64Url.encode payload).toList,
        (Base64Url.encode signature).toList] := by
  have hcharacters : (Base64Url.encode header ++ "." ++ Base64Url.encode payload ++ "." ++
      Base64Url.encode signature).toList = (Base64Url.encode header).toList ++ '.' ::
        ((Base64Url.encode payload).toList ++ '.' :: (Base64Url.encode signature).toList) := by
    simp
  rw [hcharacters, List.splitOn_append_cons_self_of_not_mem (dot_notMem_encode header),
    List.splitOn_append_cons_self_of_not_mem (dot_notMem_encode payload),
    List.splitOn_eq_singleton (dot_notMem_encode signature)]

theorem encode_isEmpty {bytes : List UInt8} (hsome : bytes ≠ []) :
    (Base64Url.encode bytes).toList.isEmpty = false := by
  have hlength := Base64Url.length_encode bytes
  have hpositive := List.length_pos_iff.mpr hsome
  rw [← String.length_toList] at hlength
  rw [List.isEmpty_eq_false_iff]
  apply List.ne_nil_of_length_pos
  omega

theorem parse_signed {header payload signature : List UInt8} (hheader : header ≠ [])
    (hpayload : payload ≠ []) (hsignature : signature ≠ []) :
    CompactJws.parse (Base64Url.encode header ++ "." ++ Base64Url.encode payload ++ "." ++
        Base64Url.encode signature) = .ok {
      protectedHeader := Base64Url.encode header
      payload := Base64Url.encode payload
      signature := Base64Url.encode signature
      signingInput := Base64Url.encode header ++ "." ++ Base64Url.encode payload } := by
  rw [CompactJws.parse, splitOn_dots]
  simp only [encode_isEmpty hheader, encode_isEmpty hpayload, encode_isEmpty hsignature,
    Bool.or_self, Bool.false_eq_true, if_false, String.ofList_toList]

theorem decodeBase64urlStrict_encode (bytes : List UInt8) :
    decodeBase64urlStrict (Base64Url.encode bytes) = .ok bytes := by
  rw [decodeBase64urlStrict, Base64Url.decode_encode]
  exact if_pos rfl

theorem decodeJsonWith_encode {Value : Type} {read : List UInt8 → Option Value}
    {bytes : List UInt8} {value : Value} (hread : read bytes = some value) :
    decodeJsonWith read (Base64Url.encode bytes) = .ok value := by
  rw [decodeJsonWith, decodeBase64urlStrict_encode, ok_bind, hread]

/-- The Authority takes the claims of a receipt under the one key of its name. -/
theorem verifyAuthorityPayload_signed {scheme : Ed25519} {serde : SerdeJson}
    {signer : AuthoritySigningKey scheme} {claims : TrustedConsentReceiptClaims}
    {signatureType : String} {trustedKeys : List AuthorityJwk}
    {found : String × TrustedConsentReceiptClaims} :
    verifyAuthorityPayload scheme serde
        (signer.signAuthorityPayload signatureType claims.serialize) signatureType trustedKeys =
      .ok found ↔
    Vouched signer trustedKeys (signer.signingInput signatureType claims.serialize) ∧
      found = (signer.published.kid, claims) := by
  generalize hinput : signer.signingInput signatureType claims.serialize = input
  have hparsed := parse_signed (headerBytes_ne_nil signatureType signer.published.kid)
    (claimsBytes_ne_nil claims) (signature_ne_nil signer input)
  rw [← AuthoritySigningKey.signingInput, hinput] at hparsed
  have hheader := decodeJsonWith_encode
    (serde.readHeader_serialize signatureType "Ed25519" signer.published.kid)
  have hclaims := decodeJsonWith_encode (serde.readClaims_serialize claims)
  have hsignature := decodeBase64urlStrict_encode (scheme.sign signer.seed (asBytes input))
  have halgorithm : validateAlgorithm "Ed25519" "Ed25519" = .ok () := if_pos rfl
  rw [verifyAuthorityPayload, AuthoritySigningKey.signAuthorityPayload, hinput, hparsed, Vouched]
  simp only [ok_bind, hheader, halgorithm, Bool.false_eq_true, if_false, ne_eq, not_true_eq_false]
  cases hfilter : trustedKeys.filter fun key => key.kid == signer.published.kid with
  | nil => simp
  | cons key others =>
      cases others with
      | cons second others => simp
      | nil =>
          simp only [hsignature, hclaims, ok_bind]
          by_cases hverified : scheme.verify key.publicKey (asBytes input)
              (scheme.sign signer.seed (asBytes input)) = true
          · simp only [hverified, Bool.true_eq_false, if_false, Except.ok.injEq, List.cons.injEq,
              and_true, exists_eq_left', true_and]
            exact eq_comm
          · simp [Bool.eq_false_iff.mpr hverified]

end Authority

/-! ## The client reads a receipt -/

namespace Headless

theorem decodeBase64Url_encode {bytes : List UInt8} (hsome : bytes ≠ []) :
    decodeBase64Url (CodeUnits.ofString (Base64Url.encode bytes)) = .ok bytes := by
  have hcharacters : (Base64Url.encode bytes).toList.all isBase64UrlCharacter = true :=
    encode_opaque bytes
  have hgood : ((Base64Url.encode bytes).isEmpty ||
      !(Base64Url.encode bytes).toList.all isBase64UrlCharacter) = false := by
    rw [hcharacters, Bool.not_true, Bool.or_false, ← Bool.not_eq_true, String.isEmpty_iff]
    intro hempty
    have hsegment := encode_isEmpty hsome
    rw [hempty] at hsegment
    exact absurd hsegment (by decide)
  rw [decodeBase64Url, CodeUnits.maybeText_ofString]
  simp only [hgood, Bool.false_eq_true, if_false, Base64Url.decode_encode]

/-- A record is read back from the segment its text is encoded in. -/
theorem decodeJson_record {members : List (String × JsValue)}
    (hprintable : JsonText.Printable (jsRecord members))
    (hsettled : JsonText.settle (jsRecord members) = jsRecord members) :
    decodeJson (CodeUnits.ofString (Base64Url.encode
        (asBytes (String.ofList (JsonText.print (jsRecord members)))))) =
      .ok (jsRecord members) := by
  obtain ⟨rest, hbytes⟩ := asBytes_print_jsRecord members
  have hsome : asBytes (String.ofList (JsonText.print (jsRecord members))) ≠ [] := by
    rw [hbytes]
    exact List.cons_ne_nil _ _
  rw [decodeJson, decodeBase64Url_encode hsome, ok_bind,
    TextDecoder.decode_asBytes (unmarked_record members), JsonText.parse_print hprintable, hsettled]

theorem parseCompactJws_segments {header payload signature : List UInt8} (hheader : header ≠ [])
    (hpayload : payload ≠ []) (hsignature : signature ≠ [])
    (hlength : (Base64Url.encode header ++ "." ++ Base64Url.encode payload ++ "." ++
      Base64Url.encode signature).length ≤ maximumCompactReceiptLength) :
    parseCompactJws (CodeUnits.ofString (Base64Url.encode header ++ "." ++
        Base64Url.encode payload ++ "." ++ Base64Url.encode signature)) = .ok {
      protectedHeader := CodeUnits.ofString (Base64Url.encode header)
      payload := CodeUnits.ofString (Base64Url.encode payload)
      signature := CodeUnits.ofString (Base64Url.encode signature)
      signingInput := CodeUnits.ofString
        (Base64Url.encode header ++ "." ++ Base64Url.encode payload) } := by
  have hdot : CodeUnits.ofString "." = [46] := by decide
  have hunits : (CodeUnits.ofString (Base64Url.encode header ++ "." ++
      Base64Url.encode payload ++ "." ++ Base64Url.encode signature)).length =
      (Base64Url.encode header ++ "." ++ Base64Url.encode payload ++ "." ++
        Base64Url.encode signature).length := by
    simp only [ofString_append, hdot, List.length_append, length_units_encode,
      String.length_append, Base64Url.length_encode]
    rfl
  rw [parseCompactJws, hunits, if_neg (by omega), splitOn_segments]
  simp only [encode_ne_nil hheader, encode_ne_nil hpayload, encode_ne_nil hsignature, or_self,
    if_false, ofString_append, hdot, List.append_assoc, List.singleton_append]

theorem decodeJson_header (typ alg kid : String) :
    decodeJson (CodeUnits.ofString (Base64Url.encode
        (asBytes (String.ofList (serializeHeader typ alg kid))))) =
      .ok (trustedHeaderToJs typ alg kid) := by
  rw [serializeHeader_eq]
  apply decodeJson_record
  · simp [printable_jsRecord, jsText, JsonText.Printable]
  · rfl

theorem decodeJson_claims (claims : TrustedConsentReceiptClaims) :
    decodeJson (CodeUnits.ofString (Base64Url.encode
        (asBytes (String.ofList claims.serialize)))) = .ok claims.toJs := by
  rw [serialize_eq]
  apply decodeJson_record
  · simp [printable_jsRecord, webauthnToJs, jsText, jsNatural, JsonText.Printable]
  · rfl

/-! ### Keys -/

/-- A trusted key as the client is given it. -/
def trustedKey (key : AuthorityJwk) : AuthorityVerificationJwk :=
  let wire := key.toWire
  { kid := CodeUnits.ofString wire.kid
    maybeKty := some (CodeUnits.ofString wire.kty)
    maybeCrv := some (CodeUnits.ofString wire.crv)
    maybeX := some (CodeUnits.ofString wire.x)
    alg := CodeUnits.ofString wire.alg
    publicKeyUse := CodeUnits.ofString wire.publicKeyUse
    keyOps := wire.keyOps.map CodeUnits.ofString }

theorem selectKey_trustedKeys {trustedKeys : List AuthorityJwk} {kid : String}
    {found : AuthorityVerificationJwk} :
    selectKey (trustedKeys.map trustedKey) (CodeUnits.ofString kid) = .ok found ↔
      ∃ key, trustedKeys.filter (fun key => key.kid == kid) = [key] ∧ found = trustedKey key := by
  have hname : (fun key : AuthorityVerificationJwk => key.kid == CodeUnits.ofString kid) ∘
      trustedKey = fun key => key.kid == kid := by
    funext key
    exact CodeUnits.ofString_injective.beq_eq
  have hprofile (key : AuthorityJwk) : ¬ ((trustedKey key).maybeKty ≠
      some (CodeUnits.ofString "OKP") ∨ (trustedKey key).maybeCrv ≠
        some (CodeUnits.ofString "Ed25519") ∨
      (trustedKey key).alg ≠ CodeUnits.ofString "Ed25519" ∨
      (trustedKey key).publicKeyUse ≠ CodeUnits.ofString "sig" ∨
      JsonText.print (.array ((trustedKey key).keyOps.map .string)) ≠ "[\"verify\"]".toList) := by
    have hkeyOps : JsonText.print (.array ((trustedKey key).keyOps.map .string)) =
        "[\"verify\"]".toList := by
      change JsonText.print (.array [.string (CodeUnits.ofString "verify")]) = _
      decide +kernel
    rw [hkeyOps]
    simp [trustedKey, AuthorityJwk.toWire]
  rw [selectKey, List.filter_map, hname]
  cases hfilter : trustedKeys.filter fun key => key.kid == kid with
  | nil => simp
  | cons key others =>
      cases others with
      | cons second others => simp
      | nil =>
          simp only [List.map_cons, List.map_nil, if_neg (hprofile key), Except.ok.injEq,
            List.cons.injEq, and_true, exists_eq_left']
          exact eq_comm

theorem importKey_trustedKey (key : AuthorityJwk) :
    importKey (trustedKey key) = .ok key.publicKey := by
  have hx : (trustedKey key).maybeX >>= CodeUnits.maybeText >>= Base64Url.decode =
      some key.publicKey := by
    rw [trustedKey, AuthorityJwk.toWire]
    simp [CodeUnits.maybeText_ofString, Base64Url.decode_encode]
  rw [importKey, hx]
  exact if_pos key.length_publicKey

theorem length_ofString_ne_zero {text : String} (hsome : text ≠ "") :
    (CodeUnits.ofString text).length ≠ 0 := by
  intro hempty
  exact hsome (CodeUnits.ofString_injective (List.eq_nil_of_length_eq_zero hempty))

/-- The members of a header the Authority writes. -/
def headerMembers (kid : String) : List (CodeUnits × JsValue) :=
  [("typ", jsText trustedConsentReceiptType), ("alg", jsText "Ed25519"), ("kid", jsText kid)].map
    (Prod.map CodeUnits.ofString id)

theorem assertExactKeys_headerMembers (kid : String) :
    assertExactKeys (headerMembers kid) ["alg", "kid", "typ"] "trusted consent header" =
      .ok () := by
  have hkeys : sortedKeys (["typ", "alg", "kid"].map CodeUnits.ofString) =
      sortedKeys (["alg", "kid", "typ"].map CodeUnits.ofString) := by decide +kernel
  exact if_neg (not_not.mpr hkeys)

theorem readHeader_headerMembers {kid : String} (hkid : kid ≠ "") :
    readHeader (headerMembers kid) = .ok (CodeUnits.ofString kid) := by
  have htyp : fieldOf (headerMembers kid) "typ" = jsText trustedConsentReceiptType := rfl
  have halg : fieldOf (headerMembers kid) "alg" = jsText "Ed25519" := rfl
  have hkidField : requiredString (fieldOf (headerMembers kid) "kid") =
      some (CodeUnits.ofString kid) := rfl
  rw [readHeader, htyp, halg, hkidField, isText_jsText, isText_jsText, trustedConsentReceiptType]
  simp only [beq_self_eq_true, Bool.true_eq_false, or_self, if_false,
    length_ofString_ne_zero hkid]

end Headless

end WorkGate
