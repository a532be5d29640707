/-
# The syntax of compact tokens (web/worker-lease-authorization.ts, web/worker-possession.ts,
web/worker-controller-signed-profile.ts, web/bitaxe-firmware-package.ts)

Four verifiers take a compact token apart at its dots, each in its own code, and each of them
turns away a fourth segment only if there is something in it.  What they accept is three segments
joined by two dots, unless a third dot stands behind them with nothing behind it, or with another
dot behind it.  Such a token is accepted wherever the token without the addition is.
-/

import WorkGate.Worker.FirmwarePackages
import WorkGate.Worker.LeaseGuarantees
import WorkGate.Worker.PossessionGuarantees

namespace WorkGate

open WorkGate.Library
open WorkGate.Library.JsonText (setMember)

/-! ## Tokens -/

/-- A text of base64url characters that is not empty. -/
def IsBase64UrlSegment (segment : CodeUnits) : Prop :=
  ∃ text : String, segment = CodeUnits.ofString text ∧ text ≠ "" ∧
    ∀ character ∈ text.toList, isOpaqueIdCharacter character = true

/-- Exactly three segments, joined by two dots. -/
def IsCompactToken (token : CodeUnits) : Prop :=
  ∃ header payload signature, token = header ++ 46 :: (payload ++ 46 :: signature) ∧
    IsBase64UrlSegment header ∧ IsBase64UrlSegment payload ∧ IsBase64UrlSegment signature

/-- A third dot stands behind the third segment, at the end or before another dot. -/
def HasEmptyFourthSegment (token : CodeUnits) : Prop := (token.splitOn 46)[3]? = some []

theorem dot_notMem_ofChar {character : Char} (h : isOpaqueIdCharacter character = true) :
    46 ∉ CodeUnits.ofChar character := by
  intro hmem
  obtain ⟨unit, hunits, hcharacter, -⟩ | ⟨high, low, hunits, hhigh, hlow, -⟩ :=
    CodeUnits.ofChar_cases character
  · rw [hunits, List.mem_singleton] at hmem
    rw [← hmem] at hcharacter
    have hdot : character = '.' := by
      cases hcharacter
      rfl
    rw [hdot] at h
    exact absurd h (by decide)
  · rw [hunits, List.mem_pair] at hmem
    rcases hmem with rfl | rfl
    · exact absurd hhigh (by decide)
    · exact absurd hlow (by decide)

theorem IsBase64UrlSegment.dot_notMem {segment : CodeUnits} (h : IsBase64UrlSegment segment) :
    46 ∉ segment := by
  obtain ⟨text, rfl, -, hall⟩ := h
  intro hmem
  obtain ⟨character, hcharacter, hunit⟩ := List.mem_flatMap.mp hmem
  exact dot_notMem_ofChar (hall character hcharacter) hunit

theorem IsBase64UrlSegment.ne_nil {segment : CodeUnits} (h : IsBase64UrlSegment segment) :
    segment ≠ [] := by
  obtain ⟨text, rfl, hsome, -⟩ := h
  intro hnil
  exact hsome (CodeUnits.ofString_injective hnil)

/-- What is decoded is a segment. -/
theorem segment_of_decodeBase64Url {segment : CodeUnits} {maximumCharacters : ℕ}
    {bytes : List UInt8} (h : decodeBase64Url segment maximumCharacters = some bytes) :
    IsBase64UrlSegment segment := by
  simp only [decodeBase64Url, Option.bind_eq_bind, Option.bind_eq_some_iff] at h
  obtain ⟨_, hlength, text, htext, _, hall, -⟩ := h
  cases CodeUnits.maybeText_eq_some.mp htext
  refine ⟨text, rfl, ?_, List.all_eq_true.mp (guard_eq_some.mp hall)⟩
  rintro rfl
  exact (guard_eq_some.mp hlength).1 rfl

theorem segment_of_decodeSegment {segment : CodeUnits} {maximumCharacters : ℕ}
    {bytes : List UInt8} (h : decodeSegment segment maximumCharacters = some bytes) :
    IsBase64UrlSegment segment :=
  segment_of_decodeBase64Url (Option.filter_eq_some_iff.mp h).1

theorem splitOn_joined {header payload : CodeUnits} (hheader : 46 ∉ header)
    (hpayload : 46 ∉ payload) (last : CodeUnits) :
    (header ++ 46 :: (payload ++ 46 :: last)).splitOn 46 =
      header :: payload :: last.splitOn 46 := by
  rw [List.splitOn_append_cons_self_of_not_mem hheader,
    List.splitOn_append_cons_self_of_not_mem hpayload]

/-- A token that is taken apart has its three segments, and no more in the next one. -/
theorem splitArtifact_eq_some {token header payload signature : CodeUnits} :
    splitArtifact token = some (header, payload, signature) ↔
      ∃ rest, token.splitOn 46 = header :: payload :: signature :: rest ∧ header ≠ [] ∧
        payload ≠ [] ∧ signature ≠ [] ∧ (rest = [] ∨ rest.head? = some []) := by
  have hrest : ∀ rest : List CodeUnits,
      rest.head?.any (· ≠ []) = false ↔ rest = [] ∨ rest.head? = some [] := by
    intro rest
    cases rest with
    | nil => simp
    | cons fourth rest => simp
  rw [splitArtifact]
  split
  · next first second third rest hsegments =>
      rw [hsegments]
      constructor
      · intro h
        split at h
        · cases h
        · next hgood =>
            cases h
            push Not at hgood
            obtain ⟨hheader, hpayload, hsignature, hlast⟩ := hgood
            exact ⟨rest, rfl, hheader, hpayload, hsignature,
              (hrest rest).mp (Bool.not_eq_true _ ▸ hlast)⟩
      · intro h
        obtain ⟨rest, hsame, hheader, hpayload, hsignature, hlast⟩ := h
        cases hsame
        have hnone := (hrest rest).mpr hlast
        have hgood : ¬ (header = [] ∨ payload = [] ∨ signature = [] ∨
            rest.head?.any (· ≠ []) = true) := by
          rw [hnone]
          simp [hheader, hpayload, hsignature]
        exact if_neg hgood
  · next hfew =>
      constructor
      · intro h
        cases h
      · intro h
        obtain ⟨rest, hsegments, -⟩ := h
        exact absurd hsegments (hfew header payload signature rest)

/-- What is taken apart into three segments is a token unless a fourth one follows. -/
theorem isCompactToken_iff {token header payload signature : CodeUnits}
    (hsplit : splitArtifact token = some (header, payload, signature))
    (hheader : IsBase64UrlSegment header) (hpayload : IsBase64UrlSegment payload)
    (hsignature : IsBase64UrlSegment signature) :
    IsCompactToken token ↔ ¬ HasEmptyFourthSegment token := by
  obtain ⟨rest, hsegments, -, -, -, hrest⟩ := splitArtifact_eq_some.mp hsplit
  constructor
  · intro htoken hfourth
    obtain ⟨first, second, third, rfl, hfirst, hsecond, hthird⟩ := htoken
    rw [HasEmptyFourthSegment, splitOn_joined hfirst.dot_notMem hsecond.dot_notMem,
      List.splitOn_eq_singleton hthird.dot_notMem] at hfourth
    cases hfourth
  · intro hfourth
    have hlast : rest = [] := by
      rcases hrest with hnone | hempty
      · exact hnone
      · rw [HasEmptyFourthSegment, hsegments] at hfourth
        exact absurd (by simpa [List.head?_eq_getElem?] using hempty) hfourth
    refine ⟨header, payload, signature, ?_, hheader, hpayload, hsignature⟩
    have hjoined : [46].intercalate (token.splitOn 46) = token := List.intercalate_splitOn 46
    rw [hsegments, hlast] at hjoined
    simpa [List.intercalate, List.intersperse] using hjoined.symm

/-- The segments of a token, and of what follows it behind another dot. -/
theorem splitOn_append_tail {token : CodeUnits} (h : IsCompactToken token) :
    ∃ header payload signature, header ≠ [] ∧ payload ≠ [] ∧ signature ≠ [] ∧
      token.splitOn 46 = [header, payload, signature] ∧
      ∀ tail : CodeUnits, (token ++ 46 :: tail).splitOn 46 =
        header :: payload :: signature :: tail.splitOn 46 := by
  obtain ⟨header, payload, signature, rfl, hheader, hpayload, hsignature⟩ := h
  refine ⟨header, payload, signature, hheader.ne_nil, hpayload.ne_nil, hsignature.ne_nil, ?_, ?_⟩
  · rw [splitOn_joined hheader.dot_notMem hpayload.dot_notMem,
      List.splitOn_eq_singleton hsignature.dot_notMem]
  · intro tail
    simp only [List.append_assoc, List.cons_append]
    rw [splitOn_joined hheader.dot_notMem hpayload.dot_notMem,
      List.splitOn_append_cons_self_of_not_mem hsignature.dot_notMem]

/-- A tail leaves the fourth segment empty if it is empty itself or begins with a dot. -/
theorem hasEmptyFourthSegment_append {token : CodeUnits} (h : IsCompactToken token)
    (tail : CodeUnits) : HasEmptyFourthSegment (token ++ 46 :: tail) ↔
      (tail.splitOn 46).head? = some [] := by
  obtain ⟨header, payload, signature, -, -, -, -, htail⟩ := splitOn_append_tail h
  rw [HasEmptyFourthSegment, htail, List.head?_eq_getElem?]
  rfl

/-- What may follow a token changes nothing about how it is taken apart. -/
theorem splitArtifact_append_tail {token tail : CodeUnits} (h : IsCompactToken token)
    (hfourth : HasEmptyFourthSegment (token ++ 46 :: tail)) :
    splitArtifact (token ++ 46 :: tail) = splitArtifact token := by
  have hempty := (hasEmptyFourthSegment_append h tail).mp hfourth
  obtain ⟨header, payload, signature, hheader, hpayload, hsignature, htoken, htail⟩ :=
    splitOn_append_tail h
  rw [splitArtifact_eq_some.mpr ⟨_, htail tail, hheader, hpayload, hsignature, Or.inr hempty⟩,
    splitArtifact_eq_some.mpr ⟨_, htoken, hheader, hpayload, hsignature, Or.inl rfl⟩]

/-- What is encoded is a segment. -/
theorem segment_encode {bytes : List UInt8} (hsome : bytes ≠ []) :
    IsBase64UrlSegment (CodeUnits.ofString (Base64Url.encode bytes)) := by
  have hall := encode_opaque bytes
  refine ⟨_, rfl, ?_, List.all_eq_true.mp hall⟩
  intro hempty
  have hnil := encode_ne_nil hsome
  rw [hempty] at hnil
  exact hnil rfl

theorem isCompactToken_encode {header payload signature : List UInt8} (hheader : header ≠ [])
    (hpayload : payload ≠ []) (hsignature : signature ≠ []) :
    IsCompactToken (CodeUnits.ofString (Base64Url.encode header ++ "." ++
      Base64Url.encode payload ++ "." ++ Base64Url.encode signature)) := by
  have hdot : CodeUnits.ofString "." = [46] := by decide
  refine ⟨_, _, _, ?_, segment_encode hheader, segment_encode hpayload, segment_encode hsignature⟩
  simp only [ofString_append, hdot, List.append_assoc, List.cons_append, List.nil_append]

/-! ## Records with another field -/

/-- The record with a field put in place of what it had. -/
def withField (key : String) (update : JsValue → JsValue) : JsValue → JsValue
  | .object members => .object (withMember key (update (fieldOf members key)) members)
  | value => value

theorem withField_object (key : String) (update : JsValue → JsValue)
    (members : List (CodeUnits × JsValue)) : withField key update (.object members) =
      .object (withMember key (update (fieldOf members key)) members) := rfl

theorem fieldOf_withMember (key other : String) (value : JsValue)
    (members : List (CodeUnits × JsValue)) : fieldOf (withMember key value members) other =
      if other = key then value else fieldOf members other := by
  rw [fieldOf, withMember, lookup_setMember]
  by_cases hsame : other = key
  · rw [if_pos hsame, if_pos (congrArg CodeUnits.ofString hsame)]
    rfl
  · rw [if_neg hsame, if_neg fun hunits => hsame (CodeUnits.ofString_injective hunits)]
    rfl

theorem keys_setMember (key : CodeUnits) (value other : JsValue)
    (members : List (CodeUnits × JsValue)) :
    (setMember key value members).map Prod.fst = (setMember key other members).map Prod.fst := by
  induction members with
  | nil => rfl
  | cons member members ih =>
      rw [setMember, setMember]
      by_cases hname : member.1 = key
      · rw [if_pos hname, if_pos hname]
        rfl
      · rw [if_neg hname, if_neg hname, List.map_cons, List.map_cons, ih]

theorem hasField_eq (members : List (CodeUnits × JsValue)) (key : String) :
    hasField members key = decide (CodeUnits.ofString key ∈ members.map Prod.fst) := by
  rw [hasField]
  induction members with
  | nil => rfl
  | cons member members ih =>
      rw [lookup_cons_eq]
      by_cases hname : CodeUnits.ofString key = member.1
      · rw [if_pos hname, hname]
        simp
      · rw [if_neg hname, ih, List.map_cons]
        simp [hname]

/-- Whether a record has exactly these fields does not depend on what is in them. -/
theorem exactRecord_withMember {key : String} {value : JsValue} {required optional : List String}
    {members found : List (CodeUnits × JsValue)}
    (h : exactRecord (.object (withMember key value members)) required optional = some found)
    (other : JsValue) : exactRecord (.object (withMember key other members)) required optional =
      some (withMember key other members) := by
  have hkeys := keys_setMember (CodeUnits.ofString key) value other members
  simp only [exactRecord, serialRecord, Option.bind_eq_bind, Option.bind_some,
    Option.bind_eq_some_iff] at h
  obtain ⟨_, hrequired, _, hpermitted, -⟩ := h
  rw [guard_eq_some] at hrequired hpermitted
  have hrequired' : required.all (hasField (withMember key other members)) = true := by
    rw [← hrequired]
    apply congrArg
    funext name
    rw [hasField_eq, hasField_eq, withMember, withMember, hkeys]
  have hpermitted' : ((withMember key other members).all fun member =>
      (required ++ optional).any fun name => CodeUnits.ofString name == member.1) = true := by
    have hall : ∀ entries : List (CodeUnits × JsValue), (entries.all fun member =>
        (required ++ optional).any fun name => CodeUnits.ofString name == member.1) =
        (entries.map Prod.fst).all fun name' =>
          (required ++ optional).any fun name => CodeUnits.ofString name == name' := by
      intro entries
      rw [List.all_map]
      rfl
    rw [hall] at hpermitted ⊢
    rw [← hpermitted, withMember, withMember, hkeys]
  rw [exactRecord, serialRecord]
  exact (bind_of_some rfl).trans ((guard_bind hrequired').trans (guard_bind hpermitted'))

/-! ## The verifiers -/

/-- A verifier, with everything it is given but the token. -/
inductive CompactVerifier
  | workLease (crypto : WebCrypto) (input trust : JsValue)
  | possession (crypto : PossessionCrypto) (binding : WorkerPossessionBinding)
      (response : JsValue)
  | capability (crypto : CapabilityCrypto) (capability manifest : JsValue)
      (trustedKeys : List JsValue) (profile : SignedWorkerControllerProfile)
  | firmware (parseUrl : CodeUnits → Option PageUrl) (crypto : CapabilityCrypto)
      (firmwarePackage : List (CodeUnits × PackageValue)) (trustedKeys : List JsValue)
      (snapshot : BitaxeDeviceSnapshot)

/-- A response with this token in it. -/
def responseWith (token : CodeUnits) : JsValue → JsValue :=
  withField "result" (withField "compactJws" fun _ => .string token)

/-- A capability with this token in it. -/
def capabilityWith (token : CodeUnits) : JsValue → JsValue :=
  withField "attestation" (withField "compactJws" fun _ => .string token)

/-- A package with this token in it. -/
def packageWith (token : CodeUnits) (members : List (CodeUnits × PackageValue)) :
    List (CodeUnits × PackageValue) :=
  members.map fun member =>
    if member.1 = CodeUnits.ofString "signature" then (member.1, .data (.string token)) else member

/-- Whether a token is accepted. -/
def CompactVerifier.accepts : CompactVerifier → CodeUnits → Bool
  | .workLease crypto input trust, token =>
      (verifyWorkerLeaseAuthorization crypto (.string token) input trust).isSome
  | .possession crypto binding response, token =>
      (verifyPossessionResponse crypto binding (responseWith token response)).isSome
  | .capability crypto value manifest trustedKeys profile, token =>
      (verifySignedWorkerControllerCapability crypto (capabilityWith token value) manifest
        trustedKeys profile).toOption.isSome
  | .firmware parseUrl crypto firmwarePackage trustedKeys snapshot, token =>
      (admitFirmwarePackage parseUrl crypto (some (packageWith token firmwarePackage)) trustedKeys
        snapshot).toOption.isSome

/-- The bound on a token, before it is taken apart. -/
def CompactVerifier.fits : CompactVerifier → CodeUnits → Bool
  | .workLease .., token => (CodeUnits.utf8 token).length ≤ maximumWorkerLeaseAuthorizationBytes
  | .possession .., token => token.length ≤ 8192
  | .capability .., token => token.length ≤ 8192
  | .firmware .., token => token.length ≤ 131072

/-- What a verifier makes of a token that it accepts: three segments, and what it looks at beside
them is only the bound. -/
structure CompactVerifier.ReadsSegments (verifier : CompactVerifier) (token : CodeUnits) :
    Prop where
  segments : ∃ header payload signature, splitArtifact token = some (header, payload, signature) ∧
    IsBase64UrlSegment header ∧ IsBase64UrlSegment payload ∧ IsBase64UrlSegment signature
  transfers : ∀ other, splitArtifact other = splitArtifact token → verifier.fits other = true →
    verifier.accepts other = true

theorem readsSegments_workLease {crypto : WebCrypto} {input trust : JsValue} {token : CodeUnits}
    (h : (CompactVerifier.workLease crypto input trust).accepts token = true) :
    (CompactVerifier.workLease crypto input trust).ReadsSegments token := by
  obtain ⟨verified, hverified⟩ := Option.isSome_iff_exists.mp h
  unfold verifyWorkerLeaseAuthorization at hverified
  obtain ⟨artifact, hartifact, hverified⟩ := Option.bind_eq_some_iff.mp hverified
  cases hartifact
  obtain ⟨_, -, hverified⟩ := Option.bind_eq_some_iff.mp hverified
  obtain ⟨parsed, hparsed, hverified⟩ := Option.bind_eq_some_iff.mp hverified
  obtain ⟨trusted, htrusted, hverified⟩ := Option.bind_eq_some_iff.mp hverified
  constructor
  case segments =>
    obtain ⟨⟨header, payload, signature⟩, hsplit, hrest⟩ := Option.bind_eq_some_iff.mp hverified
    obtain ⟨headerBytes, hheader, hrest⟩ := Option.bind_eq_some_iff.mp hrest
    obtain ⟨payloadBytes, hpayload, hrest⟩ := Option.bind_eq_some_iff.mp hrest
    obtain ⟨signatureBytes, hsignature, -⟩ := Option.bind_eq_some_iff.mp hrest
    exact ⟨header, payload, signature, hsplit, segment_of_decodeSegment hheader,
      segment_of_decodeSegment hpayload, segment_of_decodeSegment hsignature⟩
  case transfers =>
    intro other hsame hfits
    apply Option.isSome_iff_exists.mpr
    refine ⟨verified, ?_⟩
    unfold verifyWorkerLeaseAuthorization
    refine (bind_of_some rfl).trans ?_
    refine (guard_bind (of_decide_eq_true hfits)).trans ?_
    refine (bind_of_some hparsed).trans ?_
    refine (bind_of_some htrusted).trans ?_
    rw [hsame]
    exact hverified

/-- Only an object has a field that can be replaced. -/
theorem serialRecord_withField {key : String} {update : JsValue → JsValue} {value : JsValue}
    {members : List (CodeUnits × JsValue)}
    (h : serialRecord (withField key update value) = some members) :
    ∃ entries, value = .object entries := by
  cases value with
  | object entries => exact ⟨entries, rfl⟩
  | undefined => cases h
  | null => cases h
  | bool flag => cases h
  | number number => cases h
  | string units => cases h
  | array elements => cases h

theorem exactRecord_withField {key : String} {update : JsValue → JsValue} {value : JsValue}
    {required optional : List String} {members : List (CodeUnits × JsValue)}
    (h : exactRecord (withField key update value) required optional = some members) :
    ∃ entries, value = .object entries ∧
      members = withMember key (update (fieldOf entries key)) entries := by
  obtain ⟨record, hrecord, -⟩ := Option.bind_eq_some_iff.mp h
  obtain ⟨entries, rfl⟩ := serialRecord_withField hrecord
  cases exactRecord_eq_some h
  exact ⟨entries, rfl, rfl⟩

/-- Another token in a response changes nothing else that is read. -/
theorem parsePossessionResponse_responseWith {response : JsValue} {token compactJws : CodeUnits}
    {requestId : String} {claims : WorkerPossessionClaims}
    (h : parsePossessionResponse (responseWith token response) =
      some (.proved requestId claims compactJws)) :
    compactJws = token ∧ ∀ other : CodeUnits, other.length ≤ 8192 →
      parsePossessionResponse (responseWith other response) =
        some (.proved requestId claims other) := by
  have hobject : ∃ members, response = .object members := by
    obtain ⟨envelope, henvelope, -⟩ := Option.bind_eq_some_iff.mp h
    exact serialRecord_withField henvelope
  obtain ⟨members, rfl⟩ := hobject
  have hfields : ∀ key value, key ≠ "result" →
      fieldOf (withMember "result" value members) key = fieldOf members key := by
    intro key value hkey
    rw [fieldOf_withMember, if_neg hkey]
  have hprofile := fun value => hfields "profile" value (by decide)
  have hrequestId := fun value => hfields "requestId" value (by decide)
  have hok := fun value => hfields "ok" value (by decide)
  have hresult : ∀ value, fieldOf (withMember "result" value members) "result" = value := by
    intro value
    rw [fieldOf_withMember, if_pos rfl]
  simp only [responseWith, withField_object, parsePossessionResponse, serialRecord, hprofile,
    hrequestId, hok, Option.bind_eq_bind, Option.bind_some] at h ⊢
  obtain ⟨_, hguard, h⟩ := Option.bind_eq_some_iff.mp h
  obtain ⟨id, hid, h⟩ := Option.bind_eq_some_iff.mp h
  rw [hid]
  split at h
  · next hflag =>
      simp only [Option.bind_eq_some_iff] at h
      obtain ⟨record, hrecord, result, hinner, found, hfound, parsed, hparsed, hresponse⟩ := h
      cases exactRecord_eq_some hrecord
      rw [hresult] at hinner
      obtain ⟨entries, hentries, rfl⟩ := exactRecord_withField hinner
      have hclaims : ∀ value, fieldOf (withMember "compactJws" value entries) "claims" =
          fieldOf entries "claims" := by
        intro value
        rw [fieldOf_withMember, if_neg (by decide)]
      have htoken : ∀ value, fieldOf (withMember "compactJws" value entries) "compactJws" =
          value := by
        intro value
        rw [fieldOf_withMember, if_pos rfl]
      rw [htoken, requiredString] at hfound
      rw [hclaims] at hparsed
      obtain ⟨hsame, -⟩ := Option.filter_eq_some_iff.mp hfound
      cases hsame
      cases hresponse
      refine ⟨rfl, ?_⟩
      intro other hlength
      rw [hentries, withField_object] at hinner ⊢
      have hpassed : (requiredString (.string other)).filter (·.length ≤ 8192) = some other :=
        Option.filter_some_pos (decide_eq_true hlength)
      refine (bind_of_some hguard).trans ?_
      rw [Option.bind_some]
      refine (bind_of_some (exactRecord_withMember hrecord _)).trans ?_
      rw [hresult]
      refine (bind_of_some (exactRecord_withMember hinner _)).trans ?_
      rw [htoken, hclaims]
      exact (bind_of_some hpassed).trans (bind_of_some hparsed)
  · simp only [Option.bind_eq_some_iff] at h
    obtain ⟨record, -, code, -, hresponse⟩ := h
    cases hresponse
  · cases h

theorem readsSegments_possession {crypto : PossessionCrypto} {binding : WorkerPossessionBinding}
    {response : JsValue} {token : CodeUnits}
    (h : (CompactVerifier.possession crypto binding response).accepts token = true) :
    (CompactVerifier.possession crypto binding response).ReadsSegments token := by
  obtain ⟨verified, hverified⟩ := Option.isSome_iff_exists.mp h
  obtain ⟨parsed, hparsed, hrest⟩ := Option.bind_eq_some_iff.mp hverified
  cases parsed with
  | failed requestId code => cases hrest
  | proved requestId claims compactJws =>
      obtain ⟨rfl, hother⟩ := parsePossessionResponse_responseWith hparsed
      simp only [Option.bind_eq_bind, Option.bind_eq_some_iff] at hrest
      obtain ⟨_, hrequest, checked, hchecked, _, hcanonical, _, hcommit, _, helf,
        ⟨header, payload, signature⟩, hsplit, _, hlengths, headerBytes, hheader, _, hheaderRecord,
        payloadBytes, hpayload, decoded, hdecoded, _, hpayloadText, signatureBytes, hsignature,
        valid, hvalid, _, hverified, _, hground, key, hkey, -⟩ := hrest
      constructor
      case segments =>
        exact ⟨header, payload, signature, hsplit, segment_of_decodeBase64Url hheader,
          segment_of_decodeBase64Url hpayload, segment_of_decodeBase64Url hsignature⟩
      case transfers =>
        intro other hsame hfits
        have hread := hother other (of_decide_eq_true hfits)
        rw [← hsame] at hsplit
        rw [CompactVerifier.accepts, verifyPossessionResponse, hread]
        simp only [Option.bind_eq_bind, Option.bind_some, hrequest, hchecked, hcanonical, hcommit,
          helf, hsplit, hlengths, hheader, hheaderRecord, hpayload, hdecoded, hpayloadText,
          hsignature, hvalid, hverified, hground, hkey]
        rfl

/-- Another token in an attestation changes nothing else that is read. -/
theorem parseCapabilityAttestation_withToken {value : JsValue} {token : CodeUnits}
    {profile : SignedWorkerControllerProfile} {attestation : CapabilityAttestation}
    (h : parseCapabilityAttestation (withField "compactJws" (fun _ => .string token) value)
      profile = .ok attestation) :
    attestation.compactJws = token ∧ ∀ other : CodeUnits, other ≠ [] → other.length ≤ 8192 →
      parseCapabilityAttestation (withField "compactJws" (fun _ => .string other) value) profile =
        .ok { attestation with compactJws := other } := by
  unfold parseCapabilityAttestation at h ⊢
  obtain ⟨record, hrecord, h⟩ := bind_eq_ok.mp h
  have hexact := orThrow_eq_ok.mp hrecord
  obtain ⟨entries, rfl, rfl⟩ := exactRecord_withField hexact
  have hclaims : ∀ value, fieldOf (withMember "compactJws" value entries) "claims" =
      fieldOf entries "claims" := by
    intro value
    rw [fieldOf_withMember, if_neg (by decide)]
  have htoken : ∀ value, fieldOf (withMember "compactJws" value entries) "compactJws" =
      value := by
    intro value
    rw [fieldOf_withMember, if_pos rfl]
  simp only [hclaims, htoken] at h ⊢
  simp only [bind_eq_ok] at h
  obtain ⟨claims, hclaimed, board, hboard, firmware, hfirmware, compatibility, hcompatibility,
    _, hprofile, named, hnamed, name, hname, version, hversion, reference, hreference, _,
    hsupported, _, hpreservation, _, htransport, manifest, hmanifest, found, hfound,
    hattestation⟩ := h
  obtain ⟨hsame, -⟩ := Option.filter_eq_some_iff.mp (orThrow_eq_ok.mp hfound)
  cases hsame
  cases pure_eq_ok.mp hattestation
  refine ⟨rfl, ?_⟩
  intro other hsome hlength
  have hrecorded : exactCapabilityRecord .capability
      (withField "compactJws" (fun _ => .string other) (.object entries))
      ["claims", "compactJws"] [] = .ok (withMember "compactJws" (.string other) entries) :=
    orThrow_eq_ok.mpr (exactRecord_withMember hexact _)
  have hpassed : orThrow CapabilityFailure.capability (attestationToken (.string other)) =
      .ok other := by
    apply orThrow_eq_ok.mpr
    apply Option.filter_some_pos
    simp [hsome, hlength]
  rw [hrecorded]
  simp only [ok_bind, hclaims, htoken, hclaimed, hboard, hfirmware, hcompatibility, hprofile,
    hnamed, hname, hversion, hreference, hsupported, hpreservation, htransport, hmanifest, hpassed]
  rfl

/-- The capabilities without their attestation do not depend on it. -/
theorem withoutAttestation_withMember (attestation other : JsValue)
    (value board : List (CodeUnits × JsValue)) :
    withoutAttestation (withMember "attestation" attestation value) board =
      withoutAttestation (withMember "attestation" other value) board := by
  have hfilter : ∀ keep : CodeUnits × JsValue → Bool, ∀ key : CodeUnits,
      (∀ value, keep (key, value) = false) →
      (setMember key attestation value).filter keep = (setMember key other value).filter keep := by
    intro keep key hkey
    induction value with
    | nil => simp [setMember, hkey]
    | cons member members ih =>
        obtain ⟨name, held⟩ := member
        rw [setMember, setMember]
        by_cases hname : name = key
        · subst hname
          rw [if_pos rfl, if_pos rfl]
          simp [hkey]
        · rw [if_neg hname, if_neg hname, List.filter_cons, List.filter_cons, ih]
  have hsame := hfilter (fun member => member.1 ≠ CodeUnits.ofString "transportProfile" ∧
    member.1 ≠ CodeUnits.ofString "attestation") (CodeUnits.ofString "attestation") (by simp)
  simp only [withoutAttestation, withMember, hsame]

/-- Another token in a capability changes nothing else that is read. -/
theorem parseSignedWorkerControllerCapabilities_capabilityWith {value : JsValue}
    {token : CodeUnits} {profile : SignedWorkerControllerProfile}
    {admitted : SignedWorkerControllerCapabilities}
    (h : parseSignedWorkerControllerCapabilities (capabilityWith token value) profile =
      .ok admitted) :
    admitted.attestation.compactJws = token ∧ ∀ other : CodeUnits, other ≠ [] →
      other.length ≤ 8192 →
      parseSignedWorkerControllerCapabilities (capabilityWith other value) profile =
        .ok { admitted with attestation := { admitted.attestation with compactJws := other } } := by
  have hobject : ∃ members, value = .object members := by
    obtain ⟨record, hrecord, -⟩ := bind_eq_ok.mp h
    exact serialRecord_withField (orThrow_eq_ok.mp hrecord)
  obtain ⟨members, rfl⟩ := hobject
  have hfields : ∀ key value, key ≠ "attestation" →
      fieldOf (withMember "attestation" value members) key = fieldOf members key := by
    intro key value hkey
    rw [fieldOf_withMember, if_neg hkey]
  have hboard := fun value => hfields "board" value (by decide)
  have hversion := fun value => hfields "protocolVersion" value (by decide)
  have htransport := fun value => hfields "transportProfile" value (by decide)
  have hattestation : ∀ value, fieldOf (withMember "attestation" value members) "attestation" =
      value := by
    intro value
    rw [fieldOf_withMember, if_pos rfl]
  simp only [capabilityWith, withField_object, parseSignedWorkerControllerCapabilities,
    serialRecord, orThrow, ok_bind, hboard, hversion, htransport, hattestation] at h ⊢
  simp only [bind_eq_ok] at h
  obtain ⟨board, hboardRecord, _, hnamed, attestation, hparsed, semantic, hsemantic, _, hclaims,
    hadmitted⟩ := h
  obtain ⟨rfl, hother⟩ := parseCapabilityAttestation_withToken hparsed
  cases pure_eq_ok.mp hadmitted
  refine ⟨rfl, ?_⟩
  intro other hsome hlength
  rw [withoutAttestation_withMember _
    (withField "compactJws" (fun _ => .string other) (fieldOf members "attestation"))] at hsemantic
  simp only [ok_bind, hboardRecord, hnamed, hother other hsome hlength, hsemantic, hclaims]
  rfl

theorem readsSegments_capability {crypto : CapabilityCrypto} {value manifest : JsValue}
    {trustedKeys : List JsValue} {profile : SignedWorkerControllerProfile} {token : CodeUnits}
    (h : (CompactVerifier.capability crypto value manifest trustedKeys profile).accepts token =
      true) :
    (CompactVerifier.capability crypto value manifest trustedKeys profile).ReadsSegments token := by
  obtain ⟨verified, hverified⟩ := Option.isSome_iff_exists.mp h
  rw [toOption_eq_some] at hverified
  simp only [verifySignedWorkerControllerCapability, bind_eq_ok] at hverified
  obtain ⟨admitted, hadmitted, admittedManifest, hmanifest, keys, hkeys,
    ⟨header, payload, signature⟩, hsegments, headerBytes, hheader, payloadBytes, hpayload,
    signatureBytes, hsignature, kid, hkid, key, hkey, decoded, hdecoded, _, hclaims, _, hreference,
    valid, hvalid, _, hpassed, -⟩ := hverified
  obtain ⟨rfl, hother⟩ := parseSignedWorkerControllerCapabilities_capabilityWith hadmitted
  obtain ⟨hsplit, hlengths⟩ := Option.filter_eq_some_iff.mp (orThrow_eq_ok.mp hsegments)
  constructor
  case segments =>
    exact ⟨header, payload, signature, hsplit,
      segment_of_decodeSegment (orThrow_eq_ok.mp hheader),
      segment_of_decodeSegment (orThrow_eq_ok.mp hpayload),
      segment_of_decodeSegment (orThrow_eq_ok.mp hsignature)⟩
  case transfers =>
    intro other hsame hfits
    have hsome : other ≠ [] := by
      rintro rfl
      rw [hsplit] at hsame
      cases hsame
    have hread := hother other hsome (of_decide_eq_true hfits)
    have hfound : orThrow CapabilityFailure.attestation (capabilitySegments other) =
        .ok (header, payload, signature) := by
      rw [← hsegments, capabilitySegments, capabilitySegments, hsame]
    rw [CompactVerifier.accepts, verifySignedWorkerControllerCapability, hread]
    simp only [ok_bind, hmanifest, hkeys, hfound, hheader, hpayload,
      hsignature, hkid, hkey, hdecoded, hclaims, hreference, hvalid, hpassed]
    rfl

theorem lookup_packageWith (token : CodeUnits) (members : List (CodeUnits × PackageValue))
    (key : CodeUnits) : (packageWith token members).lookup key =
      if key = CodeUnits.ofString "signature" then
        (members.lookup key).map fun _ => .data (.string token)
      else members.lookup key := by
  induction members with
  | nil => simp [packageWith]
  | cons member members ih =>
      obtain ⟨name, value⟩ := member
      rw [packageWith, List.map_cons, ← packageWith, lookup_cons_eq, ih]
      by_cases hname : name = CodeUnits.ofString "signature"
      · rw [if_pos hname]
        dsimp only
        by_cases hkey : key = name
        · simp [hkey, hname]
        · rw [if_neg hkey, List.lookup_cons, beq_eq_false_iff_ne.mpr hkey]
      · rw [if_neg hname]
        dsimp only
        by_cases hkey : key = name
        · simp [hkey, hname]
        · rw [if_neg hkey, List.lookup_cons, beq_eq_false_iff_ne.mpr hkey]

theorem hasExactKeys_packageWith (token : CodeUnits) (members : List (CodeUnits × PackageValue))
    (required : List String) :
    hasExactKeys (packageWith token members) required = hasExactKeys members required := by
  have hname : ∀ member : CodeUnits × PackageValue,
      (if member.1 = CodeUnits.ofString "signature" then
        (member.1, PackageValue.data (.string token)) else member).1 = member.1 := by
    intro member
    split
    · rfl
    · rfl
  have hlookup : ∀ key, ((packageWith token members).lookup key).isSome =
      (members.lookup key).isSome := by
    intro key
    rw [lookup_packageWith]
    split
    · rw [Option.isSome_map]
    · rfl
  rw [hasExactKeys, hasExactKeys, packageWith, List.all_map, ← packageWith]
  simp only [Function.comp_def, hname, hlookup]

/-- Another token in a package changes nothing else that is read. -/
theorem parseFirmwarePackage_packageWith {parseUrl : CodeUnits → Option PageUrl}
    {members : List (CodeUnits × PackageValue)} {token : CodeUnits} {admitted : FirmwarePackage}
    (h : parseFirmwarePackage parseUrl (some (packageWith token members)) = .ok admitted) :
    admitted.signature = token ∧ ∀ other : CodeUnits, other.length ≤ 131072 →
      parseFirmwarePackage parseUrl (some (packageWith other members)) =
        .ok { admitted with signature := other } := by
  have hfields : ∀ token key, key ≠ "signature" →
      packageField (packageWith token members) key = packageField members key := by
    intro token key hkey
    rw [packageField, lookup_packageWith,
      if_neg fun hunits => hkey (CodeUnits.ofString_injective hunits)]
    rfl
  have himage := fun token => hfields token "image" (by decide)
  have hmanifest := fun token => hfields token "manifest" (by decide)
  simp only [parseFirmwarePackage, bind_eq_ok] at h
  obtain ⟨value, hvalue, image, hbytes, _, hsize, signature, hsignature, manifest, hread,
    hadmitted⟩ := h
  obtain ⟨hsame, hkeys⟩ := Option.filter_eq_some_iff.mp (orThrow_eq_ok.mp hvalue)
  cases hsame
  rw [hasExactKeys_packageWith] at hkeys
  have htoken : ∀ token, (packageField (packageWith token members) "signature").asData =
      .string token := by
    intro token
    have hthere := List.all_eq_true.mp (Bool.and_eq_true_iff.mp hkeys).2 "signature" (by simp)
    obtain ⟨found, hfound⟩ := Option.isSome_iff_exists.mp hthere
    rw [packageField, lookup_packageWith, if_pos rfl, hfound]
    rfl
  rw [htoken] at hsignature
  obtain ⟨hsame, -⟩ := Option.filter_eq_some_iff.mp (orThrow_eq_ok.mp hsignature)
  cases hsame
  cases pure_eq_ok.mp hadmitted
  refine ⟨rfl, ?_⟩
  intro other hlength
  have hfound : orThrow FirmwareFailure.package ((some (packageWith other members)).filter
      fun members => hasExactKeys members ["manifest", "image", "signature"]) =
      .ok (packageWith other members) := by
    apply orThrow_eq_ok.mpr
    apply Option.filter_some_pos
    rw [hasExactKeys_packageWith, hkeys]
  have hpassed : orThrow FirmwareFailure.signature
      ((requiredString (.string other)).filter fun units => units.length ≤ 131072) = .ok other := by
    apply orThrow_eq_ok.mpr
    exact Option.filter_some_pos (decide_eq_true hlength)
  rw [himage, ← himage other] at hbytes
  rw [hmanifest, ← hmanifest other] at hread
  rw [parseFirmwarePackage, hfound]
  simp only [ok_bind, htoken, hbytes, hsize, hpassed, hread]
  rfl

theorem readsSegments_firmware {parseUrl : CodeUnits → Option PageUrl} {crypto : CapabilityCrypto}
    {firmwarePackage : List (CodeUnits × PackageValue)} {trustedKeys : List JsValue}
    {snapshot : BitaxeDeviceSnapshot} {token : CodeUnits}
    (h : (CompactVerifier.firmware parseUrl crypto firmwarePackage trustedKeys snapshot).accepts
      token = true) :
    (CompactVerifier.firmware parseUrl crypto firmwarePackage trustedKeys
      snapshot).ReadsSegments token := by
  obtain ⟨verified, hverified⟩ := Option.isSome_iff_exists.mp h
  rw [toOption_eq_some] at hverified
  simp only [admitFirmwarePackage, bind_eq_ok] at hverified
  obtain ⟨admitted, hadmitted, keys, hkeys, ⟨header, payload, signature⟩, hsegments, headerBytes,
    hheader, record, hrecord, kid, hkid, key, hkey, payloadBytes, hpayload, _, hmanifest,
    signatureBytes, hsignature, valid, hvalid, _, hpassed, _, hdigest, _, hcompatible, -⟩ :=
    hverified
  obtain ⟨rfl, hother⟩ := parseFirmwarePackage_packageWith hadmitted
  obtain ⟨hsplit, hlengths⟩ := Option.filter_eq_some_iff.mp (orThrow_eq_ok.mp hsegments)
  constructor
  case segments =>
    exact ⟨header, payload, signature, hsplit,
      segment_of_decodeBase64Url (orThrow_eq_ok.mp hheader),
      segment_of_decodeBase64Url (orThrow_eq_ok.mp hpayload),
      segment_of_decodeBase64Url (orThrow_eq_ok.mp hsignature)⟩
  case transfers =>
    intro other hsame hfits
    have hread := hother other (of_decide_eq_true hfits)
    have hfound : parseCompactJws other = .ok (header, payload, signature) := by
      rw [← hsegments, parseCompactJws, parseCompactJws, hsame]
    rw [CompactVerifier.accepts, admitFirmwarePackage, hread]
    simp only [ok_bind, hkeys, hfound, hheader, hrecord, hkid, hkey, hpayload, hmanifest,
      hsignature, hvalid, hpassed, hdigest, hcompatible]
    rfl

theorem CompactVerifier.readsSegments {verifier : CompactVerifier} {token : CodeUnits}
    (h : verifier.accepts token = true) : verifier.ReadsSegments token := by
  cases verifier with
  | workLease crypto input trust => exact readsSegments_workLease h
  | possession crypto binding response => exact readsSegments_possession h
  | capability crypto value manifest trustedKeys profile => exact readsSegments_capability h
  | firmware parseUrl crypto firmwarePackage trustedKeys snapshot => exact readsSegments_firmware h

/-- A token of three segments is accepted with a dot behind it too, by each of the four. -/
theorem CompactVerifier.accepts_append_dot {verifier : CompactVerifier} {token : CodeUnits}
    (h : verifier.accepts token = true) (hcompact : IsCompactToken token)
    (hfits : verifier.fits (token ++ [46]) = true) :
    verifier.accepts (token ++ [46]) = true ∧ ¬ IsCompactToken (token ++ [46]) := by
  have hfourth := (hasEmptyFourthSegment_append hcompact []).mpr rfl
  have haccepted := (CompactVerifier.readsSegments h).transfers _
    (splitArtifact_append_tail hcompact hfourth) hfits
  obtain ⟨header, payload, signature, hparts, hheader, hpayload, hsignature⟩ :=
    (CompactVerifier.readsSegments haccepted).segments
  refine ⟨haccepted, ?_⟩
  rw [isCompactToken_iff hparts hheader hpayload hsignature]
  exact not_not.mpr hfourth

/-- An accepted token has exactly three segments unless an empty fourth one follows them, and what
has exactly three is accepted with every such addition, as far as the bound allows. -/
theorem acceptedToken_compact_iff {verifier : CompactVerifier} {token : CodeUnits}
    (h : verifier.accepts token = true) :
    (IsCompactToken token ↔ ¬ HasEmptyFourthSegment token) ∧
      ∀ tail, IsCompactToken token → HasEmptyFourthSegment (token ++ 46 :: tail) →
        verifier.fits (token ++ 46 :: tail) = true →
          verifier.accepts (token ++ 46 :: tail) = true := by
  obtain ⟨⟨header, payload, signature, hsplit, hheader, hpayload, hsignature⟩, htransfers⟩ :=
    CompactVerifier.readsSegments h
  constructor
  · exact isCompactToken_iff hsplit hheader hpayload hsignature
  · intro tail htoken hfourth hfits
    exact htransfers _ (splitArtifact_append_tail htoken hfourth) hfits

/-- A verifier of leases and a token it accepts. -/
def exampleVerifier : CompactVerifier :=
  .workLease exampleCrypto exampleSigningRequest.input exampleTrustValue

def exampleToken : CodeUnits :=
  CodeUnits.ofString (exampleSigningInput ++ "." ++ Base64Url.encode exampleSignature)

theorem accepts_exampleToken : exampleVerifier.accepts exampleToken = true := by
  obtain ⟨hsha256, hlengths⟩ := exampleCrypto_lengths
  obtain ⟨hadmitted, -, hsigned⟩ := signed_exampleSigning
  have hverified := verify_sign hsha256 hlengths hsigned hadmitted parse_exampleTrust
    trustsSigner_exampleTrust
  rw [jsText] at hverified
  rw [exampleVerifier, CompactVerifier.accepts, exampleToken, hverified]
  rfl

theorem exampleToken_compact : exampleVerifier.accepts exampleToken = true ∧
    (IsCompactToken exampleToken ↔ ¬ HasEmptyFourthSegment exampleToken) ∧
    ∀ tail, IsCompactToken exampleToken → HasEmptyFourthSegment (exampleToken ++ 46 :: tail) →
      exampleVerifier.fits (exampleToken ++ 46 :: tail) = true →
        exampleVerifier.accepts (exampleToken ++ 46 :: tail) = true :=
  ⟨accepts_exampleToken, acceptedToken_compact_iff accepts_exampleToken⟩

theorem isCompactToken_exampleToken : IsCompactToken exampleToken := by
  have hsome : exampleSignature ≠ [] := by
    have hlength := exampleCrypto_lengths.2 _ _ _ recordedCrypto_sign
    rintro hnil
    rw [hnil] at hlength
    cases hlength
  rw [exampleToken, ← signed_exampleSigning.2.1]
  exact isCompactToken_encode (canonicalBytes_ne_nil _) (canonicalBytes_ne_nil _) hsome

/-- A dot at the end of a lease is not noticed. -/
theorem exampleToken_trailing_dot : exampleVerifier.accepts (exampleToken ++ [46]) = true ∧
    ¬ IsCompactToken (exampleToken ++ [46]) := by
  have hfits : exampleVerifier.fits (exampleToken ++ [46]) = true := by
    have hdot : CodeUnits.ofString "." = [46] := by decide
    have hone : (asBytes ".").length = 1 := by decide
    rw [exampleVerifier, CompactVerifier.fits, exampleToken, ← hdot, ← ofString_append,
      CodeUnits.utf8_ofString, asBytes_append, List.length_append, hone, decide_eq_true_iff]
    exact succ_length_exampleToken_le
  exact CompactVerifier.accepts_append_dot accepts_exampleToken isCompactToken_exampleToken hfits

end WorkGate
