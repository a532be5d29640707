/-
# What a verified possession proof says

A challenge resolves once.  What it then reports was signed by the key in the claims, over the
canonical text of claims that agree with the binding in everything it names; and the session digest
tells requests and responses apart.
-/

import WorkGate.Worker.LeaseArtifacts
import WorkGate.Worker.LeaseBinding
import WorkGate.Worker.Possession

namespace WorkGate

open WorkGate.Library
open WorkGate.Library.JsonText

/-! ## Claims as data -/

theorem WorkerPossessionPurpose.text_injective :
    Function.Injective WorkerPossessionPurpose.text := by
  intro first second h
  cases first <;> cases second <;> first | rfl | exact absurd h (by decide)

theorem WorkerPossessionPayload.printable (payload : WorkerPossessionPayload) :
    ∀ member ∈ payload.members, Printable member.2 := by
  simp [WorkerPossessionPayload.members]

/-- What each name stands for in a payload. -/
theorem WorkerPossessionPayload.ext_members {first second : WorkerPossessionPayload}
    (h : ∀ key ∈ ["purpose", "possessionNonce", "challengeBindingSha256",
      "controllerCapabilitySha256", "serialManifestSha256", "sessionId", "hostNonce",
      "deviceNonce"], (first.members.lookup key).map canonical =
        (second.members.lookup key).map canonical) : first = second := by
  simp only [List.forall_mem_cons] at h
  obtain ⟨hpurpose, hnonce, hchallenge, hcapability, hmanifest, hsession, hhost, hdevice, -⟩ := h
  simp [WorkerPossessionPayload.members, List.lookup_cons,
    WorkerPossessionPurpose.text_injective.eq_iff]
    at hpurpose hnonce hchallenge hcapability hmanifest hsession hhost hdevice
  obtain ⟨⟨⟩, _⟩ := first
  obtain ⟨⟨⟩, _⟩ := second
  simp_all

theorem WorkerPossessionPayload.canonical_injective :
    Function.Injective fun payload : WorkerPossessionPayload =>
      canonical (jsRecord payload.members) := by
  intro first second h
  have hlookup := lookup_of_canonical_eq (printable_jsRecord.mpr first.printable)
    (printable_jsRecord.mpr second.printable) h
  exact WorkerPossessionPayload.ext_members fun key _ => hlookup key

theorem WorkerPossessionRequest.printable (request : WorkerPossessionRequest) :
    Printable request.toJs := by
  have hpayload : Printable (jsRecord request.payload.members) :=
    printable_jsRecord.mpr request.payload.printable
  rw [WorkerPossessionRequest.toJs, printable_jsRecord]
  simp [hpayload]

theorem WorkerPossessionRequest.canonical_injective :
    Function.Injective (canonical ∘ WorkerPossessionRequest.toJs) := by
  intro first second h
  have hlookup := lookup_of_canonical_eq first.printable second.printable h
  have hid := hlookup "requestId"
  have hpayload := hlookup "payload"
  simp [List.lookup_cons, WorkerPossessionPayload.canonical_injective.eq_iff] at hid hpayload
  obtain ⟨_, _⟩ := first
  obtain ⟨_, _⟩ := second
  simp_all

theorem WorkerDeviceIdentityJwk.printable (jwk : WorkerDeviceIdentityJwk) :
    Printable jwk.toJs := by
  simp [WorkerDeviceIdentityJwk.toJs, printable_jsRecord, Printable, PrintableElements]

theorem WorkerDeviceIdentityJwk.canonical_injective :
    Function.Injective (canonical ∘ WorkerDeviceIdentityJwk.toJs) := by
  intro first second h
  have hx := lookup_of_canonical_eq first.printable second.printable h "x"
  simp [List.lookup_cons] at hx
  cases first
  cases second
  simp_all

theorem WorkerPossessionClaims.printable (claims : WorkerPossessionClaims) :
    Printable claims.toJs := by
  rw [WorkerPossessionClaims.toJs, printable_jsRecord, List.forall_mem_cons,
    List.forall_mem_append]
  refine ⟨printable_jsText _, claims.toWorkerPossessionPayload.printable, ?_⟩
  simp [claims.deviceIdentityJwk.printable]

/-- The names of a payload come before those only claims have. -/
theorem WorkerPossessionClaims.canonical_injective :
    Function.Injective (canonical ∘ WorkerPossessionClaims.toJs) := by
  intro first second h
  have hlookup := lookup_of_canonical_eq first.printable second.printable h
  have hcommit := hlookup "firmwareSourceCommit"
  have helf := hlookup "appElfSha256"
  have hjwk := hlookup "deviceIdentityJwk"
  have hpayload : first.toWorkerPossessionPayload = second.toWorkerPossessionPayload := by
    apply WorkerPossessionPayload.ext_members
    intro key hkey
    have hsame := hlookup key
    simp only [List.mem_cons, List.not_mem_nil, or_false] at hkey
    rcases hkey with rfl | rfl | rfl | rfl | rfl | rfl | rfl | rfl <;>
      simpa [WorkerPossessionPayload.members, List.lookup_cons] using hsame
  simp [WorkerPossessionPayload.members, List.lookup_cons] at hcommit helf hjwk
  have hkey := WorkerDeviceIdentityJwk.canonical_injective hjwk
  obtain ⟨_, _, _, _⟩ := first
  obtain ⟨_, _, _, _⟩ := second
  simp_all

theorem PossessionFailureCode.text_injective :
    Function.Injective PossessionFailureCode.text := by
  intro first second h
  cases first <;> cases second <;> first | rfl | exact absurd h (by decide)

/-- What a response says under "result" or "error". -/
def possessionResult (claims : WorkerPossessionClaims) (compactJws : CodeUnits) : JsValue :=
  jsRecord [("claims", claims.toJs), ("compactJws", .string compactJws)]

theorem printable_possessionResult (claims : WorkerPossessionClaims) (compactJws : CodeUnits) :
    Printable (possessionResult claims compactJws) := by
  simp [possessionResult, printable_jsRecord, claims.printable]

theorem possessionResult_inj {first second : WorkerPossessionClaims} {one other : CodeUnits}
    (h : canonical (possessionResult first one) = canonical (possessionResult second other)) :
    first = second ∧ one = other := by
  have hlookup := lookup_of_canonical_eq (printable_possessionResult first one)
    (printable_possessionResult second other) h
  have hclaims := hlookup "claims"
  have hjws := hlookup "compactJws"
  simp [List.lookup_cons] at hclaims hjws
  exact ⟨WorkerPossessionClaims.canonical_injective hclaims, hjws⟩

theorem WorkerPossessionResponse.printable (response : WorkerPossessionResponse) :
    Printable response.toJs := by
  cases response with
  | proved requestId claims compactJws =>
      have hresult := printable_possessionResult claims compactJws
      rw [possessionResult] at hresult
      rw [WorkerPossessionResponse.toJs, printable_jsRecord]
      simp [hresult, Printable]
  | failed requestId code => simp [WorkerPossessionResponse.toJs, printable_jsRecord, Printable]

/-- Whether it is `ok` tells the two kinds of response apart. -/
theorem WorkerPossessionResponse.canonical_injective :
    Function.Injective (canonical ∘ WorkerPossessionResponse.toJs) := by
  intro first second h
  cases first with
  | proved requestId claims compactJws =>
      cases second with
      | proved otherId otherClaims otherJws =>
          have hlookup := lookup_of_canonical_eq
            (WorkerPossessionResponse.proved requestId claims compactJws).printable
            (WorkerPossessionResponse.proved otherId otherClaims otherJws).printable h
          have hid := hlookup "requestId"
          have hresult := hlookup "result"
          simp [List.lookup_cons] at hid hresult
          obtain ⟨rfl, rfl⟩ := possessionResult_inj hresult
          rw [hid]
      | failed otherId otherCode =>
          have hresult := lookup_of_canonical_eq
            (WorkerPossessionResponse.proved requestId claims compactJws).printable
            (WorkerPossessionResponse.failed otherId otherCode).printable h "result"
          simp [List.lookup_cons] at hresult
  | failed requestId code =>
      cases second with
      | proved otherId otherClaims otherJws =>
          have hresult := lookup_of_canonical_eq
            (WorkerPossessionResponse.failed requestId code).printable
            (WorkerPossessionResponse.proved otherId otherClaims otherJws).printable h "result"
          simp [List.lookup_cons] at hresult
      | failed otherId otherCode =>
          have hlookup := lookup_of_canonical_eq
            (WorkerPossessionResponse.failed requestId code).printable
            (WorkerPossessionResponse.failed otherId otherCode).printable h
          have hid := hlookup "requestId"
          have herror := hlookup "error"
          simp [List.lookup_cons] at hid herror
          have hcode := lookup_of_canonical_eq (by simp [printable_jsRecord])
            (by simp [printable_jsRecord]) herror "code"
          simp [PossessionFailureCode.text_injective.eq_iff] at hcode
          rw [hid, hcode]

/-- The bytes of a session digest say the request and the response. -/
theorem controlSessionPreimage_inj {request otherRequest : WorkerPossessionRequest}
    {response otherResponse : WorkerPossessionResponse}
    (h : controlSessionPreimage request response =
      controlSessionPreimage otherRequest otherResponse) :
    request = otherRequest ∧ response = otherResponse := by
  have hprintable : ∀ (request : WorkerPossessionRequest) (response : WorkerPossessionResponse),
      Printable (jsRecord [("profile", jsText workerControlSessionProfile),
        ("request", request.toJs), ("response", response.toJs)]) := by
    intro request response
    simp [printable_jsRecord, request.printable, response.printable]
  have hcanonical := canonicalBytes_inj (hprintable _ _) (hprintable _ _) h
  have hlookup := lookup_of_canonical_eq (hprintable _ _) (hprintable _ _) hcanonical
  have hrequest := hlookup "request"
  have hresponse := hlookup "response"
  simp [List.lookup_cons] at hrequest hresponse
  exact ⟨WorkerPossessionRequest.canonical_injective hrequest,
    WorkerPossessionResponse.canonical_injective hresponse⟩

/-! ## Claims that are read once more -/

theorem checkedText_eq_some {value : JsValue} {valid : String → Bool} {text : String}
    (h : checkedText value valid = some text) : plainText value = some text ∧ valid text = true :=
  Option.filter_eq_some_iff.mp h

/-- A text that is read is the text. -/
theorem eq_of_checkedText {text found : String} {valid : String → Bool}
    (h : checkedText (jsText text) valid = some found) : found = text := by
  obtain ⟨hplain, -⟩ := checkedText_eq_some h
  rw [plainText_jsText] at hplain
  exact (Option.some.inj hplain).symm

theorem eq_of_parsePossessionPurpose {purpose found : WorkerPossessionPurpose}
    (h : parsePossessionPurpose (jsText purpose.text) = some found) : found = purpose := by
  cases purpose <;>
    simp [parsePossessionPurpose, isText_jsText, WorkerPossessionPurpose.text] at h <;>
    exact h.symm

theorem exactRecord_eq_some {value : JsValue} {required optional : List String}
    {members : List (CodeUnits × JsValue)}
    (h : exactRecord value required optional = some members) : value = .object members := by
  cases value with
  | object entries =>
      simp only [exactRecord, serialRecord, Option.bind_eq_bind, Option.bind_some,
        Option.bind_eq_some_iff] at h
      obtain ⟨_, -, _, -, hsame⟩ := h
      cases hsame
      rfl
  | undefined => cases h
  | null => cases h
  | bool flag => cases h
  | number number => cases h
  | string units => cases h
  | array elements => cases h

/-- A field of a record. -/
theorem fieldOf_exactRecord {entries : List (String × JsValue)} {required optional : List String}
    {members : List (CodeUnits × JsValue)}
    (h : exactRecord (jsRecord entries) required optional = some members) (key : String) :
    fieldOf members key = (entries.lookup key).getD .undefined := by
  cases exactRecord_eq_some h
  rw [fieldOf, lookup_ofString]

theorem eq_of_parseDeviceIdentityJwk {jwk found : WorkerDeviceIdentityJwk}
    (h : parseDeviceIdentityJwk jwk.toJs = some found) : found = jwk := by
  simp only [parseDeviceIdentityJwk, Option.bind_eq_bind, Option.bind_eq_some_iff] at h
  obtain ⟨members, hmembers, _, -, x, hx, _, -, hfound⟩ := h
  cases hfound
  rw [WorkerDeviceIdentityJwk.toJs] at hmembers
  rw [fieldOf_exactRecord hmembers] at hx
  rw [eq_of_checkedText hx]

theorem eq_of_parsePossessionClaims {claims found : WorkerPossessionClaims}
    (h : parsePossessionClaims claims.toJs = some found) : found = claims := by
  simp only [parsePossessionClaims, readPossessionPayload, Option.bind_eq_bind,
    Option.bind_eq_some_iff] at h
  obtain ⟨members, hmembers, jwk, hjwk, _, -, payload, ⟨purpose, hpurpose, nonce, hnonce, challenge,
    hchallenge, capability, hcapability, manifest, hmanifest, session, hsession, host, hhost, device,
    hdevice, hpayload⟩, commit, hcommit, elf, helf, hfound⟩ := h
  cases hpayload
  cases hfound
  rw [WorkerPossessionClaims.toJs] at hmembers
  rw [fieldOf_exactRecord hmembers] at hjwk hpurpose hnonce hchallenge hcapability hmanifest
  rw [fieldOf_exactRecord hmembers] at hsession hhost hdevice hcommit helf
  rw [eq_of_parseDeviceIdentityJwk hjwk, eq_of_parsePossessionPurpose hpurpose,
    eq_of_checkedText hnonce, eq_of_checkedText hchallenge, eq_of_checkedText hcapability,
    eq_of_checkedText hmanifest, eq_of_checkedText hsession, eq_of_checkedText hhost,
    eq_of_checkedText hdevice, eq_of_checkedText hcommit, eq_of_checkedText helf]

/-! ## What is verified -/

/-- The protected part and the signature of an artifact over claims. -/
structure SignedClaims (crypto : PossessionCrypto) (claims : WorkerPossessionClaims)
    (compactJws : CodeUnits) (header payload signature : CodeUnits) : Prop where
  split : splitArtifact compactJws = some (header, payload, signature)
  text : (decodeBase64Url payload 4096).bind decodeUtf8 =
    some (String.ofList (canonicalJson claims.toJs))
  verified : ∃ signatureBytes, decodeBase64Url signature 86 = some signatureBytes ∧
    crypto.verify claims.deviceIdentityJwk signatureBytes
      (CodeUnits.utf8 (header ++ 46 :: payload)) = some true

/-- A response that was verified for a binding, with what was reported. -/
structure ProvesPossession (crypto : PossessionCrypto) (binding : WorkerPossessionBinding)
    (requestId : String) (claims : WorkerPossessionClaims) (compactJws : CodeUnits)
    (verified : VerifiedWorkerPossession) : Prop where
  answers : requestId = binding.requestId
  purpose : claims.purpose = binding.ground.purpose
  fields : claims.toWorkerPossessionBindingFields = binding.toWorkerPossessionBindingFields
  firmwareSourceCommit : ∀ expected,
    binding.maybeExpectedFirmwareSourceCommit = some expected →
      claims.firmwareSourceCommit = expected
  appElfSha256 : ∀ expected,
    binding.maybeExpectedAppElfSha256 = some expected → claims.appElfSha256 = expected
  signed : ∃ header payload signature,
    SignedClaims crypto claims compactJws header payload signature
  fingerprint : verified.deviceIdentityFingerprint =
    deviceIdentityFingerprint crypto claims.deviceIdentityJwk
  expected : ∀ fingerprint, binding.ground = .transportReacquisition fingerprint →
    verified.deviceIdentityFingerprint = fingerprint
  reported : verified.firmwareSourceCommit = claims.firmwareSourceCommit ∧
    verified.appElfSha256 = claims.appElfSha256
  session : verified.controlSessionBindingSha256 = Base64Url.encode (crypto.sha256
    (controlSessionPreimage binding.request (.proved requestId claims compactJws)))

/-- Claims with the canonical text of those a binding expects agree with it. -/
theorem payload_of_canonicalJson {binding : WorkerPossessionBinding}
    {claims : WorkerPossessionClaims} (h : canonicalJson claims.toJs =
      canonicalJson (expectedPossessionClaims binding claims).toJs) :
    claims.toWorkerPossessionPayload = binding.request.payload := by
  have hcanonical := canonicalJson_inj claims.printable
    (expectedPossessionClaims binding claims).printable h
  exact congrArg WorkerPossessionClaims.toWorkerPossessionPayload
    (WorkerPossessionClaims.canonical_injective hcanonical)

theorem eq_of_meetsExpected {maybeExpected : Option String} {text expected : String}
    (h : meetsExpected maybeExpected text = true) (hexpected : maybeExpected = some expected) :
    text = expected := by
  rw [meetsExpected, hexpected, Option.all_some, beq_iff_eq] at h
  exact h.symm

/-- Every check of `verifyResponse` was passed. -/
theorem provesPossession_of_verify {crypto : PossessionCrypto} {binding : WorkerPossessionBinding}
    {input : JsValue} {verified : VerifiedWorkerPossession}
    (h : verifyPossessionResponse crypto binding input = some verified) :
    ∃ requestId claims compactJws,
      parsePossessionResponse input = some (.proved requestId claims compactJws) ∧
        ProvesPossession crypto binding requestId claims compactJws verified := by
  rw [verifyPossessionResponse] at h
  obtain ⟨response, hresponse, h⟩ := Option.bind_eq_some_iff.mp h
  cases response with
  | failed requestId code => cases h
  | proved requestId responseClaims compactJws =>
      refine ⟨requestId, responseClaims, compactJws, hresponse, ?_⟩
      obtain ⟨_, hid, h⟩ := Option.bind_eq_some_iff.mp h
      obtain ⟨claims, hclaims, h⟩ := Option.bind_eq_some_iff.mp h
      cases eq_of_parsePossessionClaims hclaims
      obtain ⟨_, hsame, h⟩ := Option.bind_eq_some_iff.mp h
      obtain ⟨_, hcommit, h⟩ := Option.bind_eq_some_iff.mp h
      obtain ⟨_, helf, h⟩ := Option.bind_eq_some_iff.mp h
      obtain ⟨⟨header, payload, signature⟩, hsplit, h⟩ := Option.bind_eq_some_iff.mp h
      obtain ⟨_, -, h⟩ := Option.bind_eq_some_iff.mp h
      obtain ⟨headerBytes, -, h⟩ := Option.bind_eq_some_iff.mp h
      obtain ⟨_, -, h⟩ := Option.bind_eq_some_iff.mp h
      obtain ⟨payloadBytes, hpayload, h⟩ := Option.bind_eq_some_iff.mp h
      obtain ⟨text, htext, h⟩ := Option.bind_eq_some_iff.mp h
      obtain ⟨_, hcanonical, h⟩ := Option.bind_eq_some_iff.mp h
      obtain ⟨signatureBytes, hsignature, h⟩ := Option.bind_eq_some_iff.mp h
      obtain ⟨valid, hvalid, h⟩ := Option.bind_eq_some_iff.mp h
      obtain ⟨_, htrue, h⟩ := Option.bind_eq_some_iff.mp h
      obtain ⟨_, hground, h⟩ := Option.bind_eq_some_iff.mp h
      obtain ⟨key, -, hverified⟩ := Option.bind_eq_some_iff.mp h
      rw [guard_eq_some] at hid hsame hcommit helf hcanonical htrue hground
      cases hverified
      have hpayloads := payload_of_canonicalJson hsame
      constructor
      · exact hid
      · exact congrArg WorkerPossessionPayload.purpose hpayloads
      · exact congrArg WorkerPossessionPayload.toWorkerPossessionBindingFields hpayloads
      · exact fun expected hexpected => eq_of_meetsExpected hcommit hexpected
      · exact fun expected hexpected => eq_of_meetsExpected helf hexpected
      · refine ⟨header, payload, signature, hsplit, ?_, signatureBytes, hsignature, ?_⟩
        · have hdecoded : decodeBase64Url payload 4096 = some payloadBytes := hpayload
          have hread : decodeUtf8 payloadBytes = some text := htext
          rw [hdecoded, Option.bind_some, hread, hcanonical]
        · rw [htrue] at hvalid
          exact hvalid
      · rfl
      · intro fingerprint hexpected
        rcases hground with hinitial | hreacquired
        · rw [hinitial] at hexpected
          cases hexpected
        · rw [hreacquired] at hexpected
          exact PossessionGround.transportReacquisition.inj hexpected
      · exact ⟨rfl, rfl⟩
      · rfl

/-! ## Runs of a challenge -/

section Runs

variable {crypto : PossessionCrypto} {binding : WorkerPossessionBinding}
  {history : List (PossessionEvent × PossessionAnswer)} {challenge : WorkerPossessionChallenge}

/-- What the calls of a challenge have resolved to. -/
def resolvedBy (history : List (PossessionEvent × PossessionAnswer)) :
    List VerifiedWorkerPossession :=
  history.filterMap fun entry =>
    match entry.2 with
    | .resolved verified => some verified
    | _ => none

/-- A call was made with a response of which this is the copy. -/
def Presented (history : List (PossessionEvent × PossessionAnswer)) (response : JsValue) : Prop :=
  ∃ answer, (PossessionEvent.verify (some response), answer) ∈ history

/-- What a challenge knows of its calls: nothing has resolved before one is under way, and what has
is the response of a call. -/
structure SingleVerification (crypto : PossessionCrypto) (binding : WorkerPossessionBinding)
    (history : List (PossessionEvent × PossessionAnswer)) (challenge : WorkerPossessionChallenge) :
    Prop where
  fresh : challenge.consumed = false → challenge.maybeVerifying = none ∧ resolvedBy history = []
  verifying : ∀ response, challenge.maybeVerifying = some response →
    Presented history response ∧ resolvedBy history = []
  once : (resolvedBy history).length ≤ 1
  resolved : ∀ verified ∈ resolvedBy history, ∃ response, Presented history response ∧
    verifyPossessionResponse crypto binding response = some verified

theorem Presented.extend {response : JsValue} (h : Presented history response)
    (entry : PossessionEvent × PossessionAnswer) : Presented (entry :: history) response := by
  obtain ⟨answer, hmem⟩ := h
  exact ⟨answer, List.mem_cons_of_mem _ hmem⟩

/-- An entry that is no resolution, beside a challenge that may have been consumed. -/
theorem SingleVerification.extend (h : SingleVerification crypto binding history challenge)
    {after : WorkerPossessionChallenge} {entry : PossessionEvent × PossessionAnswer}
    (hanswer : ∀ verified, entry.2 ≠ .resolved verified)
    (hconsumed : after.consumed = false → challenge.consumed = false)
    (hverifying : ∀ response, after.maybeVerifying = some response →
      challenge.maybeVerifying = some response ∨
        challenge.consumed = false ∧ after.consumed = true ∧
          entry.1 = .verify (some response)) :
    SingleVerification crypto binding (entry :: history) after := by
  have hresolved : resolvedBy (entry :: history) = resolvedBy history := by
    obtain ⟨event, answer⟩ := entry
    cases answer with
    | resolved verified => exact absurd rfl (hanswer verified)
    | pending => rfl
    | rejected => rfl
    | idle => rfl
  constructor
  · intro hfresh
    obtain ⟨hnone, hempty⟩ := h.fresh (hconsumed hfresh)
    refine ⟨?_, hresolved.trans hempty⟩
    cases hafter : after.maybeVerifying with
    | none => rfl
    | some response =>
        rcases hverifying response hafter with hbefore | ⟨-, hused, -⟩
        · rw [hnone] at hbefore
          cases hbefore
        · rw [hfresh] at hused
          cases hused
  · intro response hafter
    rw [hresolved]
    rcases hverifying response hafter with hbefore | ⟨hfresh, -, hevent⟩
    · exact ⟨(h.verifying response hbefore).1.extend entry, (h.verifying response hbefore).2⟩
    · exact ⟨⟨entry.2, by rw [← hevent]; exact List.mem_cons_self⟩, (h.fresh hfresh).2⟩
  · rw [hresolved]
    exact h.once
  · intro verified hmem
    rw [hresolved] at hmem
    obtain ⟨response, hpresented, hverified⟩ := h.resolved verified hmem
    exact ⟨response, hpresented.extend entry, hverified⟩

theorem SingleVerification.step (h : SingleVerification crypto binding history challenge)
    (event : PossessionEvent) :
    SingleVerification crypto binding
      ((event, ((possessionChallengeMachine crypto binding).step challenge event).2) :: history)
      ((possessionChallengeMachine crypto binding).step challenge event).1 := by
  cases event with
  | verify maybeResponse =>
      show SingleVerification crypto binding
        ((_, (challenge.verify maybeResponse).2) :: history) (challenge.verify maybeResponse).1
      unfold WorkerPossessionChallenge.verify
      split
      · exact h.extend (fun _ h => by cases h) id fun _ h => Or.inl h
      · next hfresh =>
          have hunused : challenge.consumed = false := by simpa using hfresh
          split
          · exact h.extend (fun _ h => by cases h) (fun h => by cases h) fun _ h => Or.inl h
          · next response =>
              apply h.extend (fun _ h => by cases h) (fun h => by cases h)
              rintro given ⟨⟩
              exact Or.inr ⟨hunused, rfl, rfl⟩
  | settles =>
      show SingleVerification crypto binding
        ((_, (challenge.settles crypto binding).2) :: history)
        (challenge.settles crypto binding).1
      unfold WorkerPossessionChallenge.settles
      split
      · exact h.extend (fun _ h => by cases h) id fun _ h => Or.inl h
      · next response hverifying =>
          obtain ⟨hpresented, hempty⟩ := h.verifying response hverifying
          split
          · exact h.extend (fun _ h => by cases h) id fun _ h => by cases h
          · next verified hverified =>
              -- the call under way is the first to resolve
              have hone : resolvedBy ((PossessionEvent.settles, .resolved verified) :: history) =
                  [verified] := congrArg (List.cons verified) hempty
              constructor
              · intro hfresh
                rw [(h.fresh hfresh).1] at hverifying
                cases hverifying
              · intro other hother
                cases hother
              · rw [hone]
                exact Nat.le_refl 1
              · intro other hother
                rw [hone, List.mem_singleton] at hother
                rw [hother]
                exact ⟨response, hpresented.extend _, hverified⟩

theorem singleVerification_run
    (hrun : (possessionChallengeMachine crypto binding).Run history challenge) :
    SingleVerification crypto binding history challenge := by
  apply hrun.invariant (P := SingleVerification crypto binding)
  · constructor
    · exact fun _ => ⟨rfl, rfl⟩
    · intro response hverifying
      cases hverifying
    · exact Nat.zero_le 1
    · intro verified hmem
      cases hmem
  · exact fun _ _ event _ hbefore => hbefore.step event

end Runs

/-- The session digests of two responses do not collide. -/
def NoSessionCollision (crypto : PossessionCrypto) (binding otherBinding : WorkerPossessionBinding)
    (response otherResponse : JsValue) : Prop :=
  ∀ first second, parsePossessionResponse response = some first →
    parsePossessionResponse otherResponse = some second →
    crypto.sha256 (controlSessionPreimage binding.request first) =
        crypto.sha256 (controlSessionPreimage otherBinding.request second) →
      controlSessionPreimage binding.request first =
        controlSessionPreimage otherBinding.request second

/-- A challenge resolves at most once, and only for a response that one of its calls was given: with
the binding's request id, with claims that agree with everything the binding names, signed by the
key in them over their canonical text.  And where the digest does not collide, resolved challenges
with one session digest had one request and one response. -/
theorem possession_bound_singleUse (crypto : PossessionCrypto) :
    (∀ input binding, parsePossessionBinding input = .ok binding →
      ∀ history challenge, (possessionChallengeMachine crypto binding).Run history challenge →
        (resolvedBy history).length ≤ 1 ∧
          ∀ verified ∈ resolvedBy history, ∃ response requestId claims compactJws,
            Presented history response ∧
              verifyPossessionResponse crypto binding response = some verified ∧
              parsePossessionResponse response = some (.proved requestId claims compactJws) ∧
              ProvesPossession crypto binding requestId claims compactJws verified) ∧
    ∀ binding otherBinding response otherResponse verified otherVerified,
      verifyPossessionResponse crypto binding response = some verified →
        verifyPossessionResponse crypto otherBinding otherResponse = some otherVerified →
        NoSessionCollision crypto binding otherBinding response otherResponse →
        verified.controlSessionBindingSha256 = otherVerified.controlSessionBindingSha256 →
          binding.request = otherBinding.request ∧
            parsePossessionResponse response = parsePossessionResponse otherResponse := by
  constructor
  · intro input binding _ history challenge hrun
    have hsingle := singleVerification_run hrun
    refine ⟨hsingle.once, ?_⟩
    intro verified hmem
    obtain ⟨response, hpresented, hverified⟩ := hsingle.resolved verified hmem
    obtain ⟨requestId, claims, compactJws, hresponse, hproves⟩ :=
      provesPossession_of_verify hverified
    exact ⟨response, requestId, claims, compactJws, hpresented, hverified, hresponse, hproves⟩
  · intro binding otherBinding response otherResponse verified otherVerified hverified hother
      hcollisionFree hsame
    obtain ⟨requestId, claims, compactJws, hresponse, hproves⟩ :=
      provesPossession_of_verify hverified
    obtain ⟨otherId, otherClaims, otherJws, hotherResponse, hotherProves⟩ :=
      provesPossession_of_verify hother
    rw [hproves.session, hotherProves.session] at hsame
    have hpreimage := hcollisionFree _ _ hresponse hotherResponse
      (Base64Url.encode_injective hsame)
    obtain ⟨hrequest, hanswer⟩ := controlSessionPreimage_inj hpreimage
    exact ⟨hrequest, by rw [hresponse, hotherResponse, hanswer]⟩

/-- A response that verifies resolves the challenge it is presented to, though it is presented again
before the first call settles. -/
theorem run_presentedTwice {crypto : PossessionCrypto} {binding : WorkerPossessionBinding}
    {response : JsValue} {verified : VerifiedWorkerPossession}
    (h : verifyPossessionResponse crypto binding response = some verified) :
    (possessionChallengeMachine crypto binding).Run
      [(.settles, .resolved verified), (.verify (some response), .rejected),
        (.verify (some response), .pending)] ⟨true, none⟩ := by
  have hpresented := (Machine.Run.start (M := possessionChallengeMachine crypto binding)).extend
    (.verify (some response)) trivial
  have hagain := hpresented.extend (.verify (some response)) trivial
  have hsettled := hagain.extend .settles trivial
  have hsettles : (WorkerPossessionChallenge.mk true (some response)).settles crypto binding =
      (⟨true, none⟩, .resolved verified) := by
    simp only [WorkerPossessionChallenge.settles, h]
  have hlast : (possessionChallengeMachine crypto binding).Run
      ((.settles, ((WorkerPossessionChallenge.mk true (some response)).settles crypto binding).2) ::
        [(.verify (some response), .rejected), (.verify (some response), .pending)])
      ((WorkerPossessionChallenge.mk true (some response)).settles crypto binding).1 := hsettled
  rw [hsettles] at hlast
  exact hlast

end WorkGate
