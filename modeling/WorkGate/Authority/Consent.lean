/-
# Asking for trusted consent (src/authority_application/trusted_consent.rs)

`begin_trusted_consent` and `finish_trusted_consent` are split at their repository calls:
between two of them a request only holds what it captured, and anything else may happen.
The authenticator, the signer and the descriptors are the world's, so what they answer comes
with each step; the clock only moves forward, and a request reads it where the source does.
-/

import WorkGate.Library.Machine
import WorkGate.Authority.Ceremonies
import WorkGate.Authority.Transactions

namespace WorkGate

open WorkGate.Library

def trustedConsentCeremonySeconds : ℕ := 120

def trustedConsentVerificationLeaseSeconds : ℕ := 30

/-! ## What a request is given -/

/-- The Authority's issuer, and the parser its origin is read by. -/
structure ConsentConfig where
  parseUrl : String → Option Url
  issuer : String

/-- What verifying a signed offer set establishes. -/
structure VerifiedPoolOfferSet where
  trustedConfirmationRequired : Bool
  maybeMaterialReplacementDigestSha256 : Option String

/-- Signed offers, as a ceremony looks at them: the digest of their signature, and what
their verification finds, when they verify. -/
structure SignedPoolOfferSet where
  signatureDigestSha256 : String
  maybeVerified : Option VerifiedPoolOfferSet

/-- What a ceremony reads of a challenge's descriptor. -/
structure ConsentChallenge where
  expiresAtUnixSeconds : ℕ
  trustedConsentDisclosureDigestSha256 : String
  requiresTrustedConfirmation : Bool
  maybePoolOffers : Option SignedPoolOfferSet

/-- Terms a session was offered in place of its own. -/
structure MaterialPoolOfferConfirmation where
  signedPoolOffers : SignedPoolOfferSet
  disclosureDigestSha256 : String
  signatureDigestSha256 : String

structure WebauthnCeremonyStart where
  creationOptions : String
  registrationState : String

structure VerifiedWebauthn where
  userPresent : Bool
  userVerified : Bool
  attestation : String

/-- What the world answers a request at one step; each step uses the part it asks for. -/
structure ConsentWorld (parseUrl : String → Option Url) where
  lockedReservations : List String
  lockedCeremonies : List String
  challenge : ConsentChallenge
  maybeConfirmation : Option MaterialPoolOfferConfirmation
  ceremonyUuid : String
  operationOwner : TrustedConsentOperationOwner
  startWebauthn : String → Except TrustedConsentError WebauthnCeremonyStart
  finishWebauthn : String → String → Except TrustedConsentError VerifiedWebauthn
  signReceipt : TrustedConsentCeremony parseUrl → Except TrustedConsentError String

structure TrustedConsentBeginRequest where
  poolOfferSetSignatureSha256 : String
  reason : String
  authorityOrigin : String

structure BeginCall where
  challengeId : ChallengeId
  request : TrustedConsentBeginRequest
  now : ℕ

structure FinishCall where
  challengeId : ChallengeId
  ceremonyId : TrustedConsentCeremonyId
  credential : String
  now : ℕ

/-! ## What a request answers -/

/-- The failures of the application's calls; `persistence` stands for those the source copies
from the store one by one. -/
inductive AuthorityApplicationError
  | poolSelectionRequired
  | unknownPoolOffer
  | invalidPoolSelection
  | workerStratumUnavailable
  | invalidClaimantProof
  | wrongIssuanceProofRequest
  | staleIssuanceProof
  | invalidClaimantKey
  | wrongClaimantKey
  | timeOverflow
  | progress (error : ProgressError)
  | trustedConsent (error : TrustedConsentError)
  | poolOffer
  | persistence (error : AuthorityPersistenceError)
  deriving DecidableEq, Repr

/-- `From<AuthorityPersistenceError>`. -/
def AuthorityApplicationError.ofPersistence :
    AuthorityPersistenceError → AuthorityApplicationError
  | .poolSelectionRequired => .poolSelectionRequired
  | .invalidProgress error => .progress error
  | .unknownTrustedConsentCeremony => .trustedConsent .unknownCeremony
  | .lostTrustedConsentVerificationLease => .trustedConsent .lostVerificationLease
  | .trustedConsentChallengeUnavailable => .trustedConsent .ceremonyFailed
  | error => .persistence error

structure TrustedConsentBeginResponse where
  ceremonyId : String
  authorityDisclosureDigestSha256 : String
  publicKey : String
  expiresAtUnixSeconds : ℕ
  deriving DecidableEq

structure TrustedConsentFinishResponse where
  ceremonyId : String
  status : TrustedConsentCeremonyStatus
  trustedConsentReceipt : String
  deriving DecidableEq

inductive ConsentResponse
  | started (response : TrustedConsentBeginResponse)
  | finished (response : TrustedConsentFinishResponse)
  deriving DecidableEq

/-- Where a request stands: at the repository call it makes next, or waiting for the
authenticator, with everything it captured so far. -/
inductive ConsentProgress (parseUrl : String → Option Url)
  | beginRetire (call : BeginCall)
  | beginChallenge (call : BeginCall)
  | beginLifecycle (call : BeginCall) (challenge : ConsentChallenge)
      (reason : TrustedConsentReason)
  | beginConfirmation (call : BeginCall) (challenge : ConsentChallenge)
  | beginExisting (call : BeginCall) (challenge : ConsentChallenge)
      (binding : TrustedConsentBinding parseUrl)
  | beginReserve (ceremony : TrustedConsentCeremony parseUrl)
      (owner : TrustedConsentOperationOwner) (leaseExpiresAt : ℕ)
  | beginVerifier (ceremony : TrustedConsentCeremony parseUrl)
      (owner : TrustedConsentOperationOwner)
  | beginAbandon (ceremony : TrustedConsentCeremony parseUrl)
      (owner : TrustedConsentOperationOwner) (error : TrustedConsentError)
  | beginInitialize (ceremony : TrustedConsentCeremony parseUrl)
      (owner : TrustedConsentOperationOwner) (started : WebauthnCeremonyStart)
      (initializedAt : ℕ)
  | finishRetire (call : FinishCall)
  | finishCeremony (call : FinishCall)
  | finishLifecycle (call : FinishCall) (ceremony : TrustedConsentCeremony parseUrl)
  | finishClaim (call : FinishCall) (owner : TrustedConsentOperationOwner) (leaseExpiresAt : ℕ)
  | finishVerifier (call : FinishCall) (ceremony : TrustedConsentCeremony parseUrl)
      (registrationState : String) (owner : TrustedConsentOperationOwner) (leaseExpiresAt : ℕ)
  | finishFail (call : FinishCall) (owner : TrustedConsentOperationOwner) (failedAt : ℕ)
      (error : TrustedConsentError)
  | finishAccepts (call : FinishCall) (reason : TrustedConsentReason)
      (owner : TrustedConsentOperationOwner) (completedAt : ℕ)
  | finishComplete (call : FinishCall) (owner : TrustedConsentOperationOwner) (completedAt : ℕ)
  | finishReceipt (ceremony : TrustedConsentCeremony parseUrl)
  | finishPersist (ceremony : TrustedConsentCeremony parseUrl) (compactReceipt : String)
      (issuedAt : ℕ)

/-- What one step of a request comes to. -/
inductive ConsentOutcome (parseUrl : String → Option Url)
  | goesOn (progress : ConsentProgress parseUrl)
  | answers (answer : Except AuthorityApplicationError ConsentResponse)

namespace ConsentOutcome

variable {parseUrl : String → Option Url}

def refuses (error : TrustedConsentError) : ConsentOutcome parseUrl :=
  .answers (.error (.trustedConsent error))

def fails (error : AuthorityPersistenceError) : ConsentOutcome parseUrl :=
  .answers (.error (.ofPersistence error))

/-- Go on with the value of a decision, or answer its error. -/
def proceeds {α : Type} (decision : Except AuthorityApplicationError α)
    (next : α → ConsentOutcome parseUrl) : ConsentOutcome parseUrl :=
  match decision with
  | .error error => .answers (.error error)
  | .ok value => next value

end ConsentOutcome

/-! ## Decisions between the calls -/

/-- `Sha256Base64Url::try_from`: 32 bytes in canonical unpadded base64url. -/
def isSha256Base64Url (value : String) : Bool :=
  validDigest value && value.toList.getLast?.any ("AEIMQUYcgkosw048".toList.contains ·)

/-- `authority_origin`. -/
def authorityOrigin (config : ConsentConfig) : Except TrustedConsentError String :=
  match config.parseUrl config.issuer with
  | none => .error .invalidAuthorityOrigin
  | some url =>
      if url.asciiOrigin = "null" then .error .invalidAuthorityOrigin else .ok url.asciiOrigin

/-- A failure of trusted consent, as the application reports it. -/
def consentDecision {α : Type} (result : Except TrustedConsentError α) :
    Except AuthorityApplicationError α :=
  result.mapError .trustedConsent

def verifyPoolOfferSet (offers : SignedPoolOfferSet) :
    Except AuthorityApplicationError VerifiedPoolOfferSet :=
  match offers.maybeVerified with
  | none => .error .poolOffer
  | some verified => .ok verified

/-- `binding_for_challenge`. -/
def bindingForChallenge (config : ConsentConfig) (challengeId : ChallengeId)
    (challenge : ConsentChallenge) :
    Except AuthorityApplicationError (TrustedConsentBinding config.parseUrl) :=
  match challenge.maybePoolOffers with
  | none => .error (.trustedConsent .confirmationNotRequired)
  | some signedOffers => do
    let reason := if challenge.requiresTrustedConfirmation then TrustedConsentReason.elevatedWork
      else .materialPoolTerms
    let origin ← consentDecision (authorityOrigin config)
    consentDecision (TrustedConsentBinding.tryFrom config.parseUrl {
      challengeId := challengeId.text
      disclosureDigestSha256 := challenge.trustedConsentDisclosureDigestSha256
      poolOfferSetSignatureSha256 := signedOffers.signatureDigestSha256
      reason := reason.asStr
      authorityOrigin := origin
      challengeExpiresAtUnixSeconds := challenge.expiresAtUnixSeconds })

/-- `binding_for_material_confirmation`. -/
def bindingForMaterialConfirmation (config : ConsentConfig) (challengeId : ChallengeId)
    (challenge : ConsentChallenge) (confirmation : MaterialPoolOfferConfirmation) :
    Except AuthorityApplicationError (TrustedConsentBinding config.parseUrl) := do
  let origin ← consentDecision (authorityOrigin config)
  consentDecision (TrustedConsentBinding.tryFrom config.parseUrl {
    challengeId := challengeId.text
    disclosureDigestSha256 := confirmation.disclosureDigestSha256
    poolOfferSetSignatureSha256 := confirmation.signatureDigestSha256
    reason := TrustedConsentReason.materialPoolTerms.asStr
    authorityOrigin := origin
    challengeExpiresAtUnixSeconds := challenge.expiresAtUnixSeconds })

/-- The binding of elevated work, from the challenge's own offers. -/
def elevatedBinding (config : ConsentConfig) (challengeId : ChallengeId)
    (challenge : ConsentChallenge) :
    Except AuthorityApplicationError (TrustedConsentBinding config.parseUrl) :=
  match challenge.maybePoolOffers with
  | none => .error (.trustedConsent .confirmationNotRequired)
  | some signedOffers => do
    let verified ← verifyPoolOfferSet signedOffers
    if verified.trustedConfirmationRequired then
      bindingForChallenge config challengeId challenge
    else .error (.trustedConsent .confirmationNotRequired)

/-- The binding of material terms, from the confirmation that is still open. -/
def materialBinding (config : ConsentConfig) (challengeId : ChallengeId)
    (challenge : ConsentChallenge) (maybeConfirmation : Option MaterialPoolOfferConfirmation) :
    Except AuthorityApplicationError (TrustedConsentBinding config.parseUrl) :=
  match maybeConfirmation with
  | none => .error (.trustedConsent .bindingMismatch)
  | some confirmation => do
    let verified ← verifyPoolOfferSet confirmation.signedPoolOffers
    if !verified.trustedConfirmationRequired then
      .error (.trustedConsent .confirmationNotRequired)
    else if verified.maybeMaterialReplacementDigestSha256 ≠
        some confirmation.disclosureDigestSha256 then .error (.trustedConsent .bindingMismatch)
    else bindingForMaterialConfirmation config challengeId challenge confirmation

variable {config : ConsentConfig}

/-- The browser's request must name the binding the Authority derived, in time. -/
def matchBinding (call : BeginCall) (challenge : ConsentChallenge)
    (binding : TrustedConsentBinding config.parseUrl) : ConsentOutcome config.parseUrl :=
  if call.request.reason ≠ binding.reason.asStr ∨
      call.request.poolOfferSetSignatureSha256 ≠ binding.poolOfferSetSignatureSha256 ∨
      call.request.authorityOrigin ≠ binding.authorityOrigin ∨
      challenge.expiresAtUnixSeconds ≤ call.now then .refuses .bindingMismatch
  else .goesOn (.beginExisting call challenge binding)

/-- `begin_response`. -/
def beginResponse : TrustedConsentCeremonyRecord config.parseUrl →
    Except AuthorityApplicationError ConsentResponse
  | .pending ceremony creationOptions _ | .verifying ceremony creationOptions _ =>
      .ok (.started {
        ceremonyId := ceremony.ceremonyId.text
        authorityDisclosureDigestSha256 := ceremony.binding.disclosureDigestSha256
        publicKey := creationOptions
        expiresAtUnixSeconds := ceremony.expiresAtUnixSeconds })
  | .starting _ => .error (.trustedConsent .ceremonyInProgress)
  | .verified _ | .failed _ => .error (.trustedConsent .ceremonyAlreadyTerminal)

/-- `checked_add` of seconds to a `u64`. -/
def checkedDeadline (now seconds : ℕ) : Except TrustedConsentError ℕ :=
  if now + seconds < 2 ^ 64 then .ok (now + seconds) else .error .invalidDeadline

/-- The ceremony a request starts, and the lease it reserves it under. -/
def newCeremony (call : BeginCall) (challenge : ConsentChallenge)
    (binding : TrustedConsentBinding config.parseUrl) (ceremonyUuid : String) :
    Except TrustedConsentError (TrustedConsentCeremony config.parseUrl × ℕ) := do
  let deadline ← checkedDeadline call.now trustedConsentCeremonySeconds
  let ceremonyId ← TrustedConsentCeremonyId.tryFrom ("ceremony_" ++ ceremonyUuid)
  let ceremony ← TrustedConsentCeremony.pending ceremonyId binding call.now
    (min deadline challenge.expiresAtUnixSeconds)
  let leaseExpiresAt ← checkedDeadline call.now trustedConsentVerificationLeaseSeconds
  pure (ceremony, leaseExpiresAt)

/-- `receipt_response`. -/
def receiptResponse (ceremony : TrustedConsentCeremony config.parseUrl)
    (compactReceipt : String) : ConsentResponse :=
  .finished {
    ceremonyId := ceremony.ceremonyId.text
    status := ceremony.status
    trustedConsentReceipt := compactReceipt }

/-- The start of `finish_response`, up to its first repository call. -/
def finishResponse (ceremony : TrustedConsentCeremony config.parseUrl) (nowUnixSeconds : ℕ) :
    ConsentOutcome config.parseUrl :=
  if ceremony.binding.challengeExpiresAtUnixSeconds ≤ nowUnixSeconds then
    .refuses .ceremonyExpired
  else .goesOn (.finishReceipt ceremony)

/-- What `finish_trusted_consent` does with the ceremony it looked up. -/
def finishRecord (call : FinishCall) (record : TrustedConsentCeremonyRecord config.parseUrl) :
    ConsentOutcome config.parseUrl :=
  if record.ceremony.binding.challengeId ≠ call.challengeId.text then .refuses .bindingMismatch
  else match record with
    | .starting _ => .refuses .ceremonyInProgress
    | .pending ceremony _ _ | .verifying ceremony _ _ => .goesOn (.finishLifecycle call ceremony)
    | .verified ceremony => finishResponse ceremony call.now
    | .failed _ => .refuses .ceremonyFailed

/-- What `finish_trusted_consent` does once the challenge accepted it: check the deadline and
take a lease on the ceremony. -/
def finishAccepted (call : FinishCall) (ceremony : TrustedConsentCeremony config.parseUrl)
    (owner : TrustedConsentOperationOwner) : ConsentOutcome config.parseUrl :=
  match ceremony.verify call.now with
  | .error error => .refuses error
  | .ok _ =>
    match checkedDeadline call.now trustedConsentVerificationLeaseSeconds with
    | .error error => .refuses error
    | .ok leaseExpiresAt => .goesOn (.finishClaim call owner leaseExpiresAt)

/-- What `finish_trusted_consent` does with the claim; `clock` is read by one branch only. -/
def finishClaimed (call : FinishCall) (owner : TrustedConsentOperationOwner)
    (leaseExpiresAt clock : ℕ) :
    TrustedConsentVerificationClaim config.parseUrl → ConsentOutcome config.parseUrl
  | .claimed (.verifying ceremony _ registrationState) =>
      .goesOn (.finishVerifier call ceremony registrationState owner leaseExpiresAt)
  | .claimed _ => .refuses .invalidWebauthnState
  | .verified verified => finishResponse verified.ceremony clock
  | .inProgress => .refuses .ceremonyInProgress
  | .failed => .refuses .ceremonyFailed

/-- What `finish_trusted_consent` does with the authenticator's answer; `clock` is read after
the authenticator ran. -/
def finishVerified (call : FinishCall) (ceremony : TrustedConsentCeremony config.parseUrl)
    (owner : TrustedConsentOperationOwner) (leaseExpiresAt clock : ℕ) :
    Except TrustedConsentError VerifiedWebauthn → ConsentOutcome config.parseUrl
  | .error error => .goesOn (.finishFail call owner clock error)
  | .ok verified =>
    if !verified.userPresent || !verified.userVerified ||
        verified.attestation ≠ "trusted_non_self" then
      .goesOn (.finishFail call owner clock .webauthnRejected)
    else if leaseExpiresAt ≤ clock then .goesOn (.finishFail call owner clock .ceremonyFailed)
    else match ceremony.verify clock with
      | .error error => .goesOn (.finishFail call owner clock error)
      | .ok _ => .goesOn (.finishAccepts call ceremony.binding.reason owner clock)

/-- What `finish_response` does once it found no receipt: sign one. -/
def finishSigned (ceremony : TrustedConsentCeremony config.parseUrl)
    (signed : Except TrustedConsentError String) : ConsentOutcome config.parseUrl :=
  match signed, ceremony.maybeVerifiedAtUnixSeconds with
  | .error error, _ => .refuses error
  | .ok _, none => .refuses .receiptUnavailable
  | .ok compactReceipt, some issuedAt => .goesOn (.finishPersist ceremony compactReceipt issuedAt)

/-! ## The machine -/

/-- The Authority's store, the ceremonies beside it, the requests under way and the clock. -/
structure ConsentState (parseUrl : String → Option Url) where
  authority : AuthorityDatabase
  ceremonies : CeremonyTable
  requests : Rows ℕ (ConsentProgress parseUrl)
  clock : ℕ

/-- What can happen. -/
inductive ConsentEvent (parseUrl : String → Option Url)
  | tick (seconds : ℕ)
  | authority (request : AuthorityRequest)
  | beginRequest (requestId : ℕ) (challengeId : ChallengeId)
      (request : TrustedConsentBeginRequest)
  | finishRequest (requestId : ℕ) (challengeId : ChallengeId)
      (ceremonyId : TrustedConsentCeremonyId) (credential : String)
  | retireExpired (lockedReservations lockedCeremonies : List String)
  | proceed (requestId : ℕ) (world : ConsentWorld parseUrl)

/-- What an event shows: nothing, or the answer of a request. -/
inductive ConsentReply
  | silent
  | answered (requestId : ℕ) (answer : Except AuthorityApplicationError ConsentResponse)

namespace ConsentState

variable (state : ConsentState config.parseUrl)

/-- Run `challenge_lifecycle`, and go on when the challenge accepts consent. -/
def ensureChallengeAcceptsConsent (challengeId : ChallengeId) (now : ℕ)
    (reason : TrustedConsentReason) (next : Bool → ConsentOutcome config.parseUrl) :
    ConsentState config.parseUrl × ConsentOutcome config.parseUrl :=
  let result := state.authority.challengeLifecycle challengeId now
  ({ state with authority := result.1 }, match result.2 with
    | .error error => .fails error
    | .ok lifecycle => next (challengeAcceptsTrustedConsent lifecycle.state reason))

/-- Run a call on the table of ceremonies. -/
def callCeremonies {α : Type} (result : CeremonyResult α)
    (next : α → ConsentOutcome config.parseUrl) :
    ConsentState config.parseUrl × ConsentOutcome config.parseUrl :=
  ({ state with ceremonies := result.1 }, match result.2 with
    | .error error => .fails error
    | .ok value => next value)

/-- One step of a request. -/
def proceedWith (world : ConsentWorld config.parseUrl) :
    ConsentProgress config.parseUrl →
      ConsentState config.parseUrl × ConsentOutcome config.parseUrl
  | .beginRetire call =>
      state.callCeremonies (state.ceremonies.retireExpired call.now world.lockedReservations
        world.lockedCeremonies) fun _ => .goesOn (.beginChallenge call)
  | .beginChallenge call =>
      (state,
        if call.challengeId ∉ state.authority.challenges then .fails .unknownChallenge
        else .proceeds (consentDecision (TrustedConsentReason.parse call.request.reason))
          fun reason =>
            if !isSha256Base64Url call.request.poolOfferSetSignatureSha256 then
              .refuses .bindingMismatch
            else .goesOn (.beginLifecycle call world.challenge reason))
  | .beginLifecycle call challenge reason =>
      state.ensureChallengeAcceptsConsent call.challengeId call.now reason fun accepts =>
        if !accepts then .refuses .ceremonyFailed
        else match reason with
          | .elevatedWork => .proceeds (elevatedBinding config call.challengeId challenge)
              (matchBinding call challenge)
          | .materialPoolTerms => .goesOn (.beginConfirmation call challenge)
  | .beginConfirmation call challenge =>
      (state, .proceeds
        (materialBinding config call.challengeId challenge world.maybeConfirmation)
        (matchBinding call challenge))
  | .beginExisting call challenge binding =>
      (state, match state.ceremonies.maybeByBinding config.parseUrl binding.terms with
        | .error error => .fails error
        | .ok (some existing) => .answers (beginResponse existing)
        | .ok none =>
          .proceeds (consentDecision (newCeremony call challenge binding world.ceremonyUuid))
            fun (ceremony, leaseExpiresAt) =>
              .goesOn (.beginReserve ceremony world.operationOwner leaseExpiresAt))
  | .beginReserve ceremony owner leaseExpiresAt =>
      state.callCeremonies (state.ceremonies.reserve state.authority.challenges ceremony owner
        leaseExpiresAt) fun
        | .claimed => .goesOn (.beginVerifier ceremony owner)
        | .existing existing => .answers (beginResponse existing)
        | .inProgress => .refuses .ceremonyInProgress
  | .beginVerifier ceremony owner =>
      (state, match world.startWebauthn ceremony.binding.challengeId with
        | .error error => .goesOn (.beginAbandon ceremony owner error)
        | .ok started => .goesOn (.beginInitialize ceremony owner started state.clock))
  | .beginAbandon ceremony owner error =>
      ({ state with ceremonies := state.ceremonies.abandon ceremony.ceremonyId owner },
        .refuses error)
  | .beginInitialize ceremony owner started initializedAt =>
      state.callCeremonies (state.ceremonies.initializeCeremony config.parseUrl
        state.authority.challenges ceremony.ceremonyId owner started.creationOptions
        started.registrationState initializedAt) fun record => .answers (beginResponse record)
  | .finishRetire call =>
      state.callCeremonies (state.ceremonies.retireExpired call.now world.lockedReservations
        world.lockedCeremonies) fun _ => .goesOn (.finishCeremony call)
  | .finishCeremony call =>
      (state, match state.ceremonies.byId config.parseUrl call.ceremonyId with
        | .error error => .fails error
        | .ok record => finishRecord call record)
  | .finishLifecycle call ceremony =>
      state.ensureChallengeAcceptsConsent call.challengeId call.now ceremony.binding.reason
        fun accepts =>
          if !accepts then .refuses .ceremonyFailed
          else finishAccepted call ceremony world.operationOwner
  | .finishClaim call owner leaseExpiresAt =>
      state.callCeremonies (state.ceremonies.claimVerification config.parseUrl call.ceremonyId
        owner call.now leaseExpiresAt) (finishClaimed call owner leaseExpiresAt state.clock)
  | .finishVerifier call ceremony registrationState owner leaseExpiresAt =>
      (state, finishVerified call ceremony owner leaseExpiresAt state.clock
        (world.finishWebauthn call.credential registrationState))
  | .finishFail call owner failedAt error =>
      state.callCeremonies (state.ceremonies.fail config.parseUrl call.ceremonyId owner failedAt)
        fun _ => .refuses error
  | .finishAccepts call reason owner completedAt =>
      state.ensureChallengeAcceptsConsent call.challengeId completedAt reason fun accepts =>
        if !accepts then .goesOn (.finishFail call owner completedAt .ceremonyFailed)
        else .goesOn (.finishComplete call owner completedAt)
  | .finishComplete call owner completedAt =>
      state.callCeremonies (state.ceremonies.complete config.parseUrl state.authority.challenges
        call.ceremonyId owner completedAt) fun record =>
          finishResponse record.ceremony completedAt
  | .finishReceipt ceremony =>
      (state, match state.ceremonies.maybeReceipt ceremony.ceremonyId with
        | some compactReceipt => .answers (.ok (receiptResponse ceremony compactReceipt))
        | none => finishSigned ceremony (world.signReceipt ceremony))
  | .finishPersist ceremony compactReceipt issuedAt =>
      state.callCeremonies (state.ceremonies.persistReceipt ceremony.ceremonyId compactReceipt
        issuedAt ceremony.binding.challengeExpiresAtUnixSeconds) fun persisted =>
          .answers (.ok (receiptResponse ceremony persisted))

/-- A request stands somewhere. -/
def enter (requestId : ℕ) (progress : ConsentProgress config.parseUrl) :
    ConsentState config.parseUrl :=
  { state with requests := state.requests.insert requestId progress }

/-- A request goes on, or leaves with its answer. -/
def settle (requestId : ℕ) (outcome : ConsentOutcome config.parseUrl) :
    ConsentState config.parseUrl × ConsentReply :=
  match outcome with
  | .goesOn progress => (state.enter requestId progress, .silent)
  | .answers answer =>
      ({ state with requests := state.requests.erase requestId }, .answered requestId answer)

end ConsentState

variable (config) in
/-- One event. -/
def consentStep (state : ConsentState config.parseUrl) :
    ConsentEvent config.parseUrl → ConsentState config.parseUrl × ConsentReply
  | .tick seconds => ({ state with clock := state.clock + seconds }, .silent)
  | .authority request =>
      ({ state with authority := (authorityStep state.authority request).1 }, .silent)
  | .beginRequest requestId challengeId request =>
      (state.enter requestId (.beginRetire ⟨challengeId, request, state.clock⟩), .silent)
  | .finishRequest requestId challengeId ceremonyId credential =>
      (state.enter requestId (.finishRetire ⟨challengeId, ceremonyId, credential, state.clock⟩),
        .silent)
  | .retireExpired lockedReservations lockedCeremonies =>
      let retired := state.ceremonies.retireExpired state.clock lockedReservations lockedCeremonies
      ({ state with ceremonies := retired.1 }, .silent)
  | .proceed requestId world =>
      match state.requests.lookup requestId with
      | none => (state, .silent)
      | some progress =>
        let next := state.proceedWith world progress
        next.1.settle requestId next.2

variable (config) in
/-- Any event may come at any time; a request that is never driven on was dropped. -/
def consentAuthority : Machine (ConsentState config.parseUrl) (ConsentEvent config.parseUrl)
    ConsentReply where
  init := ⟨AuthorityDatabase.empty, CeremonyTable.empty, ∅, 0⟩
  admits := fun _ _ _ => True
  step := consentStep config

end WorkGate
