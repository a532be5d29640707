/-
# Trusted consent ceremonies (src/trusted_consent.rs, postgres/trusted_consent.rs)

A ceremony asks a claimant to confirm, with an attested authenticator, the exact terms one
challenge shows.  The Authority keeps it as a row that moves through five statuses, and each
move is one statement guarded by the columns it finds.  The reader of a row checks again
everything the constructors checked, so a row that no constructor could have built is an
error of its own.

Parsing a URL is left to the caller of the development: `parseUrl` is the `url` crate's
parser, of which only the parts below are ever looked at.
-/

import WorkGate.Authority.Database
import WorkGate.Library.Results

namespace WorkGate

open WorkGate.Library

/-- Fail-closed Trusted Consent validation and verification errors. -/
inductive TrustedConsentError
  | invalidCeremonyId
  | invalidChallengeId
  | invalidDigest
  | invalidReason
  | invalidAuthorityOrigin
  | invalidDeadline
  | ceremonyExpired
  | ceremonyAlreadyTerminal
  | ceremonyInProgress
  | ceremonyFailed
  | lostVerificationLease
  | confirmationNotRequired
  | bindingMismatch
  | unknownCeremony
  | webauthnUnavailable
  | invalidWebauthnState
  | invalidWebauthnResponse
  | webauthnRejected
  | receiptUnavailable
  | invalidReceipt
  deriving DecidableEq, Repr

/-! ## What a ceremony confirms -/

/-- Why a challenge asks for confirmation. -/
inductive TrustedConsentReason
  | elevatedWork
  | materialPoolTerms
  deriving DecidableEq, Repr

namespace TrustedConsentReason

def asStr : TrustedConsentReason → String
  | elevatedWork => "elevated_work"
  | materialPoolTerms => "material_pool_terms"

def parse (value : String) : Except TrustedConsentError TrustedConsentReason :=
  if value = "elevated_work" then .ok elevatedWork
  else if value = "material_pool_terms" then .ok materialPoolTerms
  else .error .invalidReason

/-- The parser reads exactly the texts the writer writes. -/
theorem parse_eq_ok {value : String} {reason : TrustedConsentReason} :
    parse value = .ok reason ↔ value = reason.asStr := by
  constructor
  · intro h
    unfold parse at h
    split at h
    · next helevated =>
        cases h
        exact helevated
    · split at h
      · next hmaterial =>
          cases h
          exact hmaterial
      · cases h
  · intro h
    subst h
    cases reason with
    | elevatedWork => rfl
    | materialPoolTerms => rfl

end TrustedConsentReason

/-- Material terms may be confirmed while work goes on, elevated work only before it. -/
def challengeAcceptsTrustedConsent (state : ChallengeLifecycleState) :
    TrustedConsentReason → Bool
  | .elevatedWork => state = .issued
  | .materialPoolTerms => state = .issued || state = .active

/-- The check of `TrustedConsentCeremonyId::try_from`. -/
def isTrustedConsentCeremonyId (value : String) : Bool :=
  match "ceremony_".toList.isPrefixOf? value.toList with
  | none => false
  | some suffix =>
      !suffix.isEmpty && decide (value.utf8ByteSize ≤ maximumOpaqueIdLength) &&
        value.toList.all fun character => character.isAlphanum || character == '_'

/-- Durable identity of one ceremony. -/
structure TrustedConsentCeremonyId where
  text : String
  valid : isTrustedConsentCeremonyId text = true
  deriving DecidableEq

def TrustedConsentCeremonyId.tryFrom (value : String) :
    Except TrustedConsentError TrustedConsentCeremonyId :=
  if hvalid : isTrustedConsentCeremonyId value = true then .ok ⟨value, hvalid⟩
  else .error .invalidCeremonyId

/-- The random UUID one request owns a row under. -/
structure TrustedConsentOperationOwner where
  uuid : String
  deriving DecidableEq

/-- What is read of a parsed URL. -/
structure Url where
  scheme : String
  maybeDomain : Option String
  username : String
  maybePassword : Option String
  path : String
  maybeQuery : Option String
  maybeFragment : Option String
  /-- `origin().ascii_serialization()`. -/
  asciiOrigin : String

/-- A character of unpadded base64url. -/
def isBase64UrlCharacter (character : Char) : Bool :=
  character.isAlphanum || character == '-' || character == '_'

/-- `valid_digest`: 43 bytes of base64url. -/
def validDigest (value : String) : Bool :=
  decide (value.utf8ByteSize = 43) && value.toList.all isBase64UrlCharacter

structure TrustedConsentBindingInput where
  challengeId : String
  disclosureDigestSha256 : String
  poolOfferSetSignatureSha256 : String
  reason : String
  authorityOrigin : String
  challengeExpiresAtUnixSeconds : ℕ
  deriving DecidableEq

/-- An exact `https` origin and nothing else. -/
def Url.isSecureOrigin (url : Url) : Bool :=
  url.scheme = "https" && url.maybeDomain.isSome && url.username = "" &&
    url.maybePassword.isNone && url.path = "/" && url.maybeQuery.isNone &&
    url.maybeFragment.isNone

variable (parseUrl : String → Option Url)

/-- The checks of `TrustedConsentBinding::try_from`, with the reason they read. -/
def TrustedConsentBindingInput.check (input : TrustedConsentBindingInput) :
    Except TrustedConsentError TrustedConsentReason :=
  if (!validDigest input.disclosureDigestSha256 ||
      !validDigest input.poolOfferSetSignatureSha256) = true then .error .invalidDigest
  else if (!"challenge_".toList.isPrefixOf input.challengeId.toList ||
      decide (maximumOpaqueIdLength < input.challengeId.utf8ByteSize)) = true then
    .error .invalidChallengeId
  else if ((parseUrl input.authorityOrigin).all fun url => !url.isSecureOrigin) = true then
    .error .invalidAuthorityOrigin
  else if input.challengeExpiresAtUnixSeconds = 0 then .error .invalidDeadline
  else TrustedConsentReason.parse input.reason

/-- The terms a ceremony confirms, which passed every check. -/
structure TrustedConsentBinding where
  challengeId : String
  disclosureDigestSha256 : String
  poolOfferSetSignatureSha256 : String
  reason : TrustedConsentReason
  authorityOrigin : String
  challengeExpiresAtUnixSeconds : ℕ
  valid : (TrustedConsentBindingInput.mk challengeId disclosureDigestSha256
    poolOfferSetSignatureSha256 reason.asStr authorityOrigin
    challengeExpiresAtUnixSeconds).check parseUrl = .ok reason
  deriving DecidableEq

variable {parseUrl}

theorem TrustedConsentBindingInput.reason_of_check {input : TrustedConsentBindingInput}
    {reason : TrustedConsentReason} (h : input.check parseUrl = .ok reason) :
    input.reason = reason.asStr := by
  unfold check at h
  obtain ⟨-, h⟩ := guard_eq_ok h
  obtain ⟨-, h⟩ := guard_eq_ok h
  obtain ⟨-, h⟩ := guard_eq_ok h
  obtain ⟨-, h⟩ := guard_eq_ok h
  exact TrustedConsentReason.parse_eq_ok.mp h

variable (parseUrl) in
def TrustedConsentBinding.tryFrom (input : TrustedConsentBindingInput) :
    Except TrustedConsentError (TrustedConsentBinding parseUrl) :=
  match hcheck : input.check parseUrl with
  | .error error => .error error
  | .ok reason => .ok {
      challengeId := input.challengeId
      disclosureDigestSha256 := input.disclosureDigestSha256
      poolOfferSetSignatureSha256 := input.poolOfferSetSignatureSha256
      reason
      authorityOrigin := input.authorityOrigin
      challengeExpiresAtUnixSeconds := input.challengeExpiresAtUnixSeconds
      valid := by rw [← TrustedConsentBindingInput.reason_of_check hcheck]; exact hcheck }

/-! ## Ceremonies -/

inductive TrustedConsentCeremonyStatus
  | pending
  | verified
  | failed
  deriving DecidableEq, Repr

variable (parseUrl) in
/-- One ceremony, whose deadlines are in order and which was verified in time if at all. -/
structure TrustedConsentCeremony where
  ceremonyId : TrustedConsentCeremonyId
  binding : TrustedConsentBinding parseUrl
  status : TrustedConsentCeremonyStatus
  createdAtUnixSeconds : ℕ
  expiresAtUnixSeconds : ℕ
  maybeVerifiedAtUnixSeconds : Option ℕ
  created : createdAtUnixSeconds ≠ 0
  ordered : createdAtUnixSeconds < expiresAtUnixSeconds
  bounded : expiresAtUnixSeconds ≤ binding.challengeExpiresAtUnixSeconds
  verifiedInTime : ∀ verifiedAt ∈ maybeVerifiedAtUnixSeconds,
    createdAtUnixSeconds ≤ verifiedAt ∧ verifiedAt < expiresAtUnixSeconds

instance : DecidableEq (TrustedConsentCeremony parseUrl) := fun first second =>
  decidable_of_iff (first.ceremonyId = second.ceremonyId ∧ first.binding = second.binding ∧
      first.status = second.status ∧ first.createdAtUnixSeconds = second.createdAtUnixSeconds ∧
      first.expiresAtUnixSeconds = second.expiresAtUnixSeconds ∧
      first.maybeVerifiedAtUnixSeconds = second.maybeVerifiedAtUnixSeconds) (by
    cases first
    cases second
    simp)

namespace TrustedConsentCeremony

def pending (ceremonyId : TrustedConsentCeremonyId) (binding : TrustedConsentBinding parseUrl)
    (createdAt expiresAt : ℕ) : Except TrustedConsentError (TrustedConsentCeremony parseUrl) :=
  if hdeadline : createdAt = 0 ∨ expiresAt ≤ createdAt ∨
      binding.challengeExpiresAtUnixSeconds < expiresAt then .error .invalidDeadline
  else .ok {
    ceremonyId
    binding
    status := .pending
    createdAtUnixSeconds := createdAt
    expiresAtUnixSeconds := expiresAt
    maybeVerifiedAtUnixSeconds := none
    created := by omega
    ordered := by omega
    bounded := by omega
    verifiedInTime := by simp }

def verify (ceremony : TrustedConsentCeremony parseUrl) (now : ℕ) :
    Except TrustedConsentError (TrustedConsentCeremony parseUrl) :=
  if ceremony.status ≠ .pending then .error .ceremonyAlreadyTerminal
  else if htime : now < ceremony.createdAtUnixSeconds ∨ ceremony.expiresAtUnixSeconds ≤ now then
    .error .ceremonyExpired
  else .ok { ceremony with
    status := .verified
    maybeVerifiedAtUnixSeconds := some now
    verifiedInTime := by
      rintro verifiedAt hverified
      cases hverified
      omega }

def fail (ceremony : TrustedConsentCeremony parseUrl) (now : ℕ) :
    Except TrustedConsentError (TrustedConsentCeremony parseUrl) :=
  if ceremony.status ≠ .pending then .error .ceremonyAlreadyTerminal
  else if now < ceremony.createdAtUnixSeconds then .error .invalidDeadline
  else .ok { ceremony with status := .failed }

end TrustedConsentCeremony

end WorkGate
