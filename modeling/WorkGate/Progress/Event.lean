/-
# Accepted Work Events (src/progress.rs, src/challenge.rs)

The identities, receipt times and events a Pool Adapter reports.  Identities are
opaque texts that every entry point validates before building the value, so the
structures below carry the validation with them.
-/

import WorkGate.Work

namespace WorkGate

/-- The failures of the progress module. -/
inductive ProgressError
  | invalidIdentifier
  | invalidReceiptTime
  | duplicateWorkSession
  | unknownWorkSession
  | conflictingEventReplay
  | duplicateChallenge
  | unknownChallenge
  | challengeExpired
  | invalidPersistedData
  | progressStateUnavailable
  | clockUnavailable
  | invalidWork (error : WorkError)
  deriving DecidableEq, Repr

/-- `MAXIMUM_OPAQUE_ID_LENGTH`, in bytes. -/
def maximumOpaqueIdLength : ℕ := 128

/-- The characters an opaque identifier may hold after its leading word. -/
def isOpaqueIdCharacter (character : Char) : Bool :=
  character.isAlphanum || character == '-' || character == '_'

theorem toNat_lt_of_isOpaqueIdCharacter {character : Char}
    (h : isOpaqueIdCharacter character = true) : character.toNat < 128 := by
  delta isOpaqueIdCharacter Char.isAlphanum Char.isAlpha Char.isUpper Char.isLower
    Char.isDigit at h
  simp only [Bool.or_eq_true, Bool.and_eq_true, decide_eq_true_eq, beq_iff_eq,
    UInt32.le_iff_toNat_le, ge_iff_le] at h
  have hcode : character.val.toNat = character.toNat := rfl
  rcases h with (((⟨-, hupper⟩ | ⟨-, hlower⟩) | ⟨-, hdigit⟩) | rfl) | rfl
  · exact Nat.lt_of_le_of_lt hupper (by decide)
  · exact Nat.lt_of_le_of_lt hlower (by decide)
  · exact Nat.lt_of_le_of_lt hdigit (by decide)
  · decide
  · decide

/-- `validate_opaque_id`. -/
def validateOpaqueId (value start : String) : Except ProgressError Unit :=
  match start.toList.isPrefixOf? value.toList with
  | none => .error .invalidIdentifier
  | some suffix =>
      if suffix.isEmpty || value.utf8ByteSize > maximumOpaqueIdLength ||
          !suffix.all isOpaqueIdCharacter then .error .invalidIdentifier
      else .ok ()

/-- A text validated as an opaque identifier that begins with `start`. -/
@[ext]
structure OpaqueId (start : String) where
  text : String
  valid : validateOpaqueId text start = .ok ()
  deriving DecidableEq

/-- The parser every opaque identifier is built by. -/
def OpaqueId.tryFrom (start value : String) : Except ProgressError (OpaqueId start) :=
  match hvalid : validateOpaqueId value start with
  | .ok () => .ok ⟨value, hvalid⟩
  | .error error => .error error

/-- Stable Pool Adapter identity for one at-least-once Accepted Work Event. -/
abbrev AcceptedWorkEventId := OpaqueId "event_"

/-- Challenge-scoped identity for one contributing Work Session. -/
abbrev WorkSessionId := OpaqueId "session_"

/-- Stable fingerprint preventing one accepted share from funding several events. -/
abbrev ShareFingerprint := OpaqueId "share_"

/-- The check of `ChallengeId::try_from`, which allows letters and digits only. -/
def isChallengeId (value : String) : Bool :=
  match "challenge_".toList.isPrefixOf? value.toList with
  | none => false
  | some suffix => !suffix.isEmpty && suffix.all Char.isAlphanum && value.utf8ByteSize ≤ 128

/-- The opaque server-issued challenge identifier. -/
structure ChallengeId where
  text : String
  valid : isChallengeId text = true
  deriving DecidableEq

/-- Server receipt time retained with an Accepted Work Event, never zero. -/
structure ReceiptTime where
  unixSeconds : ℕ
  nonzero : unixSeconds ≠ 0
  deriving DecidableEq

/-- `ReceiptTime::try_from`. -/
def ReceiptTime.tryFrom (value : ℕ) : Except ProgressError ReceiptTime :=
  if hzero : value = 0 then .error .invalidReceiptTime else .ok ⟨value, hzero⟩

/-- Whether an accepted result also met the Bitcoin network target. -/
inductive NetworkTargetOutcome
  | belowNetworkTarget
  | networkTargetMet
  deriving DecidableEq, Repr

/-- Non-authoritative Worker telemetry.  The `f64` hash rate is carried as its bits:
no modelled code computes with it. -/
structure WorkerReport where
  reportedHashes : String
  reportedHashrateHs : BitVec 64
  luckyHashLeadingZeroBits : BitVec 16
  deriving DecidableEq

/-- A target-qualified result durably accepted by a Pool Adapter. -/
structure AcceptedWorkEvent where
  eventId : AcceptedWorkEventId
  workSessionId : WorkSessionId
  assignedTarget : AssignedTarget
  receivedAt : ReceiptTime
  shareFingerprint : ShareFingerprint
  networkTargetOutcome : NetworkTargetOutcome
  maybeWorkerReport : Option WorkerReport
  deriving DecidableEq

/-! ## What the examples are built of -/

theorem isChallengeId_a : isChallengeId "challenge_a" = true := by decide

theorem validSession_a : validateOpaqueId "session_a" "session_" = .ok () := by decide

theorem validSession_b : validateOpaqueId "session_b" "session_" = .ok () := by decide

theorem validSession_c : validateOpaqueId "session_c" "session_" = .ok () := by decide

theorem validSession_1 : validateOpaqueId "session_1" "session_" = .ok () := by decide

theorem validEvent_a : validateOpaqueId "event_a" "event_" = .ok () := by decide

theorem validShare_a : validateOpaqueId "share_a" "share_" = .ok () := by decide

theorem length_easiest : (List.replicate 32 (255 : UInt8)).length = 32 := by decide

theorem easiest_ne_zero : List.replicate 32 (255 : UInt8) ≠ List.replicate 32 0 := by decide

theorem receivedAt_five : 5 ≠ 0 := by decide

theorem toNat_one_pos : 0 < Uint256.one.toNat := by decide

/-! ## Deliveries -/

/-- Everything but the Worker's own report must agree for a delivery to be a replay. -/
def AcceptedWorkEvent.matchesAuthoritativeReplay (event other : AcceptedWorkEvent) : Bool :=
  event.eventId == other.eventId && event.workSessionId == other.workSessionId &&
    event.assignedTarget == other.assignedTarget && event.receivedAt == other.receivedAt &&
    event.shareFingerprint == other.shareFingerprint &&
    event.networkTargetOutcome == other.networkTargetOutcome

/-- Observable treatment of one Accepted Work Event delivery. -/
inductive AcceptedWorkDisposition
  | credited
  | duplicateShare
  | challengeSatisfied
  deriving DecidableEq, Repr

/-- Stable acknowledgement returned for original and replayed event delivery. -/
structure AcceptedWorkAcknowledgement where
  eventId : AcceptedWorkEventId
  workSessionId : WorkSessionId
  receivedAt : ReceiptTime
  networkTargetOutcome : NetworkTargetOutcome
  disposition : AcceptedWorkDisposition
  maybeCreditedWork : Option CreditedWork
  verifiedProgress : VerifiedProgress
  workRequirement : CreditedWork
  issuanceIntentCreated : Bool
  deriving DecidableEq

end WorkGate
