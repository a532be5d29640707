/-
# Raw pool selections (src/pool_offer/selection.rs, src/stratum_v1/pool_selection.rs)

A claimant chooses an offer and where its payout goes.  The Authority keeps no more of the
choice than a commitment; the Pool Adapter keeps the choice itself, one row a session, until
its challenge ends, and derives from the row who the session mines for.
-/

import Mathlib.Data.Nat.Digits.Defs
import WorkGate.Library.Hex
import WorkGate.Library.Results
import WorkGate.Authority.Sessions
import WorkGate.Stratum.Credentials

namespace WorkGate

open WorkGate.Library

/-- The failures of building a selection. -/
inductive PoolOfferError
  | invalidPoolOffer
  | invalidPayoutSelection
  deriving DecidableEq, Repr

/-- `validate_id`. -/
def validatePoolId (value : String) : Except PoolOfferError Unit :=
  if value.isEmpty || value.utf8ByteSize > 128 || !value.toList.all isOpaqueIdCharacter then
    .error .invalidPoolOffer
  else .ok ()

/-! ## Bitcoin mainnet addresses -/

def base58Alphabet : List Char :=
  "123456789ABCDEFGHJKLMNPQRSTUVWXYZabcdefghijkmnopqrstuvwxyz".toList

/-- One more digit below a little-endian number: 58 times the number, plus `carry`. -/
def pushBase58 (carry : ℕ) : List UInt8 → List UInt8
  | [] => (Nat.digits 256 carry).map UInt8.ofNat
  | byte :: rest =>
      let total := byte.toNat * 58 + carry
      UInt8.ofNat total :: pushBase58 (total / 256) rest

/-- `valid_base58check_mainnet`. -/
def validBase58checkMainnet (deps : Dependencies) (value : String) : Bool :=
  match value.toList.mapM fun character => base58Alphabet.idxOf? character with
  | none => false
  | some digits =>
      let littleEndian := digits.foldl (fun bytes digit => pushBase58 digit bytes) []
      let leadingZeroes := (value.toList.takeWhile (· == '1')).length
      let decoded := List.replicate leadingZeroes 0 ++ littleEndian.reverse
      decoded.length == 25 && (decoded.head? == some 0x00 || decoded.head? == some 0x05) &&
        decoded.drop 21 == (deps.sha256 (deps.sha256 (decoded.take 21))).take 4

def bech32Charset : List Char := "qpzry9x8gf2tvdw0s3jn54khce6mua7l".toList

def bech32Generators : List UInt32 :=
  [0x3b6a57b2, 0x26508e6d, 0x1ea119fa, 0x3d4233dd, 0x2a1462b3]

def bech32Step (checksum : UInt32) (value : UInt8) : UInt32 :=
  let top := checksum >>> 25
  let next := ((checksum &&& 0x01ffffff) <<< 5) ^^^ value.toUInt32
  (bech32Generators.zipIdx).foldl (fun next (generator, index) =>
    if (top >>> UInt32.ofNat index) &&& 1 == 1 then next ^^^ generator else next) next

/-- `bech32_polymod`. -/
def bech32Polymod (hrp : String) (values : List UInt8) : UInt32 :=
  let high : List UInt8 := (asBytes hrp).map fun byte => byte >>> (5 : UInt8)
  let low : List UInt8 := (asBytes hrp).map fun byte => byte &&& (31 : UInt8)
  (high ++ 0 :: low ++ values).foldl bech32Step 1

/-- `convert_five_to_eight_bits`, from the bits read so far.  `bits` stays below eight, so the
source's inner loop runs once at most. -/
def convertFiveToEightBits (accumulator : UInt32) (bits : ℕ) : List UInt8 → Option (List UInt8)
  | [] =>
      if bits ≥ 5 || (accumulator <<< UInt32.ofNat (8 - bits)) &&& 0xff != 0 then none
      else some []
  | value :: rest =>
      let shifted := (accumulator <<< 5) ||| value.toUInt32
      if bits + 5 ≥ 8 then
        (convertFiveToEightBits shifted (bits - 3) rest).map
          ((shifted >>> UInt32.ofNat (bits - 3)).toUInt8 :: ·)
      else convertFiveToEightBits shifted (bits + 5) rest

/-- The checks `valid_segwit_mainnet` makes of the characters after the separator. -/
def validSegwitPayload (payload : List Char) : Bool :=
  match payload.mapM fun character => bech32Charset.idxOf? character with
  | none => false
  | some indexes =>
    let values := indexes.map UInt8.ofNat
    let checksum := bech32Polymod "bc" values
    let witnessVersion := values.headD 0
    if witnessVersion > 16 || (witnessVersion == 0 && checksum != 1) ||
        (witnessVersion > 0 && checksum != 0x2bc830a3) then false
    else match convertFiveToEightBits 0 0 (values.tail.take (values.length - 7)) with
      | none => false
      | some program =>
          decide (2 ≤ program.length ∧ program.length ≤ 40) &&
            (witnessVersion != 0 || program.length == 20 || program.length == 32)

/-- `valid_segwit_mainnet`. -/
def validSegwitMainnet (value : String) : Bool :=
  let lowercase := value.toList.map Char.toLower
  if value.utf8ByteSize > 90 ||
      (value.toList != lowercase && value.toList != value.toList.map Char.toUpper) ||
      !"bc1".toList.isPrefixOf lowercase then false
  else
    let payload := (lowercase.reverse.takeWhile (· != '1')).reverse
    if (String.ofList payload).utf8ByteSize < 7 then false else validSegwitPayload payload

/-- `valid_mainnet_address`. -/
def validMainnetAddress (deps : Dependencies) (value : String) : Bool :=
  match value.toList.head? with
  | some '1' | some '3' => validBase58checkMainnet deps value
  | _ => validSegwitMainnet value

/-! ## Selections -/

inductive PayoutChoice
  | bitcoinAddress (address : String)
  | approvedBeneficiary (beneficiaryId : String)
  deriving DecidableEq

namespace PayoutChoice

/-- Local-only destination or beneficiary identifier. -/
def destination : PayoutChoice → String
  | bitcoinAddress address => address
  | approvedBeneficiary beneficiaryId => beneficiaryId

/-- Stable disclosed destination classification. -/
def destinationType : PayoutChoice → String
  | bitcoinAddress _ => "bitcoin_mainnet_address"
  | approvedBeneficiary _ => "approved_beneficiary"

/-- What the constructors of a selection check of its payout. -/
def check (deps : Dependencies) : PayoutChoice → Except PoolOfferError Unit
  | bitcoinAddress address =>
      if validMainnetAddress deps address then .ok () else .error .invalidPayoutSelection
  | approvedBeneficiary beneficiaryId => validatePoolId beneficiaryId

/-- The class and the destination tell payouts apart. -/
theorem eq_of_columns {first second : PayoutChoice}
    (htype : first.destinationType = second.destinationType)
    (hdestination : first.destination = second.destination) : first = second := by
  cases first with
  | bitcoinAddress address =>
      cases second with
      | bitcoinAddress other => exact congrArg bitcoinAddress hdestination
      | approvedBeneficiary other => simp [destinationType] at htype
  | approvedBeneficiary beneficiaryId =>
      cases second with
      | bitcoinAddress other => simp [destinationType] at htype
      | approvedBeneficiary other => exact congrArg approvedBeneficiary hdestination

end PayoutChoice

def checkSelection (deps : Dependencies) (offerId : String) (payout : PayoutChoice) :
    Except PoolOfferError Unit := do
  validatePoolId offerId
  payout.check deps

/-- Raw per-challenge choice accepted only by the Pool Adapter boundary. -/
structure PoolSelection (deps : Dependencies) where
  offerId : String
  payout : PayoutChoice
  valid : checkSelection deps offerId payout = .ok ()
  deriving DecidableEq

/-- A choice as the columns of its row carry it. -/
structure StoredChoice where
  poolOfferId : String
  payoutDestinationType : String
  payoutDestination : String
  payoutCommitment : String
  deriving DecidableEq

/-- What a commitment is the digest of. -/
def selectionPreimage (challengeId : ChallengeId) (offerId : String) (payout : PayoutChoice) :
    List UInt8 :=
  asBytes "BWG/0.1 pool selection commitment\x00" ++ asBytes challengeId.text ++ 0 ::
    asBytes offerId ++ 0 :: asBytes payout.destinationType ++ 0 :: asBytes payout.destination

namespace PoolSelection

variable {deps : Dependencies}

/-- A selection of a checked offer and payout. -/
def make (deps : Dependencies) (offerId : String) (payout : PayoutChoice) :
    Except PoolOfferError (PoolSelection deps) :=
  match hvalid : checkSelection deps offerId payout with
  | .ok () => .ok ⟨offerId, payout, hvalid⟩
  | .error error => .error error

/-- Selects a fresh Bitcoin mainnet receive address for direct coinbase payout. -/
def bitcoinAddress (deps : Dependencies) (offerId address : String) :
    Except PoolOfferError (PoolSelection deps) :=
  make deps offerId (.bitcoinAddress address)

/-- Selects one beneficiary explicitly approved and disclosed by the offer. -/
def approvedBeneficiary (deps : Dependencies) (offerId beneficiaryId : String) :
    Except PoolOfferError (PoolSelection deps) :=
  make deps offerId (.approvedBeneficiary beneficiaryId)

/-- Computes the commitment that binds this local choice to one Work Challenge. -/
def commitment (selection : PoolSelection deps) (challengeId : ChallengeId) : String :=
  Hex.encode (deps.sha256 (selectionPreimage challengeId selection.offerId selection.payout))

/-- The columns a selection is stored in. -/
def stored (selection : PoolSelection deps) (challengeId : ChallengeId) : StoredChoice where
  poolOfferId := selection.offerId
  payoutDestinationType := selection.payout.destinationType
  payoutDestination := selection.payout.destination
  payoutCommitment := selection.commitment challengeId

/-- What is stored of a selection tells which one it was. -/
theorem eq_of_stored {first second : PoolSelection deps} {challengeId : ChallengeId}
    (h : first.stored challengeId = second.stored challengeId) : first = second := by
  obtain ⟨firstOffer, firstPayout, hfirst⟩ := first
  obtain ⟨secondOffer, secondPayout, hsecond⟩ := second
  simp only [stored, StoredChoice.mk.injEq] at h
  obtain ⟨rfl, htype, hdestination, -⟩ := h
  obtain rfl := PayoutChoice.eq_of_columns htype hdestination
  rfl

end PoolSelection

/-- `PoolSelectionCommitment::persisted`. -/
def PoolSelectionCommitment.persisted (poolOfferId commitment : String) :
    Except PoolOfferError PoolSelectionCommitment := do
  validatePoolId poolOfferId
  if commitment.utf8ByteSize ≠ 64 ||
      !commitment.toList.all (fun c => c.isDigit || ('a' ≤ c && c ≤ 'f')) then
    .error .invalidPayoutSelection
  else .ok ⟨poolOfferId, commitment⟩

/-! ## The Pool Adapter's rows -/

/-- `pool_adapter.session_pool_selections`. -/
structure SessionPoolSelectionRow where
  challengeId : ChallengeId
  poolOfferId : String
  payoutDestinationType : String
  payoutDestination : String
  payoutCommitment : String
  challengeExpiresAtUnixSeconds : ℕ
  recordedAtUnixSeconds : ℕ
  deriving DecidableEq

namespace SessionPoolSelectionRow

/-- The table's `CHECK` constraints; its two identifiers meet theirs by their types. -/
def constrained (row : SessionPoolSelectionRow) : Bool :=
  isSelection row.poolOfferId row.payoutCommitment &&
    ["bitcoin_mainnet_address", "approved_beneficiary"].contains row.payoutDestinationType &&
    decide (1 ≤ row.payoutDestination.length ∧ row.payoutDestination.length ≤ 256) &&
    decide (0 < row.challengeExpiresAtUnixSeconds) && decide (0 < row.recordedAtUnixSeconds)

/-- The choice a row holds. -/
def choice (row : SessionPoolSelectionRow) : StoredChoice where
  poolOfferId := row.poolOfferId
  payoutDestinationType := row.payoutDestinationType
  payoutDestination := row.payoutDestination
  payoutCommitment := row.payoutCommitment

/-- The columns `ON CONFLICT … DO UPDATE` takes from the row that came. -/
def replacedBy (row excluded : SessionPoolSelectionRow) : SessionPoolSelectionRow :=
  { row with
    poolOfferId := excluded.poolOfferId
    payoutDestinationType := excluded.payoutDestinationType
    payoutDestination := excluded.payoutDestination
    payoutCommitment := excluded.payoutCommitment
    recordedAtUnixSeconds := excluded.recordedAtUnixSeconds }

end SessionPoolSelectionRow

/-- What the Authority hands the Pool Adapter of a claimant's choice. -/
structure PoolSelectionIntake (deps : Dependencies) where
  sessionId : WorkSessionId
  challengeId : ChallengeId
  selection : PoolSelection deps
  challengeExpiresAtUnixSeconds : ℕ
  nowUnixSeconds : ℕ

/-- The row an intake asks for, if the table takes it. -/
def PoolSelectionIntake.row {deps : Dependencies} (intake : PoolSelectionIntake deps) :
    Except StratumV1Error SessionPoolSelectionRow := do
  let expiresAt ← toI64 intake.challengeExpiresAtUnixSeconds
  let recordedAt ← toI64 intake.nowUnixSeconds
  let row : SessionPoolSelectionRow := {
    challengeId := intake.challengeId
    poolOfferId := intake.selection.offerId
    payoutDestinationType := intake.selection.payout.destinationType
    payoutDestination := intake.selection.payout.destination
    payoutCommitment := intake.selection.commitment intake.challengeId
    challengeExpiresAtUnixSeconds := expiresAt
    recordedAtUnixSeconds := recordedAt }
  if row.constrained then .ok row else .error .database

/-- The row of an intake holds exactly the choice that came. -/
theorem PoolSelectionIntake.row_eq_ok {deps : Dependencies} {intake : PoolSelectionIntake deps}
    {row : SessionPoolSelectionRow} (h : intake.row = .ok row) :
    row.challengeId = intake.challengeId ∧
      row.choice = intake.selection.stored intake.challengeId ∧
      row.challengeExpiresAtUnixSeconds = intake.challengeExpiresAtUnixSeconds := by
  simp only [PoolSelectionIntake.row, bind_eq_ok] at h
  obtain ⟨expiresAt, hexpires, recordedAt, -, hrow⟩ := h
  split at hrow
  · cases hrow
    exact ⟨rfl, rfl, toI64_eq_ok hexpires⟩
  · cases hrow

/-- Challenge-bound Pool-facing authorization of one session. -/
structure StratumUpstreamAuthorization where
  sessionId : WorkSessionId
  selection : PoolSelectionCommitment
  username : String
  secret : String
  deriving DecidableEq

/-- `validate_upstream_authorization`. -/
def validateUpstreamAuthorization (username secret : String) : Except StratumV1Error Unit :=
  if username.isEmpty || username.utf8ByteSize > 256 || secret.isEmpty ||
      secret.utf8ByteSize > 256 then .error .invalidSessionConfig
  else .ok ()

/-- `StratumUpstreamAuthorization::from_authority_binding`. -/
def StratumUpstreamAuthorization.fromAuthorityBinding {deps : Dependencies}
    (challengeId : ChallengeId) (sessionId : WorkSessionId) (selection : PoolSelection deps)
    (retained : PoolSelectionCommitment) (secret : String) :
    Except StratumV1Error StratumUpstreamAuthorization := do
  validateUpstreamAuthorization selection.payout.destination secret
  if selection.payout.destinationType ≠ "bitcoin_mainnet_address" then
    .error .invalidSessionConfig
  else if selection.offerId ≠ retained.poolOfferId ∨
      selection.commitment challengeId ≠ retained.commitment then .error .invalidSessionConfig
  else .ok ⟨sessionId, retained, selection.payout.destination, secret⟩

/-- The selection a row's columns describe. -/
def SessionPoolSelectionRow.selection (deps : Dependencies) (row : SessionPoolSelectionRow) :
    Except StratumV1Error (PoolSelection deps) :=
  if row.payoutDestinationType = "bitcoin_mainnet_address" then
    (PoolSelection.bitcoinAddress deps row.poolOfferId row.payoutDestination).mapError
      fun _ => .invalidSessionConfig
  else if row.payoutDestinationType = "approved_beneficiary" then
    (PoolSelection.approvedBeneficiary deps row.poolOfferId row.payoutDestination).mapError
      fun _ => .invalidSessionConfig
  else .error .invalidSessionConfig

/-- The authorization a row that has not expired gives its session. -/
def SessionPoolSelectionRow.upstreamAuthorization (deps : Dependencies)
    (row : SessionPoolSelectionRow) (sessionId : WorkSessionId) (upstreamSecret : String) :
    Except StratumV1Error StratumUpstreamAuthorization := do
  let selection ← row.selection deps
  let retained ← (PoolSelectionCommitment.persisted row.poolOfferId row.payoutCommitment).mapError
    fun _ => StratumV1Error.invalidSessionConfig
  StratumUpstreamAuthorization.fromAuthorityBinding row.challengeId sessionId selection retained
    upstreamSecret

theorem PoolSelection.make_eq_ok {deps : Dependencies} {offerId : String} {payout : PayoutChoice}
    {selection : PoolSelection deps} (h : PoolSelection.make deps offerId payout = .ok selection) :
    selection.offerId = offerId ∧ selection.payout = payout := by
  unfold PoolSelection.make at h
  split at h
  · cases h
    exact ⟨rfl, rfl⟩
  · cases h

/-- An authorization pays the destination its row holds, under the row's own commitment. -/
theorem SessionPoolSelectionRow.upstreamAuthorization_eq_ok {deps : Dependencies}
    {row : SessionPoolSelectionRow} {sessionId : WorkSessionId} {upstreamSecret : String}
    {authorization : StratumUpstreamAuthorization}
    (h : row.upstreamAuthorization deps sessionId upstreamSecret = .ok authorization) :
    authorization.selection = ⟨row.poolOfferId, row.payoutCommitment⟩ ∧
      authorization.username = row.payoutDestination := by
  simp only [upstreamAuthorization, bind_eq_ok, mapError_eq_ok] at h
  obtain ⟨selection, hselection, retained, hretained, hbound⟩ := h
  have hdestination : selection.payout.destination = row.payoutDestination := by
    simp only [SessionPoolSelectionRow.selection] at hselection
    split at hselection
    · rw [(PoolSelection.make_eq_ok (mapError_eq_ok.mp hselection)).2]
      rfl
    · split at hselection
      · rw [(PoolSelection.make_eq_ok (mapError_eq_ok.mp hselection)).2]
        rfl
      · cases hselection
  have hpersisted : retained = ⟨row.poolOfferId, row.payoutCommitment⟩ := by
    simp only [PoolSelectionCommitment.persisted, bind_eq_ok] at hretained
    obtain ⟨-, -, hchecked⟩ := hretained
    cases (guard_eq_ok hchecked).2
    rfl
  simp only [StratumUpstreamAuthorization.fromAuthorityBinding, bind_eq_ok] at hbound
  obtain ⟨-, -, hbound⟩ := hbound
  cases (guard_eq_ok (guard_eq_ok hbound).2).2
  exact ⟨hpersisted, hdestination⟩

/-- The rows, one a session. -/
abbrev PoolSelectionTable := Rows WorkSessionId SessionPoolSelectionRow

namespace PoolSelectionTable

variable {deps : Dependencies}

/-- Stores one session's raw payout choice; a later one for the same challenge replaces it,
and one for another challenge changes nothing. -/
def recordPoolSelection (table : PoolSelectionTable) (intake : PoolSelectionIntake deps) :
    Except StratumV1Error PoolSelectionTable := do
  let row ← intake.row
  match table.lookup intake.sessionId with
  | some kept =>
      if kept.challengeId = row.challengeId then
        .ok (table.updateRow intake.sessionId (·.replacedBy row))
      else .ok table
  | none =>
      -- `challenge_id` is `UNIQUE`.
      if table.entries.any (·.2.challengeId = row.challengeId) then .error .database
      else .ok (table.insert intake.sessionId row)

/-- Deletes every raw choice whose challenge has expired, returning how many went. -/
def deleteExpiredPoolSelections (table : PoolSelectionTable) (nowUnixSeconds : ℕ) :
    Except StratumV1Error (PoolSelectionTable × ℕ) := do
  let now ← toI64 nowUnixSeconds
  let kept := table.keepRows fun _ row => !decide (row.challengeExpiresAtUnixSeconds ≤ now)
  return (kept, table.entries.length - kept.entries.length)

/-- Deletes a challenge's raw choice once the challenge reaches a terminal state. -/
def deletePoolSelection (table : PoolSelectionTable) (challengeId : ChallengeId) :
    PoolSelectionTable :=
  table.keepRows fun _ row => !decide (row.challengeId = challengeId)

/-- Derives one session's Pool-facing authorization from its stored choice; a choice whose
challenge has expired is deleted here and yields nothing. -/
def sessionUpstreamAuthorization (deps : Dependencies) (table : PoolSelectionTable)
    (sessionId : WorkSessionId) (upstreamSecret : String) (nowUnixSeconds : ℕ) :
    PoolSelectionTable × Except StratumV1Error (Option StratumUpstreamAuthorization) :=
  match table.lookup sessionId with
  | none => (table, .ok none)
  | some row =>
    if nowUnixSeconds ≥ row.challengeExpiresAtUnixSeconds then
      match table.deleteExpiredPoolSelections nowUnixSeconds with
      | .error error => (table, .error error)
      | .ok (kept, _) => (kept, .ok none)
    else (table, (row.upstreamAuthorization deps sessionId upstreamSecret).map some)

end PoolSelectionTable

end WorkGate
