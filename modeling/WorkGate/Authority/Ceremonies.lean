/-
# The ceremonies' table (migrations 0009 and 0010, postgres/trusted_consent.rs)

The table carries its constraints: every row satisfies the column checks, and no two rows
confirm the same terms.  A statement that would break them is the database's error and
writes nothing, which is what `CeremonyTable.write` decides.

Every repository call below is a function from the table it finds to the table it leaves
and the answer it gives.
-/

import Mathlib.Data.List.Sort
import WorkGate.Authority.TrustedConsent

namespace WorkGate

open WorkGate.Library

/-- The `status` column. -/
inductive CeremonyStatus
  | starting
  | pending
  | verifying
  | verified
  | failed
  deriving DecidableEq, Repr

/-- `gate_authority.trusted_consent_ceremonies`, in full. -/
structure TrustedConsentRow where
  challengeId : String
  disclosureDigestSha256 : String
  poolOfferSetSignatureSha256 : String
  reason : String
  authorityOrigin : String
  challengeExpiresAtUnixSeconds : ℕ
  creationOptions : Option String
  registrationState : Option String
  status : CeremonyStatus
  createdAtUnixSeconds : ℕ
  expiresAtUnixSeconds : ℕ
  verifiedAtUnixSeconds : Option ℕ
  failedAtUnixSeconds : Option ℕ
  operationOwner : Option TrustedConsentOperationOwner
  operationLeaseExpiresAtUnixSeconds : Option ℕ
  trustedConsentReceipt : Option String
  receiptIssuedAtUnixSeconds : Option ℕ
  receiptExpiresAtUnixSeconds : Option ℕ
  deriving DecidableEq

/-- The columns of the unique constraint. -/
structure CeremonyTerms where
  challengeId : String
  poolOfferSetSignatureSha256 : String
  reason : String
  authorityOrigin : String
  deriving DecidableEq

/-- Three base64url segments joined by dots. -/
def isCompactReceipt (receipt : String) : Bool :=
  let segments := receipt.toList.splitOn '.'
  decide (segments.length = 3) &&
    segments.all fun segment => !segment.isEmpty && segment.all isBase64UrlCharacter

namespace TrustedConsentRow

def terms (row : TrustedConsentRow) : CeremonyTerms where
  challengeId := row.challengeId
  poolOfferSetSignatureSha256 := row.poolOfferSetSignatureSha256
  reason := row.reason
  authorityOrigin := row.authorityOrigin

/-- The columns each status fills. -/
def statusCheck (row : TrustedConsentRow) : Bool :=
  match row.status with
  | .starting => row.verifiedAtUnixSeconds.isNone && row.failedAtUnixSeconds.isNone &&
      row.operationOwner.isSome && row.operationLeaseExpiresAtUnixSeconds.isSome &&
      row.creationOptions.isNone && row.registrationState.isNone
  | .pending => row.verifiedAtUnixSeconds.isNone && row.failedAtUnixSeconds.isNone &&
      row.operationOwner.isNone && row.operationLeaseExpiresAtUnixSeconds.isNone &&
      row.creationOptions.isSome && row.registrationState.isSome
  | .verifying => row.verifiedAtUnixSeconds.isNone && row.failedAtUnixSeconds.isNone &&
      row.operationOwner.isSome && row.operationLeaseExpiresAtUnixSeconds.isSome &&
      row.creationOptions.isSome && row.registrationState.isSome
  | .verified => row.verifiedAtUnixSeconds.isSome && row.failedAtUnixSeconds.isNone &&
      row.operationOwner.isNone && row.operationLeaseExpiresAtUnixSeconds.isNone &&
      row.creationOptions.isNone && row.registrationState.isNone
  | .failed => row.verifiedAtUnixSeconds.isNone && row.failedAtUnixSeconds.isSome &&
      row.operationOwner.isNone && row.operationLeaseExpiresAtUnixSeconds.isNone &&
      row.creationOptions.isNone && row.registrationState.isNone

/-- `trusted_consent_receipt_state_check`. -/
def receiptCheck (row : TrustedConsentRow) : Bool :=
  match row.trustedConsentReceipt with
  | none => row.receiptIssuedAtUnixSeconds.isNone && row.receiptExpiresAtUnixSeconds.isNone
  | some receipt => row.status = .verified && isCompactReceipt receipt &&
      row.receiptIssuedAtUnixSeconds = row.verifiedAtUnixSeconds &&
      row.receiptExpiresAtUnixSeconds = some row.challengeExpiresAtUnixSeconds

/-- Every check of the table on one row. -/
def satisfiesChecks (ceremonyId : String) (row : TrustedConsentRow) : Bool :=
  (("ceremony_".toList.isPrefixOf? ceremonyId.toList).any fun suffix => !suffix.isEmpty &&
      suffix.all fun character => character.isAlphanum || character == '_') &&
    (decide (row.disclosureDigestSha256.length = 43) &&
      row.disclosureDigestSha256.toList.all isBase64UrlCharacter) &&
    (decide (row.poolOfferSetSignatureSha256.length = 43) &&
      row.poolOfferSetSignatureSha256.toList.all isBase64UrlCharacter) &&
    (row.reason = "elevated_work" || row.reason = "material_pool_terms") &&
    decide (0 < row.createdAtUnixSeconds) &&
    decide (row.createdAtUnixSeconds < row.expiresAtUnixSeconds) &&
    decide (row.expiresAtUnixSeconds ≤ row.challengeExpiresAtUnixSeconds) &&
    row.statusCheck && row.receiptCheck

/-- The columns an initialization writes. -/
def initialized (creationOptions registrationState : String) (row : TrustedConsentRow) :
    TrustedConsentRow :=
  { row with
    status := .pending
    creationOptions := some creationOptions
    registrationState := some registrationState
    operationOwner := none
    operationLeaseExpiresAtUnixSeconds := none }

/-- The columns a claim writes. -/
def claimed (owner : TrustedConsentOperationOwner) (leaseExpiresAt : ℕ)
    (row : TrustedConsentRow) : TrustedConsentRow :=
  { row with
    status := .verifying
    operationOwner := some owner
    operationLeaseExpiresAtUnixSeconds := some leaseExpiresAt }

/-- The columns a completion writes. -/
def verifiedAt (instant : ℕ) (row : TrustedConsentRow) : TrustedConsentRow :=
  { row with
    status := .verified
    verifiedAtUnixSeconds := some instant
    operationLeaseExpiresAtUnixSeconds := none
    operationOwner := none
    creationOptions := none
    registrationState := none }

/-- The columns a receipt is written to; each keeps what it holds. -/
def receipted (compactReceipt : String) (issuedAt expiresAt : ℕ) (row : TrustedConsentRow) :
    TrustedConsentRow :=
  { row with
    trustedConsentReceipt := row.trustedConsentReceipt.or (some compactReceipt)
    receiptIssuedAtUnixSeconds := row.receiptIssuedAtUnixSeconds.or (some issuedAt)
    receiptExpiresAtUnixSeconds := row.receiptExpiresAtUnixSeconds.or (some expiresAt) }

/-- The columns every failure writes. -/
def failedAt (instant : ℕ) (row : TrustedConsentRow) : TrustedConsentRow :=
  { row with
    status := .failed
    failedAtUnixSeconds := some instant
    operationOwner := none
    operationLeaseExpiresAtUnixSeconds := none
    creationOptions := none
    registrationState := none }

end TrustedConsentRow

/-- The table with its constraints. -/
structure CeremonyTable where
  rows : Rows String TrustedConsentRow
  checked : ∀ entry ∈ rows.entries, entry.2.satisfiesChecks entry.1 = true
  unique : (rows.entries.map fun entry => entry.2.terms).Nodup

variable {parseUrl : String → Option Url}

/-- A ceremony as the repository reads it. -/
inductive TrustedConsentCeremonyRecord (parseUrl : String → Option Url)
  | starting (ceremony : TrustedConsentCeremony parseUrl)
  | pending (ceremony : TrustedConsentCeremony parseUrl)
      (creationOptions registrationState : String)
  | verifying (ceremony : TrustedConsentCeremony parseUrl)
      (creationOptions registrationState : String)
  | verified (ceremony : TrustedConsentCeremony parseUrl)
  | failed (ceremony : TrustedConsentCeremony parseUrl)

def TrustedConsentCeremonyRecord.ceremony :
    TrustedConsentCeremonyRecord parseUrl → TrustedConsentCeremony parseUrl
  | starting ceremony | pending ceremony _ _ | verifying ceremony _ _ | verified ceremony
  | failed ceremony => ceremony

def TrustedConsentCeremonyRecord.status : TrustedConsentCeremonyRecord parseUrl → CeremonyStatus
  | starting _ => .starting
  | pending _ _ _ => .pending
  | verifying _ _ _ => .verifying
  | verified _ => .verified
  | failed _ => .failed

inductive TrustedConsentReservation (parseUrl : String → Option Url)
  | claimed
  | existing (record : TrustedConsentCeremonyRecord parseUrl)
  | inProgress

inductive TrustedConsentVerificationClaim (parseUrl : String → Option Url)
  | claimed (record : TrustedConsentCeremonyRecord parseUrl)
  | inProgress
  | verified (record : TrustedConsentCeremonyRecord parseUrl)
  | failed

/-- A failure of a constructor that reads persisted data. -/
def invalidPersisted {α : Type} (result : Except TrustedConsentError α) :
    Except AuthorityPersistenceError α :=
  result.mapError fun _ => .invalidPersistedData

namespace TrustedConsentRow

/-- The binding columns. -/
def bindingInput (row : TrustedConsentRow) : TrustedConsentBindingInput where
  challengeId := row.challengeId
  disclosureDigestSha256 := row.disclosureDigestSha256
  poolOfferSetSignatureSha256 := row.poolOfferSetSignatureSha256
  reason := row.reason
  authorityOrigin := row.authorityOrigin
  challengeExpiresAtUnixSeconds := row.challengeExpiresAtUnixSeconds

variable (parseUrl) in
/-- The ceremony every status starts from. -/
def pendingCeremony (ceremonyId : String) (row : TrustedConsentRow) :
    Except AuthorityPersistenceError (TrustedConsentCeremony parseUrl) := do
  let binding ← invalidPersisted (TrustedConsentBinding.tryFrom parseUrl row.bindingInput)
  let ceremonyId ← invalidPersisted (TrustedConsentCeremonyId.tryFrom ceremonyId)
  invalidPersisted (TrustedConsentCeremony.pending ceremonyId binding row.createdAtUnixSeconds
    row.expiresAtUnixSeconds)

variable (parseUrl) in
/-- `record`. -/
def record (ceremonyId : String) (row : TrustedConsentRow) :
    Except AuthorityPersistenceError (TrustedConsentCeremonyRecord parseUrl) :=
  match row.pendingCeremony parseUrl ceremonyId with
  | .error error => .error error
  | .ok ceremony =>
    match row.status with
    | .starting =>
        if row.creationOptions.isNone && row.registrationState.isNone then .ok (.starting ceremony)
        else .error .invalidPersistedData
    | .pending =>
        match row.creationOptions, row.registrationState with
        | some creationOptions, some registrationState =>
            .ok (.pending ceremony creationOptions registrationState)
        | _, _ => .error .invalidPersistedData
    | .verifying =>
        match row.creationOptions, row.registrationState with
        | some creationOptions, some registrationState =>
            .ok (.verifying ceremony creationOptions registrationState)
        | _, _ => .error .invalidPersistedData
    | .verified =>
        if row.creationOptions.isSome || row.registrationState.isSome then
          .error .invalidPersistedData
        else match row.verifiedAtUnixSeconds with
          | none => .error .invalidPersistedData
          | some verifiedAt => (invalidPersisted (ceremony.verify verifiedAt)).map .verified
    | .failed =>
        if row.creationOptions.isSome || row.registrationState.isSome then
          .error .invalidPersistedData
        else match row.failedAtUnixSeconds with
          | none => .error .invalidPersistedData
          | some failedAt => (invalidPersisted (ceremony.fail failedAt)).map .failed

end TrustedConsentRow

namespace CeremonyTable

/-- The table after the migrations. -/
def empty : CeremonyTable where
  rows := ∅
  checked := by intro entry hentry; cases hentry
  unique := List.nodup_nil

/-- Write the rows, unless they break a constraint. -/
def write (rows : Rows String TrustedConsentRow) :
    Except AuthorityPersistenceError CeremonyTable :=
  if hconstraints : (∀ entry ∈ rows.entries, entry.2.satisfiesChecks entry.1 = true) ∧
      (rows.entries.map fun entry => entry.2.terms).Nodup then
    .ok ⟨rows, hconstraints.1, hconstraints.2⟩
  else .error .database

/-- Deleting rows breaks no constraint. -/
def deleteRows (table : CeremonyTable) (dropped : String → TrustedConsentRow → Bool) :
    CeremonyTable where
  rows := table.rows.keepRows fun key row => !dropped key row
  checked := by
    intro entry hentry
    exact table.checked entry (List.mem_of_mem_filter hentry)
  unique := table.unique.sublist (List.filter_sublist.map _)

/-- `UPDATE … WHERE ceremony_id = … AND … RETURNING *`: the row it wrote, if any. -/
def updateWhere (table : CeremonyTable) (ceremonyId : String)
    (guard : TrustedConsentRow → Bool) (update : TrustedConsentRow → TrustedConsentRow) :
    Except AuthorityPersistenceError (CeremonyTable × Option TrustedConsentRow) :=
  match table.rows.lookup ceremonyId with
  | none => .ok (table, none)
  | some row =>
    if guard row then
      (write (table.rows.updateRow ceremonyId update)).map fun written =>
        (written, some (update row))
    else .ok (table, none)

/-- The row that confirms some terms. -/
def maybeByTerms (table : CeremonyTable) (terms : CeremonyTerms) :
    Option ((_ : String) × TrustedConsentRow) :=
  table.rows.entries.find? fun entry => decide (entry.2.terms = terms)

/-- The hundred rows due first, of those that pass the test and are not locked elsewhere. -/
def dueFirst (table : CeremonyTable) (deadline : TrustedConsentRow → Option ℕ) (now : ℕ)
    (locked : List String) : List ((_ : String) × TrustedConsentRow) :=
  let due := table.rows.entries.filter fun entry =>
    (deadline entry.2).any (fun instant => decide (instant ≤ now)) && !locked.contains entry.1
  let dueAt := fun entry : (_ : String) × TrustedConsentRow => (deadline entry.2).getD 0
  (due.insertionSort fun first second => dueAt first < dueAt second ∨
    dueAt first = dueAt second ∧ first.1 ≤ second.1).take 100

end CeremonyTable

/-- When a reservation that was never initialized is given up. -/
def TrustedConsentRow.reservationDeadline (row : TrustedConsentRow) : Option ℕ :=
  if row.status = .starting then row.operationLeaseExpiresAtUnixSeconds else none

/-- When a ceremony somebody waits for is given up. -/
def TrustedConsentRow.failureDeadline (row : TrustedConsentRow) : Option ℕ :=
  if row.status = .pending then some row.expiresAtUnixSeconds
  else if row.status = .verifying then row.operationLeaseExpiresAtUnixSeconds
  else none

/-- The row of a challenge, by the text of its id. -/
def maybeChallengeRow (challenges : Rows ChallengeId ChallengeRow) (challengeId : String) :
    Option ChallengeRow :=
  if valid : isChallengeId challengeId = true then challenges.lookup ⟨challengeId, valid⟩ else none

/-- Whether the challenge of a ceremony still waits for confirmation at an instant, as every
writer's `WHERE` asks it. -/
def challengeAwaitsConsent (challenges : Rows ChallengeId ChallengeRow)
    (challengeId : String) (reason : String) (instant : ℕ) : Bool :=
  (maybeChallengeRow challenges challengeId).any fun challenge =>
    (challenge.lifecycleState = .issued ||
      reason = "material_pool_terms" && challenge.lifecycleState = .active) &&
      decide (instant < challenge.expiresAtUnixSeconds)

/-- What a repository call leaves, and what it answers. -/
abbrev CeremonyResult (α : Type) := CeremonyTable × Except AuthorityPersistenceError α

namespace CeremonyTable

/-- `retire_expired`: reservations are deleted, open ceremonies fail.  Either statement skips
the rows locked when it runs. -/
def retireExpired (table : CeremonyTable) (nowUnixSeconds : ℕ)
    (lockedReservations lockedCeremonies : List String) : CeremonyResult ℕ :=
  match unixSecondsToI64 nowUnixSeconds with
  | .error error => (table, .error error)
  | .ok now =>
    let reservations :=
      (table.dueFirst TrustedConsentRow.reservationDeadline now lockedReservations).map (·.1)
    let deleted := table.deleteRows fun key _ => reservations.contains key
    let retired :=
      (deleted.dueFirst TrustedConsentRow.failureDeadline now lockedCeremonies).map (·.1)
    match write (deleted.rows.mapRows fun key row =>
        if retired.contains key then row.failedAt now else row) with
    | .error error => (deleted, .error error)
    | .ok failed => (failed, .ok (reservations.length + retired.length))

variable (parseUrl) in
/-- `maybe_by_binding`. -/
def maybeByBinding (table : CeremonyTable) (terms : CeremonyTerms) :
    Except AuthorityPersistenceError (Option (TrustedConsentCeremonyRecord parseUrl)) :=
  match table.maybeByTerms terms with
  | none => .ok none
  | some entry => (entry.2.record parseUrl entry.1).map some

variable (parseUrl) in
/-- `by_id`. -/
def byId (table : CeremonyTable) (ceremonyId : TrustedConsentCeremonyId) :
    Except AuthorityPersistenceError (TrustedConsentCeremonyRecord parseUrl) :=
  match table.rows.lookup ceremonyId.text with
  | none => .error .unknownTrustedConsentCeremony
  | some row => row.record parseUrl ceremonyId.text

end CeremonyTable

/-- The columns of the unique constraint of a binding. -/
def TrustedConsentBinding.terms (binding : TrustedConsentBinding parseUrl) : CeremonyTerms where
  challengeId := binding.challengeId
  poolOfferSetSignatureSha256 := binding.poolOfferSetSignatureSha256
  reason := binding.reason.asStr
  authorityOrigin := binding.authorityOrigin

/-- The row a reservation inserts. -/
def TrustedConsentCeremony.reservedRow (ceremony : TrustedConsentCeremony parseUrl)
    (operationOwner : TrustedConsentOperationOwner) (leaseExpiresAt : ℕ) : TrustedConsentRow where
  challengeId := ceremony.binding.challengeId
  disclosureDigestSha256 := ceremony.binding.disclosureDigestSha256
  poolOfferSetSignatureSha256 := ceremony.binding.poolOfferSetSignatureSha256
  reason := ceremony.binding.reason.asStr
  authorityOrigin := ceremony.binding.authorityOrigin
  challengeExpiresAtUnixSeconds := ceremony.binding.challengeExpiresAtUnixSeconds
  creationOptions := none
  registrationState := none
  status := .starting
  createdAtUnixSeconds := ceremony.createdAtUnixSeconds
  expiresAtUnixSeconds := ceremony.expiresAtUnixSeconds
  verifiedAtUnixSeconds := none
  failedAtUnixSeconds := none
  operationOwner := some operationOwner
  operationLeaseExpiresAtUnixSeconds := some leaseExpiresAt
  trustedConsentReceipt := none
  receiptIssuedAtUnixSeconds := none
  receiptExpiresAtUnixSeconds := none

namespace CeremonyTable

/-- What a reservation that inserted nothing answers. -/
def reservedElsewhere (table : CeremonyTable) (binding : TrustedConsentBinding parseUrl) :
    Except AuthorityPersistenceError (TrustedConsentReservation parseUrl) :=
  match table.maybeByBinding parseUrl binding.terms with
  | .error error => .error error
  | .ok none => .error .trustedConsentChallengeUnavailable
  | .ok (some (.starting _)) => .ok .inProgress
  | .ok (some existing) => .ok (.existing existing)

/-- `reserve`: one row for the terms, unless they have one already. -/
def reserve (table : CeremonyTable) (challenges : Rows ChallengeId ChallengeRow)
    (ceremony : TrustedConsentCeremony parseUrl)
    (operationOwner : TrustedConsentOperationOwner) (leaseExpiresAt : ℕ) :
    CeremonyResult (TrustedConsentReservation parseUrl) :=
  let binding := ceremony.binding
  match unixSecondsToI64 binding.challengeExpiresAtUnixSeconds,
      unixSecondsToI64 ceremony.createdAtUnixSeconds,
      unixSecondsToI64 ceremony.expiresAtUnixSeconds, unixSecondsToI64 leaseExpiresAt with
  | .ok _, .ok createdAt, .ok _, .ok leaseExpiresAt =>
    if challengeAwaitsConsent challenges binding.challengeId binding.reason.asStr createdAt &&
        (table.maybeByTerms binding.terms).isNone then
      if ceremony.ceremonyId.text ∈ table.rows then (table, .error .database)
      else match write (table.rows.insert ceremony.ceremonyId.text
          (ceremony.reservedRow operationOwner leaseExpiresAt)) with
        | .error error => (table, .error error)
        | .ok written => (written, .ok .claimed)
    else (table, table.reservedElsewhere binding)
  | .error error, _, _, _ => (table, .error error)
  | _, .error error, _, _ => (table, .error error)
  | _, _, .error error, _ => (table, .error error)
  | _, _, _, .error error => (table, .error error)

/-- `abandon`. -/
def abandon (table : CeremonyTable) (ceremonyId : TrustedConsentCeremonyId)
    (operationOwner : TrustedConsentOperationOwner) : CeremonyTable :=
  table.deleteRows fun key row => key = ceremonyId.text && row.status = .starting &&
    row.operationOwner = some operationOwner

variable (parseUrl) in
/-- `initialize`: the reservation's owner fills it in, else gives it up. -/
def initializeCeremony (table : CeremonyTable) (challenges : Rows ChallengeId ChallengeRow)
    (ceremonyId : TrustedConsentCeremonyId) (operationOwner : TrustedConsentOperationOwner)
    (creationOptions registrationState : String) (initializedAt : ℕ) :
    CeremonyResult (TrustedConsentCeremonyRecord parseUrl) :=
  match unixSecondsToI64 initializedAt with
  | .error error => (table, .error error)
  | .ok instant =>
    let guard := fun row : TrustedConsentRow => row.status = .starting &&
      row.operationOwner = some operationOwner &&
      row.operationLeaseExpiresAtUnixSeconds.any (fun lease => decide (instant < lease)) &&
      decide (instant < row.expiresAtUnixSeconds) &&
      challengeAwaitsConsent challenges row.challengeId row.reason instant
    match table.updateWhere ceremonyId.text guard
        (TrustedConsentRow.initialized creationOptions registrationState) with
    | .error error => (table, .error error)
    | .ok (written, some row) => (written, row.record parseUrl ceremonyId.text)
    | .ok (found, none) =>
        (found.abandon ceremonyId operationOwner, .error .trustedConsentChallengeUnavailable)

/-- The update by which the owner of a verification gives it up. -/
def failVerification (table : CeremonyTable) (ceremonyId : TrustedConsentCeremonyId)
    (operationOwner : TrustedConsentOperationOwner) (instant : ℕ) :
    Except AuthorityPersistenceError (CeremonyTable × Option TrustedConsentRow) :=
  table.updateWhere ceremonyId.text
    (fun row => row.status = .verifying && row.operationOwner = some operationOwner)
    (TrustedConsentRow.failedAt instant)

variable (parseUrl) in
/-- `complete`: verified by the owner of an unexpired lease, else failed. -/
def complete (table : CeremonyTable) (challenges : Rows ChallengeId ChallengeRow)
    (ceremonyId : TrustedConsentCeremonyId) (operationOwner : TrustedConsentOperationOwner)
    (verifiedAt : ℕ) : CeremonyResult (TrustedConsentCeremonyRecord parseUrl) :=
  match unixSecondsToI64 verifiedAt with
  | .error error => (table, .error error)
  | .ok instant =>
    let guard := fun row : TrustedConsentRow => row.status = .verifying &&
      row.operationOwner = some operationOwner &&
      row.operationLeaseExpiresAtUnixSeconds.any (fun lease => decide (instant < lease)) &&
      challengeAwaitsConsent challenges row.challengeId row.reason instant
    match table.updateWhere ceremonyId.text guard (TrustedConsentRow.verifiedAt instant) with
    | .error error => (table, .error error)
    | .ok (written, some row) => (written, row.record parseUrl ceremonyId.text)
    | .ok (found, none) =>
      match found.failVerification ceremonyId operationOwner instant with
      | .error error => (found, .error error)
      | .ok (failed, _) => (failed, .error .lostTrustedConsentVerificationLease)

/-- What a claim that changed nothing answers. -/
def claimedElsewhere : Except AuthorityPersistenceError (TrustedConsentCeremonyRecord parseUrl) →
    Except AuthorityPersistenceError (TrustedConsentVerificationClaim parseUrl)
  | .error error => .error error
  | .ok (.verified ceremony) => .ok (.verified (.verified ceremony))
  | .ok (.failed _) => .ok .failed
  | .ok _ => .ok .inProgress

variable (parseUrl) in
/-- `claim_verification`: an overdue verification fails, a pending one is claimed. -/
def claimVerification (table : CeremonyTable) (ceremonyId : TrustedConsentCeremonyId)
    (operationOwner : TrustedConsentOperationOwner) (nowUnixSeconds leaseExpiresAt : ℕ) :
    CeremonyResult (TrustedConsentVerificationClaim parseUrl) :=
  match unixSecondsToI64 nowUnixSeconds with
  | .error error => (table, .error error)
  | .ok now =>
    let overdue := fun row : TrustedConsentRow => row.status = .verifying &&
      row.operationLeaseExpiresAtUnixSeconds.any fun lease => decide (lease ≤ now)
    match table.updateWhere ceremonyId.text overdue (TrustedConsentRow.failedAt now) with
    | .error error => (table, .error error)
    | .ok (failed, some _) => (failed, .ok .failed)
    | .ok (found, none) =>
      match unixSecondsToI64 leaseExpiresAt with
      | .error error => (found, .error error)
      | .ok lease =>
        match found.updateWhere ceremonyId.text (fun row => row.status = .pending)
            (TrustedConsentRow.claimed operationOwner lease) with
        | .error error => (found, .error error)
        | .ok (claimed, some row) =>
            (claimed, (row.record parseUrl ceremonyId.text).map .claimed)
        | .ok (unclaimed, none) =>
            (unclaimed, claimedElsewhere (unclaimed.byId parseUrl ceremonyId))

variable (parseUrl) in
/-- `fail`. -/
def fail (table : CeremonyTable) (ceremonyId : TrustedConsentCeremonyId)
    (operationOwner : TrustedConsentOperationOwner) (failedAt : ℕ) :
    CeremonyResult (TrustedConsentCeremonyRecord parseUrl) :=
  match unixSecondsToI64 failedAt with
  | .error error => (table, .error error)
  | .ok instant =>
    match table.failVerification ceremonyId operationOwner instant with
    | .error error => (table, .error error)
    | .ok (failed, some row) => (failed, row.record parseUrl ceremonyId.text)
    | .ok (found, none) => (found, .error .lostTrustedConsentVerificationLease)

/-- `maybe_receipt`. -/
def maybeReceipt (table : CeremonyTable) (ceremonyId : TrustedConsentCeremonyId) :
    Option String :=
  (table.rows.lookup ceremonyId.text).bind fun row =>
    if row.status = .verified then row.trustedConsentReceipt else none

/-- `persist_receipt`: the receipt written first is the one everybody gets. -/
def persistReceipt (table : CeremonyTable) (ceremonyId : TrustedConsentCeremonyId)
    (compactReceipt : String) (issuedAt expiresAt : ℕ) : CeremonyResult String :=
  match unixSecondsToI64 issuedAt, unixSecondsToI64 expiresAt with
  | .error error, _ => (table, .error error)
  | .ok _, .error error => (table, .error error)
  | .ok issued, .ok expires =>
    let guard := fun row : TrustedConsentRow => row.status = .verified &&
      (row.trustedConsentReceipt.isNone ||
        row.trustedConsentReceipt = some compactReceipt &&
          row.receiptIssuedAtUnixSeconds = some issued &&
          row.receiptExpiresAtUnixSeconds = some expires)
    match table.updateWhere ceremonyId.text guard
        (TrustedConsentRow.receipted compactReceipt issued expires) with
    | .error error => (table, .error error)
    | .ok (written, some row) => (written, .ok (row.trustedConsentReceipt.getD compactReceipt))
    | .ok (found, none) =>
      match found.maybeReceipt ceremonyId with
      | some receipt => (found, .ok receipt)
      | none => (found, .error .invalidPersistedData)

end CeremonyTable

end WorkGate
