/-
# Claimant keys (web/headless-key.ts)

A pairwise key is kept in one record of the browser's database, with the Work Challenge it is bound
to, the Work Consent recorded for it and the instant it is retained until.  Every tab that restores
the key holds a copy of the record.  Only the recording of a consent reads the record and writes it
in one transaction; binding, retaining and clearing change the copy and write all of it.

The key itself and its name never change and are left out; there is one record.
-/

import Mathlib.Algebra.Group.Nat.Defs
import WorkGate.Library.Machine

namespace WorkGate

open WorkGate.Library

structure WorkConsentReceipt where
  disclosureDigestSha256 : String
  poolOfferSetSignature : String
  maybeTrustedConsentReceipt : Option String
  deriving DecidableEq

structure ConsentBinding where
  challengeId : String
  receipt : WorkConsentReceipt
  deriving DecidableEq

structure StoredClaimantKey where
  retentionExpiry : ℕ
  maybeBoundChallengeId : Option String
  maybeConsentBinding : Option ConsentBinding
  deriving DecidableEq

/-- What is asked of a handle. -/
inductive KeyOperation
  | bindToChallenge (challengeId : String) (expiresAtUnixSeconds : ℕ)
  | retainThrough (expiresAtUnixSeconds : ℕ)
  | recordConsent (challengeId : String) (receipt : WorkConsentReceipt)
  | clearConsent (challengeId : String)
  | sign
  deriving DecidableEq

/-- A suspended call.  A database request waits until the database is open, and takes the copy of
its handle as it is then. -/
inductive KeyTask
  | restoring
  | restored (record : StoredClaimantKey)
  | retained (handle : ℕ) (operation : KeyOperation)
  | putting (handle : ℕ) (maybeCleared : Option String)
  | deleting (message : String)
  | bindingConsent (handle : ℕ) (challengeId : String) (receipt : WorkConsentReceipt)
  | consentBound (handle : ℕ) (binding : ConsentBinding)
  deriving DecidableEq

/-- The record, the copies that handles hold, and the calls under way. -/
structure ClaimantKeys where
  maybeStored : Option StoredClaimantKey
  handles : List StoredClaimantKey
  tasks : List KeyTask
  deriving DecidableEq

/-- What happens: a tab restores the key, an operation is called at some instant of the handle's
clock, or a suspended call goes on; a database request or the check of the key may fail. -/
inductive KeyEvent
  | restore
  | call (handle : ℕ) (operation : KeyOperation) (maybeNow : Option ℕ)
  | runs (task : ℕ) (maybeNow : Option ℕ) (succeeds : Bool)
  deriving DecidableEq

inductive KeyAnswer
  | suspended
  | resolved
  | threw (message : String)
  deriving DecidableEq

/-- `positiveInteger`; a number that is no safe integer is refused as zero is. -/
def isPositiveInteger (value : ℕ) : Bool := 0 < value && value ≤ 2 ^ 53 - 1

/-- The clock is no safe integer, or has reached the instant. -/
def isExpired (maybeNow : Option ℕ) (expiry : ℕ) : Bool :=
  match maybeNow with
  | none => true
  | some now => expiry ≤ now

/-- The checks of `parseStoredClaimantKey` on what may change. -/
def parseStoredClaimantKey (record : StoredClaimantKey) : Option StoredClaimantKey :=
  let consentMatches := record.maybeConsentBinding.all fun binding =>
    binding.challengeId ≠ "" && record.maybeBoundChallengeId = some binding.challengeId
  if isPositiveInteger record.retentionExpiry && record.maybeBoundChallengeId ≠ some "" &&
      consentMatches then some record else none

/-- `bindConsentRecord`; receipts are compared by their canonical text. -/
def bindConsentRecord (record : StoredClaimantKey) (challengeId : String)
    (receipt : WorkConsentReceipt) : Except String StoredClaimantKey :=
  if record.maybeBoundChallengeId ≠ some challengeId then
    .error "Work Consent does not match the bound Work Challenge"
  else match record.maybeConsentBinding with
    | some existing =>
        if existing.challengeId ≠ challengeId ∨ existing.receipt ≠ receipt then
          .error "Work Consent is already bound to a different disclosure"
        else .ok record
    | none => .ok { record with maybeConsentBinding := some { challengeId, receipt } }

namespace ClaimantKeys

/-- One stored record, and the handle that made it. -/
def prepared (retentionExpiry : ℕ) : ClaimantKeys :=
  let record : StoredClaimantKey := ⟨retentionExpiry, none, none⟩
  { maybeStored := some record, handles := [record], tasks := [] }

variable (keys : ClaimantKeys)

/-- Go on later. -/
def suspend (task : KeyTask) : ClaimantKeys × KeyAnswer :=
  ({ keys with tasks := keys.tasks ++ [task] }, .suspended)

/-- Change the copy a handle holds. -/
def setHandle (handle : ℕ) (record : StoredClaimantKey) : ClaimantKeys :=
  { keys with handles := keys.handles.set handle record }

/-- A call, up to its first suspension: `#requireRetained`, except for `clearConsent`. -/
def call (handle : ℕ) (operation : KeyOperation) (maybeNow : Option ℕ) :
    ClaimantKeys × KeyAnswer :=
  match keys.handles[handle]? with
  | none => (keys, .resolved)
  | some record =>
    match operation with
    | .clearConsent challengeId =>
        if record.maybeConsentBinding.map ConsentBinding.challengeId ≠ some challengeId then
          (keys, .resolved)
        else
          (keys.setHandle handle { record with maybeConsentBinding := none }).suspend
            (.putting handle (some challengeId))
    | _ =>
        if isExpired maybeNow record.retentionExpiry then
          keys.suspend (.deleting "Claimant key is no longer retained")
        else keys.suspend (.retained handle operation)

/-- `bindToChallenge` behind `#requireRetained`. -/
def bindToChallenge (handle : ℕ) (record : StoredClaimantKey) (challengeId : String)
    (expiresAtUnixSeconds : ℕ) (maybeNow : Option ℕ) : ClaimantKeys × KeyAnswer :=
  match record.maybeBoundChallengeId with
  | some bound =>
      if bound ≠ challengeId then
        (keys, .threw "Claimant key is already bound to another Work Challenge")
      else (keys, .resolved)
  | none =>
      if !isPositiveInteger expiresAtUnixSeconds then
        (keys, .threw "retention expiry must be a positive safe integer")
      else if isExpired maybeNow expiresAtUnixSeconds then
        keys.suspend (.deleting "Work Challenge already exceeds Claimant key retention")
      else
        (keys.setHandle handle { record with
          maybeBoundChallengeId := some challengeId
          retentionExpiry := expiresAtUnixSeconds }).suspend (.putting handle none)

/-- `retainThrough` behind `#requireRetained`. -/
def retainThrough (handle : ℕ) (record : StoredClaimantKey) (expiresAtUnixSeconds : ℕ) :
    ClaimantKeys × KeyAnswer :=
  if record.maybeBoundChallengeId = none ∨ record.maybeBoundChallengeId = some "" then
    (keys, .threw "Claimant key is not bound to a Work Challenge")
  else if !isPositiveInteger expiresAtUnixSeconds then
    (keys, .threw "retention expiry must be a positive safe integer")
  else
    (keys.setHandle handle { record with
      retentionExpiry := max record.retentionExpiry expiresAtUnixSeconds }).suspend
        (.putting handle none)

/-- An operation behind `#requireRetained`. -/
def goesOn (handle : ℕ) (operation : KeyOperation) (maybeNow : Option ℕ) :
    ClaimantKeys × KeyAnswer :=
  match keys.handles[handle]? with
  | none => (keys, .resolved)
  | some record =>
    match operation with
    | .bindToChallenge challengeId expiresAtUnixSeconds =>
        keys.bindToChallenge handle record challengeId expiresAtUnixSeconds maybeNow
    | .retainThrough expiresAtUnixSeconds => keys.retainThrough handle record expiresAtUnixSeconds
    | .recordConsent challengeId receipt =>
        keys.suspend (.bindingConsent handle challengeId receipt)
    | .clearConsent _ => (keys, .resolved)
    | .sign => (keys, .resolved)

/-- `put` of the copy a handle holds. -/
def put (handle : ℕ) (succeeds : Bool) : ClaimantKeys × KeyAnswer :=
  match keys.handles[handle]? with
  | none => (keys, .resolved)
  | some record =>
      if succeeds then ({ keys with maybeStored := some record }, .resolved)
      else (keys, .threw "Claimant key storage failed")

/-- `delete`, for the sake of an error. -/
def deleteStored (message : String) (succeeds : Bool) : ClaimantKeys × KeyAnswer :=
  if succeeds then ({ keys with maybeStored := none }, .threw message)
  else (keys, .threw "Claimant key storage failed")

/-- `bindConsent`: one transaction. -/
def bindConsent (handle : ℕ) (challengeId : String) (receipt : WorkConsentReceipt)
    (succeeds : Bool) : ClaimantKeys × KeyAnswer :=
  if !succeeds then (keys, .threw "Work Consent storage aborted")
  else match keys.maybeStored.bind parseStoredClaimantKey with
    | none => (keys, .threw "Stored Claimant key is invalid")
    | some record =>
      match bindConsentRecord record challengeId receipt with
      | .error message => (keys, .threw message)
      | .ok updated =>
        match updated.maybeConsentBinding with
        | none => (keys, .threw "Work Consent storage lost its binding")
        | some binding =>
            { keys with maybeStored := some updated }.suspend (.consentBound handle binding)

/-- `restoreClaimantIdentity` behind its read. -/
def restoreRead (maybeNow : Option ℕ) (succeeds : Bool) : ClaimantKeys × KeyAnswer :=
  if !succeeds then (keys, .threw "Claimant key storage failed")
  else match keys.maybeStored with
    | none => (keys, .threw "Claimant key is not retained")
    | some stored =>
      match parseStoredClaimantKey stored with
      | none => keys.suspend (.deleting "Stored Claimant key is invalid")
      | some record =>
          if isExpired maybeNow record.retentionExpiry then
            keys.suspend (.deleting "Claimant key is no longer retained")
          else keys.suspend (.restored record)

/-- A suspended call goes on. -/
def goOn (task : KeyTask) (maybeNow : Option ℕ) (succeeds : Bool) : ClaimantKeys × KeyAnswer :=
  match task with
  | .restoring => keys.restoreRead maybeNow succeeds
  | .restored record =>
      if succeeds then ({ keys with handles := keys.handles ++ [record] }, .resolved)
      else keys.suspend (.deleting "Stored Claimant key is invalid")
  | .retained handle operation => keys.goesOn handle operation maybeNow
  | .putting handle _ => keys.put handle succeeds
  | .deleting message => keys.deleteStored message succeeds
  | .bindingConsent handle challengeId receipt =>
      keys.bindConsent handle challengeId receipt succeeds
  | .consentBound handle binding =>
    match keys.handles[handle]? with
    | none => (keys, .resolved)
    | some record =>
        (keys.setHandle handle { record with maybeConsentBinding := some binding }, .resolved)

/-- One event. -/
def step : KeyEvent → ClaimantKeys × KeyAnswer
  | .restore => keys.suspend .restoring
  | .call handle operation maybeNow => keys.call handle operation maybeNow
  | .runs index maybeNow succeeds =>
    match keys.tasks[index]? with
    | none => (keys, .resolved)
    | some task =>
        { keys with tasks := keys.tasks.eraseIdx index }.goOn task maybeNow succeeds

end ClaimantKeys

/-- The handles of one key under any order of calls and of their parts. -/
def claimantKeysMachine (retentionExpiry : ℕ) : Machine ClaimantKeys KeyEvent KeyAnswer where
  init := .prepared retentionExpiry
  admits _ _ _ := True
  step keys event := keys.step event

end WorkGate
