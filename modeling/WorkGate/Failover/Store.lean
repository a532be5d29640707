/-
# Decisions about pool offers (src/authority_persistence/postgres/offer_replacement.rs)

When a session stops, another offer may take the place of the one it worked under.  The
Authority stores one decision for a predecessor: an equivalent offer is worked on at once by a
replacement session, a materially changed one waits for its own confirmation.

`AuthorityDatabase.replacements` holds the columns of `pool_offer_replacements` that sessions
read; the other columns of the same rows are kept beside it.
-/

import WorkGate.Authority.TrustedConsent
import WorkGate.Authority.Transactions
import WorkGate.Failover.Offers
import WorkGate.Library.Lineage

namespace WorkGate

open WorkGate.Library

/-- The columns a confirmation fills in, all three or none. -/
structure ConfirmationColumns where
  requiredSignedPoolOffers : SignedOffers
  disclosureDigestSha256 : String
  requiredSignatureDigestSha256 : String
  deriving DecidableEq

/-- The columns of `gate_authority.pool_offer_replacements` that sessions do not read. -/
structure DecisionColumns where
  challengeId : ChallengeId
  priorOffer : DisclosedPoolOffer
  candidateOffer : DisclosedPoolOffer
  candidateSignature : String
  candidateSetDigest : String
  change : PoolOfferChange
  decidedAtUnixSeconds : ℕ
  maybeConfirmation : Option ConfirmationColumns
  deriving DecidableEq

/-- The Authority's tables, the decisions among them. -/
structure FailoverDatabase where
  authority : AuthorityDatabase
  decisions : Rows WorkSessionId DecisionColumns

/-- What `persist` is given. -/
structure PersistPoolOfferReplacement where
  replacedSessionId : WorkSessionId
  candidateSessionId : WorkSessionId
  challengeId : ChallengeId
  priorOffer : DisclosedPoolOffer
  candidateOffer : DisclosedPoolOffer
  candidateSignature : String
  candidateSetDigest : String
  change : PoolOfferChange
  now : ℕ
  deriving DecidableEq

/-- A stored decision, as it is read. -/
structure PoolOfferReplacementDecision where
  replacedSessionId : WorkSessionId
  maybeReplacementSessionId : Option WorkSessionId
  pendingReconfirmation : Bool
  priorOffer : DisclosedPoolOffer
  candidateOffer : DisclosedPoolOffer
  candidateSignature : String
  change : PoolOfferChange
  deriving DecidableEq

/-- The terms a pending decision has its claimant confirm. -/
structure MaterialOfferConfirmation where
  replacedSessionId : WorkSessionId
  candidateSessionId : WorkSessionId
  signedPoolOffers : SignedOffers
  disclosureDigestSha256 : String
  deriving DecidableEq

/-- The status a change is stored under. -/
def PoolOfferChange.isMaterial : PoolOfferChange → Bool
  | .equivalent => false
  | .materiallyChanged _ => true

/-- `PoolOfferReplacementDecision::persisted`. -/
def PoolOfferReplacementDecision.persisted (replacedSessionId : WorkSessionId)
    (maybeReplacementSessionId : Option WorkSessionId)
    (priorOffer candidateOffer : DisclosedPoolOffer)
    (candidateSignature : String) (change : PoolOfferChange) :
    Except PoolOfferFailure PoolOfferReplacementDecision :=
  if candidateSignature.isEmpty || (!change.isMaterial) != maybeReplacementSessionId.isSome then
    .error .invalidPoolOffer
  else .ok ⟨replacedSessionId, maybeReplacementSessionId, change.isMaterial, priorOffer,
    candidateOffer, candidateSignature, change⟩

namespace FailoverDatabase

/-- The database after the migrations. -/
def empty : FailoverDatabase := ⟨AuthorityDatabase.empty, ∅⟩

/-! ## Decisions -/

/-- `decision_from_row`. -/
def decisionFromRow (replacedSessionId : WorkSessionId) (row : ReplacementRow)
    (columns : DecisionColumns) :
    Except AuthorityPersistenceError PoolOfferReplacementDecision :=
  (PoolOfferReplacementDecision.persisted replacedSessionId
    (if row.pendingReconfirmation then none else some row.candidateSessionId)
    columns.priorOffer columns.candidateOffer columns.candidateSignature
    columns.change).mapError fun _ => .invalidPersistedData

/-- `select_pool_offer_replacement`. -/
def selectReplacement (db : FailoverDatabase) (replacedSessionId : WorkSessionId) :
    Option (ReplacementRow × DecisionColumns) :=
  match db.authority.replacements.lookup replacedSessionId,
      db.decisions.lookup replacedSessionId with
  | some row, some columns => some (row, columns)
  | _, _ => none

/-- `insert_pool_offer_replacement`, which leaves the decision a predecessor has alone. -/
def insertReplacement (db : FailoverDatabase) (input : PersistPoolOfferReplacement)
    (decidedAt : ℕ) : Except AuthorityPersistenceError FailoverDatabase :=
  -- The checks of the table come before its keys.
  if input.candidateSignature.isEmpty || !validDigest input.candidateSetDigest ||
      decidedAt == 0 then .error .database
  else if input.replacedSessionId ∈ db.authority.replacements then .ok db
  else if db.authority.replacements.entries.any fun entry =>
      entry.2.candidateSessionId == input.candidateSessionId then .error .database
  else .ok {
    authority := { db.authority with
      replacements := db.authority.replacements.insert input.replacedSessionId
        ⟨input.candidateSessionId, input.change.isMaterial⟩ }
    decisions := db.decisions.insert input.replacedSessionId {
      challengeId := input.challengeId
      priorOffer := input.priorOffer
      candidateOffer := input.candidateOffer
      candidateSignature := input.candidateSignature
      candidateSetDigest := input.candidateSetDigest
      change := input.change
      decidedAtUnixSeconds := decidedAt
      maybeConfirmation := none } }

/-- `select_work_session_replacement_by_predecessor`. -/
def replacementOf (db : AuthorityDatabase) (replacedSessionId : WorkSessionId) :
    Option ((_ : WorkSessionId) × SessionRow) :=
  db.sessions.entries.find? fun entry => entry.2.replacesSessionId == some replacedSessionId

/-- The rest of `persist`, once the decision is stored: an equivalent offer is worked on. -/
def releaseEquivalent (db : FailoverDatabase) (input : PersistPoolOfferReplacement)
    (decision : PoolOfferReplacementDecision) :
    Except AuthorityPersistenceError (FailoverDatabase × PoolOfferReplacementDecision) :=
  if input.change.isMaterial then
    if (replacementOf db.authority input.replacedSessionId).isSome then
      .error .conflictingWorkSessionReplacement
    else .ok (db, decision)
  else do
    let (authority, _) ← db.authority.replaceWorkSessionInTransaction input.replacedSessionId
      input.candidateSessionId input.now false
    return ({ db with authority }, decision)

/-- The transaction of `persist`. -/
def persistInTransaction (db : FailoverDatabase) (input : PersistPoolOfferReplacement) :
    Except AuthorityPersistenceError (FailoverDatabase × PoolOfferReplacementDecision) :=
  match db.authority.sessions.lookup input.replacedSessionId with
  | none => .error .unknownWorkSession
  | some predecessor =>
    if predecessor.challengeId ∉ db.authority.challenges then .error .unknownWorkSession
    else if predecessor.challengeId ≠ input.challengeId then
      .error .conflictingPoolOfferReplacement
    else if input.candidateSessionId ∈ db.authority.sessions ∧
        input.replacedSessionId ∉ db.authority.replacements then
      .error .conflictingWorkSessionReplacement
    else do
      let decidedAt ← unixSecondsToI64 input.now
      let inserted ← db.insertReplacement input decidedAt
      match inserted.selectReplacement input.replacedSessionId with
      | none => .error .database
      | some (row, columns) => do
        let decision ← decisionFromRow input.replacedSessionId row columns
        if decision.priorOffer ≠ input.priorOffer ∨
            decision.candidateOffer ≠ input.candidateOffer ∨ decision.change ≠ input.change ∨
            row.candidateSessionId ≠ input.candidateSessionId ∨
            columns.candidateSetDigest ≠ input.candidateSetDigest then
          .error .conflictingPoolOfferReplacement
        else inserted.releaseEquivalent input decision

/-- `persist`. -/
def persist (db : FailoverDatabase) (input : PersistPoolOfferReplacement) :
    FailoverDatabase × Except AuthorityPersistenceError PoolOfferReplacementDecision :=
  match db.persistInTransaction input with
  | .error error => (db, .error error)
  | .ok (written, decision) => (written, .ok decision)

/-! ## Confirmations -/

/-- `confirmation_from_row`, for the columns a row holds. -/
def confirmationFromRow (world : OfferWorld) (replacedSessionId : WorkSessionId)
    (row : ReplacementRow) (columns : ConfirmationColumns) :
    Except AuthorityPersistenceError MaterialOfferConfirmation :=
  match columns.requiredSignedPoolOffers.validateShape world with
  | .error _ => .error .invalidPersistedData
  | .ok () => .ok ⟨replacedSessionId, row.candidateSessionId, columns.requiredSignedPoolOffers,
      columns.disclosureDigestSha256⟩

/-- `persist_confirmation`: columns that are filled in stay as they are. -/
def persistConfirmation (world : OfferWorld) (db : FailoverDatabase)
    (confirmation : MaterialOfferConfirmation) (signatureDigestSha256 : String) :
    FailoverDatabase × Except AuthorityPersistenceError MaterialOfferConfirmation :=
  match db.selectReplacement confirmation.replacedSessionId with
  | none => (db, .error .unknownPoolOfferReplacement)
  | some (row, columns) =>
    if !row.pendingReconfirmation then (db, .error .unknownPoolOfferReplacement)
    else
      let filled : ConfirmationColumns := columns.maybeConfirmation.getD
        ⟨confirmation.signedPoolOffers, confirmation.disclosureDigestSha256,
          signatureDigestSha256⟩
      -- The check on the shape of a confirmation.
      if !validDigest filled.disclosureDigestSha256 ||
          !validDigest filled.requiredSignatureDigestSha256 then (db, .error .database)
      else
        -- The statement is its own transaction: it stays when the comparison fails.
        let written := { db with
          decisions := db.decisions.updateRow confirmation.replacedSessionId fun columns =>
            { columns with maybeConfirmation := some filled } }
        match confirmationFromRow world confirmation.replacedSessionId row filled with
        | .error error => (written, .error error)
        | .ok retained =>
          if retained ≠ confirmation then (written, .error .conflictingPoolOfferReplacement)
          else (written, .ok retained)

end FailoverDatabase

/-! ## The store as a machine -/

/-- The transactions that register, replace and move sessions, and those about decisions.
The ceremonies of trusted consent write only their own table, and here they may write anything
there. -/
inductive FailoverRequest
  | authority (request : AuthorityRequest)
  | ceremonies (rows : Rows String CeremonyRow)
  | persist (input : PersistPoolOfferReplacement)
  | persistConfirmation (confirmation : MaterialOfferConfirmation)
      (signatureDigestSha256 : String)

inductive FailoverReply
  | authority (reply : AuthorityReply)
  | done
  | decided (result : Except AuthorityPersistenceError PoolOfferReplacementDecision)
  | confirmed (result : Except AuthorityPersistenceError MaterialOfferConfirmation)

/-- Whether a request writes the decisions without deciding them. -/
def FailoverRequest.bypasses : FailoverRequest → Bool
  | .authority (.consentTables _ _) => true
  | _ => false

/-- One request. -/
def failoverStep (world : OfferWorld) (db : FailoverDatabase) :
    FailoverRequest → FailoverDatabase × FailoverReply
  | .authority request =>
      let after := authorityStep db.authority request
      ({ db with authority := after.1 }, .authority after.2)
  | .ceremonies rows =>
      ({ db with authority := { db.authority with ceremonies := rows } }, .done)
  | .persist input =>
      let persisted := db.persist input
      (persisted.1, .decided persisted.2)
  | .persistConfirmation confirmation signatureDigestSha256 =>
      let confirmed := db.persistConfirmation world confirmation signatureDigestSha256
      (confirmed.1, .confirmed confirmed.2)

/-- The Authority's store, decisions included; transactions may come in any order. -/
def failoverStore (world : OfferWorld) :
    Machine FailoverDatabase FailoverRequest FailoverReply where
  init := FailoverDatabase.empty
  admits := fun _ _ request => request.bypasses = false
  step := failoverStep world

instance decidableAdmitsFailover (world : OfferWorld)
    (history : List (FailoverRequest × FailoverReply)) (db : FailoverDatabase)
    (request : FailoverRequest) : Decidable ((failoverStore world).admits history db request) :=
  inferInstanceAs (Decidable (request.bypasses = false))

end WorkGate
