/-
# Replacing an offer (src/authority_application/pool_adapter.rs)

A request to replace an offer first reads which offer the session works under, verifies the
signed sets and judges the change; only then does its transaction begin, and anything may
happen in between.  The Pool Adapter is therefore seen with two steps for such a request, and
it keeps what was read in the first for the second.

What consent says about a session is stated beside it: the terms of the nearest offer that was
confirmed on its own along the lineage, or else of the offer signed with the challenge.
-/

import WorkGate.Authority.Consent
import WorkGate.Failover.Replays

namespace WorkGate

open WorkGate.Library

/-- The pool selection a session keeps, with the offer that replaced the selected one. -/
structure PersistedSessionPoolSelection where
  challengeId : ChallengeId
  selection : PoolSelectionCommitment
  maybeReplacementOffer : Option DisclosedPoolOffer

namespace FailoverDatabase

/-- The candidate offer of the decision that a session is the candidate of. -/
def candidateOffer (db : FailoverDatabase) (sessionId : WorkSessionId) :
    Option DisclosedPoolOffer :=
  (db.authority.replacements.entries.find? fun entry =>
    entry.2.candidateSessionId == sessionId).bind fun entry =>
      (db.decisions.lookup entry.1).map (·.candidateOffer)

/-- The same, for decisions that wait for a confirmation only: a session that is there although
it is the candidate of such a decision was released. -/
def releasedOffer (db : FailoverDatabase) (sessionId : WorkSessionId) : Option DisclosedPoolOffer :=
  (db.authority.replacements.entries.find? fun entry =>
    entry.2.candidateSessionId == sessionId && entry.2.pendingReconfirmation).bind fun entry =>
      (db.decisions.lookup entry.1).map (·.candidateOffer)

/-- `session_pool_selection`: the nearest decision in the lineage of a session. -/
def sessionPoolSelection (db : FailoverDatabase) (sessionId : WorkSessionId) :
    Except AuthorityPersistenceError PersistedSessionPoolSelection :=
  match db.authority.sessions.lookup sessionId with
  | none => .error .unknownWorkSession
  | some row =>
    let maybeReplacementOffer := nearest db.authority.nodes db.candidateOffer sessionId
    if maybeReplacementOffer.any (·.offerId != row.poolOfferId) then .error .invalidPersistedData
    else .ok ⟨row.challengeId, ⟨row.poolOfferId, row.payoutCommitment⟩, maybeReplacementOffer⟩

end FailoverDatabase

/-! ## The Pool Adapter -/

/-- What the Pool Adapter reads of a challenge's descriptor. -/
structure OfferDescriptor where
  maybePoolOffers : Option SignedOffers
  actionPolicy : ActionPolicy

/-- The parsers and signatures, the Authority's issuer and the digest of a canonical set. -/
structure PoolAdapterWorld where
  offers : OfferWorld
  issuer : String
  canonicalOfferSetDigest : List DisclosedPoolOffer → String

/-- The store, the descriptors of its challenges, and what requests have read so far. -/
structure FailoverSystem where
  store : FailoverDatabase
  descriptors : Rows ChallengeId OfferDescriptor
  prepared : List PersistPoolOfferReplacement

namespace PoolAdapterWorld

/-- `verify_pool_offer_set` for one challenge. -/
def verify (world : PoolAdapterWorld) (signed : SignedOffers) (challengeId : ChallengeId)
    (descriptor : OfferDescriptor) : Except AuthorityApplicationError PoolOfferSetClaims :=
  (verifyOffers world.offers signed world.issuer challengeId
    descriptor.actionPolicy).mapError fun _ => .poolOffer

end PoolAdapterWorld

namespace FailoverSystem

/-- `replace_pool_offer`, until its transaction. -/
def prepareReplacement (world : PoolAdapterWorld) (system : FailoverSystem)
    (replacedSessionId candidateSessionId : WorkSessionId) (signedCandidate : SignedOffers)
    (now : ℕ) : Except AuthorityApplicationError PersistPoolOfferReplacement := do
  let retained ← (system.store.sessionPoolSelection replacedSessionId).mapError .ofPersistence
  match system.descriptors.lookup retained.challengeId with
  | none => .error (.persistence .unknownChallenge)
  | some descriptor =>
    match descriptor.maybePoolOffers with
    | none => .error .poolSelectionRequired
    | some signedPrior => do
      let priorSet ← world.verify signedPrior retained.challengeId descriptor
      let candidateSet ← world.verify signedCandidate retained.challengeId descriptor
      let maybeOriginalOffer := priorSet.offers.find? fun offer =>
        offer.offerId == retained.selection.poolOfferId
      match retained.maybeReplacementOffer.or maybeOriginalOffer with
      | none => .error .unknownPoolOffer
      | some priorOffer =>
        match candidateSet.offers.find? fun offer =>
            offer.offerId == retained.selection.poolOfferId with
        | none => .error .unknownPoolOffer
        | some candidateOffer => do
          let change ← (classifyPoolOfferChange world.offers priorOffer candidateOffer).mapError
            fun _ => .poolOffer
          return {
            replacedSessionId := replacedSessionId
            candidateSessionId := candidateSessionId
            challengeId := retained.challengeId
            priorOffer := priorOffer
            candidateOffer := candidateOffer
            candidateSignature := signedCandidate.signature
            candidateSetDigest := world.canonicalOfferSetDigest candidateSet.offers
            change := change
            now := now }

/-! ## What is offered, and what was consented to -/

/-- The offer signed with a challenge under the identity that was selected. -/
def originalOffer (world : PoolAdapterWorld) (system : FailoverSystem)
    (challengeId : ChallengeId) (poolOfferId : String) : Option DisclosedPoolOffer := do
  let descriptor ← system.descriptors.lookup challengeId
  let signed ← descriptor.maybePoolOffers
  let claims ← (world.verify signed challengeId descriptor).toOption
  claims.offers.find? fun offer => offer.offerId == poolOfferId

/-- The offer a session works under: the one its pool selection yields, or else the one signed
with the challenge. -/
def yieldedOffer (world : PoolAdapterWorld) (system : FailoverSystem)
    (sessionId : WorkSessionId) : Option DisclosedPoolOffer :=
  match system.store.sessionPoolSelection sessionId with
  | .error _ => none
  | .ok retained => retained.maybeReplacementOffer.or
      (system.originalOffer world retained.challengeId retained.selection.poolOfferId)

/-- The offer last consented to along the lineage of a session: that of the nearest release, or
else the one consented to originally. -/
def consentedOffer (world : PoolAdapterWorld) (system : FailoverSystem)
    (sessionId : WorkSessionId) : Option DisclosedPoolOffer :=
  match system.store.authority.sessions.lookup sessionId with
  | none => none
  | some row => (nearest system.store.authority.nodes system.store.releasedOffer sessionId).or
      (system.originalOffer world row.challengeId row.poolOfferId)

end FailoverSystem

/-! ## The Pool Adapter as a machine -/

inductive PoolAdapterRequest
  | issueChallenge (new : NewChallenge) (descriptor : OfferDescriptor)
  | transaction (request : FailoverRequest)
  | prepareReplacement (replacedSessionId candidateSessionId : WorkSessionId)
      (signedCandidate : SignedOffers) (now : ℕ)
  | persistReplacement (input : PersistPoolOfferReplacement)

inductive PoolAdapterReply
  | issued (result : Except AuthorityPersistenceError Unit)
  | store (reply : FailoverReply)
  | prepared (result : Except AuthorityApplicationError PersistPoolOfferReplacement)

/-- Whether a transaction may come as it is: challenges come with their descriptor, and
decisions are prepared first. -/
def FailoverRequest.isDirect : FailoverRequest → Bool
  | .authority (.insertChallenge _) | .authority (.consentTables _ _) | .persist _ => false
  | _ => true

def poolAdapterStep (world : PoolAdapterWorld) (system : FailoverSystem) :
    PoolAdapterRequest → FailoverSystem × PoolAdapterReply
  | .issueChallenge new descriptor =>
      match system.store.authority.insertChallenge new with
      | (_, .error error) => (system, .issued (.error error))
      | (authority, .ok ()) =>
          ({ system with
            store := { system.store with authority }
            descriptors := system.descriptors.insert new.challengeId descriptor },
            .issued (.ok ()))
  | .transaction request =>
      let after := failoverStep world.offers system.store request
      ({ system with store := after.1 }, .store after.2)
  | .prepareReplacement replacedSessionId candidateSessionId signedCandidate now =>
      match system.prepareReplacement world replacedSessionId candidateSessionId signedCandidate
          now with
      | .error error => (system, .prepared (.error error))
      | .ok input => ({ system with prepared := input :: system.prepared }, .prepared (.ok input))
  | .persistReplacement input =>
      let after := failoverStep world.offers system.store (.persist input)
      ({ system with store := after.1 }, .store after.2)

/-- What may come: any direct transaction, and the transaction of anything prepared. -/
def FailoverSystem.Accepts (system : FailoverSystem) : PoolAdapterRequest → Prop
  | .transaction request => request.isDirect = true
  | .persistReplacement input => input ∈ system.prepared
  | _ => True

/-- The Pool Adapter over its store. -/
def poolAdapter (world : PoolAdapterWorld) :
    Machine FailoverSystem PoolAdapterRequest PoolAdapterReply where
  init := ⟨FailoverDatabase.empty, ∅, []⟩
  admits := fun _ system request => system.Accepts request
  step := poolAdapterStep world

instance decidableAdmitsPoolAdapter (world : PoolAdapterWorld)
    (history : List (PoolAdapterRequest × PoolAdapterReply)) (system : FailoverSystem)
    (request : PoolAdapterRequest) :
    Decidable ((poolAdapter world).admits history system request) :=
  match request with
  | .issueChallenge _ _ => isTrue trivial
  | .transaction request => inferInstanceAs (Decidable (request.isDirect = true))
  | .prepareReplacement _ _ _ _ => isTrue trivial
  | .persistReplacement input => inferInstanceAs (Decidable (input ∈ system.prepared))

end WorkGate
