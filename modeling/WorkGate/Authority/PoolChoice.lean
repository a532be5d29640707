/-
# Choosing a pool (src/authority_application/claimant_pool_selection.rs)

`claimant_select_pool` proposes a choice at the Authority, has the Pool Adapter record the raw
choice, and confirms the proposal.  The two keep their rows in databases of their own, so any
number of calls for one challenge may come between any two of these steps.
-/

import WorkGate.Library.Machine
import WorkGate.Authority.Consent
import WorkGate.Authority.Frames
import WorkGate.Stratum.PoolSelections

namespace WorkGate

open WorkGate.Library

/-! ## What a choice is checked against -/

/-- What a disclosed offer says of payouts. -/
structure PoolOffer where
  offerId : String
  acceptedDestinationTypes : List String
  approvedBeneficiaries : List String

variable {deps : Dependencies}

/-- `accepts_selection`. -/
def PoolOffer.acceptsSelection (offer : PoolOffer) (selection : PoolSelection deps) : Bool :=
  if offer.offerId != selection.offerId then false
  else match selection.payout with
    | .bitcoinAddress _ => offer.acceptedDestinationTypes.contains "bitcoin_mainnet_address"
    | .approvedBeneficiary beneficiaryId => offer.approvedBeneficiaries.contains beneficiaryId

/-- The checks of `propose_pool_selection` before it writes.  A descriptor may carry no offers,
and those it carries may not verify. -/
def checkPoolSelection (maybePoolOffers : Option (Option (List PoolOffer)))
    (selection : PoolSelection deps) : Except AuthorityApplicationError Unit :=
  match maybePoolOffers with
  | none => .error .poolSelectionRequired
  | some none => .error .poolOffer
  | some (some offers) =>
    match offers.find? fun offer => offer.offerId == selection.offerId with
    | none => .error .unknownPoolOffer
    | some offer =>
        if offer.acceptsSelection selection then .ok () else .error .invalidPoolSelection

/-- `claimant_session_id`. -/
def claimantSessionId (deps : Dependencies) (challengeId : ChallengeId) :
    Except ProgressError WorkSessionId :=
  let input := asBytes "BWG/0.1 claimant Work Session\x00" ++ asBytes challengeId.text
  OpaqueId.tryFrom "session_" ("session_" ++ Base64Url.encode (deps.sha256 input))

/-! ## The calls -/

/-- The step a call takes next. -/
inductive SelectStep
  | propose
  | record (proposed : PoolSelectionCommitment)
  | confirm (proposed : PoolSelectionCommitment)

structure SelectCall (deps : Dependencies) where
  selection : PoolSelection deps
  next : SelectStep

/-- The Authority, the Pool Adapter's rows, the calls under way, and what the system's clock
reads; the latest it ever read is kept beside it, since a clock may be set back. -/
structure ClaimantPoolState (deps : Dependencies) where
  authority : AuthorityDatabase
  rawSelections : PoolSelectionTable
  calls : Rows ℕ (SelectCall deps)
  clock : ℕ
  latest : ℕ

/-- What may happen: the clock is read, another transaction commits, a call comes or takes its
next step, and the Pool Adapter's rows are read and deleted. -/
inductive ClaimantPoolEvent (deps : Dependencies)
  | clock (now : ℕ)
  | authority (request : AuthorityRequest)
  | selectPool (requestId : ℕ) (selection : PoolSelection deps)
  | proceed (requestId : ℕ) (maybePoolOffers : Option (Option (List PoolOffer)))
  | release
  | deleteExpired
  | authorize (sessionId : WorkSessionId) (upstreamSecret : String)

inductive ClaimantPoolReply (deps : Dependencies)
  | silent
  | recorded (selection : PoolSelection deps)
  | answered (answer : Except AuthorityApplicationError PoolSelectionCommitment)
  | authorized (answer : Except StratumV1Error (Option StratumUpstreamAuthorization))

namespace ClaimantPoolState

/-- A call that has its answer is over. -/
def answers (state : ClaimantPoolState deps) (requestId : ℕ)
    (answer : Except AuthorityApplicationError PoolSelectionCommitment) :
    ClaimantPoolState deps × ClaimantPoolReply deps :=
  ({ state with calls := state.calls.erase requestId }, .answered answer)

def fails (state : ClaimantPoolState deps) (requestId : ℕ) (error : AuthorityApplicationError) :
    ClaimantPoolState deps × ClaimantPoolReply deps :=
  state.answers requestId (.error error)

/-- The call goes on to `next`. -/
def advance (state : ClaimantPoolState deps) (requestId : ℕ) (call : SelectCall deps)
    (next : SelectStep) : ClaimantPoolState deps :=
  { state with calls := state.calls.insert requestId { call with next } }

/-- What the Pool Adapter is handed: the deadline is the descriptor's. -/
def intake (challengeId : ChallengeId) (state : ClaimantPoolState deps)
    (selection : PoolSelection deps) :
    Except AuthorityApplicationError (PoolSelectionIntake deps) :=
  match state.authority.challenges.lookup challengeId with
  | none => .error (.ofPersistence .unknownChallenge)
  | some challenge =>
    match claimantSessionId deps challengeId with
    | .error error => .error (.progress error)
    | .ok sessionId => .ok {
        sessionId
        challengeId
        selection
        challengeExpiresAtUnixSeconds := challenge.expiresAtUnixSeconds
        nowUnixSeconds := state.clock }

/-- `propose_pool_selection`, of the application and then of its store. -/
def propose (challengeId : ChallengeId) (state : ClaimantPoolState deps) (requestId : ℕ)
    (call : SelectCall deps) (maybePoolOffers : Option (Option (List PoolOffer))) :
    ClaimantPoolState deps × ClaimantPoolReply deps :=
  if challengeId ∉ state.authority.challenges then
    state.fails requestId (.ofPersistence .unknownChallenge)
  else match checkPoolSelection maybePoolOffers call.selection with
    | .error error => state.fails requestId error
    | .ok () =>
      let written := state.authority.proposePoolSelection challengeId call.selection.offerId
        (call.selection.commitment challengeId) state.clock
      let proposing := { state with authority := written.1 }
      match written.2 with
      | .error error => proposing.fails requestId (.ofPersistence error)
      | .ok proposed => (proposing.advance requestId call (.record proposed), .silent)

/-- `record_pool_selection`, at the Pool Adapter. -/
def record (challengeId : ChallengeId) (state : ClaimantPoolState deps) (requestId : ℕ)
    (call : SelectCall deps) (proposed : PoolSelectionCommitment) :
    ClaimantPoolState deps × ClaimantPoolReply deps :=
  match state.intake challengeId call.selection with
  | .error error => state.fails requestId error
  | .ok intake =>
    match state.rawSelections.recordPoolSelection intake with
    | .error _ => state.fails requestId .workerStratumUnavailable
    | .ok written =>
        (({ state with rawSelections := written }).advance requestId call (.confirm proposed),
          .recorded call.selection)

/-- `confirm_pool_selection`, which answers the call. -/
def confirm (challengeId : ChallengeId) (state : ClaimantPoolState deps) (requestId : ℕ)
    (proposed : PoolSelectionCommitment) : ClaimantPoolState deps × ClaimantPoolReply deps :=
  let written := state.authority.confirmPoolSelection challengeId proposed.commitment state.clock
  ({ state with authority := written.1 }).answers requestId
    (written.2.mapError AuthorityApplicationError.ofPersistence)

/-- The next step of a call. -/
def proceed (challengeId : ChallengeId) (state : ClaimantPoolState deps) (requestId : ℕ)
    (call : SelectCall deps) (maybePoolOffers : Option (Option (List PoolOffer))) :
    ClaimantPoolState deps × ClaimantPoolReply deps :=
  match call.next with
  | .propose => state.propose challengeId requestId call maybePoolOffers
  | .record proposed => state.record challengeId requestId call proposed
  | .confirm proposed => state.confirm challengeId requestId proposed

/-- One event. -/
def step (challengeId : ChallengeId) (state : ClaimantPoolState deps) :
    ClaimantPoolEvent deps → ClaimantPoolState deps × ClaimantPoolReply deps
  | .clock now => ({ state with clock := now, latest := max state.latest now }, .silent)
  | .authority request =>
      ({ state with authority := (authorityStep state.authority request).1 }, .silent)
  | .selectPool requestId selection =>
      ({ state with calls := state.calls.insert requestId ⟨selection, .propose⟩ }, .silent)
  | .proceed requestId maybePoolOffers =>
      match state.calls.lookup requestId with
      | none => (state, .silent)
      | some call => state.proceed challengeId requestId call maybePoolOffers
  | .release =>
      ({ state with rawSelections := state.rawSelections.deletePoolSelection challengeId },
        .silent)
  | .deleteExpired =>
      match state.rawSelections.deleteExpiredPoolSelections state.clock with
      | .error _ => (state, .silent)
      | .ok (kept, _) => ({ state with rawSelections := kept }, .silent)
  | .authorize sessionId upstreamSecret =>
      let read := state.rawSelections.sessionUpstreamAuthorization deps sessionId upstreamSecret
        state.clock
      ({ state with rawSelections := read.1 }, .authorized read.2)

/-- Whether the challenge is over: closed at the Authority. -/
def isClosed (challengeId : ChallengeId) (state : ClaimantPoolState deps) : Bool :=
  (state.authority.challenges.lookup challengeId).any fun challenge =>
    !challengeAcceptsWorkControl challenge.lifecycleState

end ClaimantPoolState

/-- Choosing the pool of one challenge.  Its selection is proposed and confirmed by the calls
alone, and its raw choice is released once the Authority has closed it. -/
def claimantPool (deps : Dependencies) (challengeId : ChallengeId) :
    Machine (ClaimantPoolState deps) (ClaimantPoolEvent deps) (ClaimantPoolReply deps) where
  init := ⟨AuthorityDatabase.empty, ∅, ∅, 0, 0⟩
  admits := fun _ state event =>
    match event with
    | .authority request => request.selectsPool challengeId = false
    | .release => state.isClosed challengeId = true
    | _ => True
  step := fun state event => state.step challengeId event

instance decidableAdmitsClaimantPool {challengeId : ChallengeId}
    (history : List (ClaimantPoolEvent deps × ClaimantPoolReply deps))
    (state : ClaimantPoolState deps) : (event : ClaimantPoolEvent deps) →
      Decidable ((claimantPool deps challengeId).admits history state event)
  | .authority request => inferInstanceAs (Decidable (request.selectsPool challengeId = false))
  | .release => inferInstanceAs (Decidable (state.isClosed challengeId = true))
  | .clock _ | .selectPool _ _ | .proceed _ _ | .deleteExpired | .authorize _ _ => isTrue trivial

end WorkGate
