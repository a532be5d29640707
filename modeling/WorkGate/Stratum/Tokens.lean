/-
# Every token releases its own response

A response that waits for a record or a reservation is kept under the id of its request.
The id is free again as soon as the response arrived, so a Worker may use it for another
request while the first response still waits.  Tokens stay apart exactly as long as no
second response comes to wait under an id; then each is released once, as it came.
-/

import WorkGate.Stratum.Soundness

namespace WorkGate

open WorkGate.Library
open StratumSession (Effect effect_of_step)

/-- One of the two kinds of tokens: when one is handed out and for which response, the call
that releases it, and the refusal of one that is not waiting. -/
structure TokenKind (τ : Type) where
  emitted : StratumEntry → Option (τ × String)
  release : τ → StratumCall
  released : StratumEntry → Option τ
  unknown : StratumV1Error
  release_of_released : ∀ entry token, released entry = some token → entry.1 = release token

/-- Tokens of accepted submissions. -/
def acceptances : TokenKind AcceptedSubmissionToken where
  emitted
    | (.upstreamFrame frame _, .ok [.persistAccepted token _ _ _]) => some (token, frame)
    | _ => none
  release := .acceptedPersisted
  released
    | (.acceptedPersisted token, .ok _) => some token
    | _ => none
  unknown := .unknownPersistenceToken
  release_of_released := by
    intro entry token h
    split at h
    · cases h
      rfl
    · cases h

/-- Tokens of extranonces. -/
def reservations : TokenKind ExtranonceReservationToken where
  emitted
    | (.upstreamFrame frame _, .ok [.reserveExtranonce token _ _]) => some (token, frame)
    | _ => none
  release := .extranonceReserved
  released
    | (.extranonceReserved token, .ok _) => some token
    | _ => none
  unknown := .unknownExtranonceToken
  release_of_released := by
    intro entry token h
    split at h
    · cases h
      rfl
    · cases h

namespace TokenKind

variable {τ : Type} [DecidableEq τ]

/-- The tokens handed out and not yet released, each with the response it was handed out
for. -/
def awaiting (kind : TokenKind τ) : Transcript → List (τ × String)
  | [] => []
  | entry :: earlier =>
      match kind.emitted entry, kind.released entry with
      | some pair, _ => pair :: awaiting kind earlier
      | none, some token => (awaiting kind earlier).filter fun pair => pair.1 ≠ token
      | none, none => awaiting kind earlier

/-- Tokens that wait are pairwise distinct, each is released as the response it was handed
out for, after whatever else happened, and a token that does not wait releases nothing. -/
structure Exact (deps : Dependencies)
    (M : Machine StratumSession StratumCall StratumReply) (kind : TokenKind τ)
    (history : Transcript) (session : StratumSession) : Prop where
  distinct : ((kind.awaiting history).map Prod.fst).Nodup
  own : ∀ token response, (token, response) ∈ kind.awaiting history →
    ∀ later reached, M.Continues history session (later ++ history) reached →
      (∀ entry ∈ later, entry.1 ≠ kind.release token) →
        (reached.step deps (kind.release token)).2 = .ok [.forwardWorker response]
  once : ∀ token, token ∉ (kind.awaiting history).map Prod.fst →
    (session.step deps (kind.release token)).2 = .error (.error kind.unknown)

end TokenKind

/-- Whether a response makes an acceptance of a submission to be recorded. -/
def acceptsShare (deps : Dependencies) (submission : PendingSubmission) (message : JsonMap) :
    Bool :=
  message.reportsTrue &&
    match rebuiltHeader deps submission with
    | .ok header => meetsAssignedTarget deps header submission.target
    | .error _ => false

/-- Whether a response offers an extranonce to be reserved. -/
def offersExtranonce (message : JsonMap) : Bool :=
  ((resultAt message 1).bind Json.asStr).isSome &&
    ((resultAt message 2).bind Json.asU64).any fun size => decide (1 ≤ size ∧ size ≤ 32)

/-- A response to a request that is to wait finds no other response under its id. -/
def FreshAnswer (deps : Dependencies) (session : StratumSession) (message : JsonMap)
    (id : String) : Option OutstandingRequest → Prop
  | some (.submit submission) => acceptsShare deps submission message = true →
      (⟨id⟩ : AcceptedSubmissionToken) ∉ session.awaitingPersistence
  | some .subscribe => offersExtranonce message = true →
      (⟨id⟩ : ExtranonceReservationToken) ∉ session.awaitingExtranonce
  | _ => True

instance (deps : Dependencies) (session : StratumSession) (message : JsonMap) (id : String) :
    (request : Option OutstandingRequest) →
      Decidable (FreshAnswer deps session message id request)
  | some (.submit submission) => inferInstanceAs (Decidable
      (acceptsShare deps submission message = true →
        (⟨id⟩ : AcceptedSubmissionToken) ∉ session.awaitingPersistence))
  | some .subscribe => inferInstanceAs (Decidable (offersExtranonce message = true →
      (⟨id⟩ : ExtranonceReservationToken) ∉ session.awaitingExtranonce))
  | some .authorize => isTrue trivial
  | some .passthrough => isTrue trivial
  | none => isTrue trivial

/-- Responses that are to wait come under ids no other response waits under. -/
def FreshId (deps : Dependencies) (_ : Transcript) (session : StratumSession) :
    StratumCall → Prop
  | .upstreamFrame frame _ => ∀ message ∈ received deps frame, messageMethod message = none →
      ∀ id ∈ (messageId deps message).toOption,
        FreshAnswer deps session message id (session.outstandingRequests.lookup id)
  | _ => True

instance (deps : Dependencies) (history : Transcript) (session : StratumSession) :
    (call : StratumCall) → Decidable (FreshId deps history session call)
  | .upstreamFrame frame _ => inferInstanceAs (Decidable (∀ message ∈ received deps frame,
      messageMethod message = none → ∀ id ∈ (messageId deps message).toOption,
        FreshAnswer deps session message id (session.outstandingRequests.lookup id)))
  | .workerFrame _ _ => isTrue trivial
  | .acceptedPersisted _ => isTrue trivial
  | .extranonceReserved _ => isTrue trivial
  | .renew _ => isTrue trivial

/-! ## Tokens that wait -/

section Tracking

variable {deps : Dependencies} {history : Transcript} {session after : StratumSession}
  {call : StratumCall} {reply : StratumReply}

/-- A token waits until the call that releases it. -/
theorem TokenKind.mem_awaiting_append {τ : Type} [DecidableEq τ] {kind : TokenKind τ}
    {token : τ} {response : String} {later : Transcript}
    (hwaits : (token, response) ∈ kind.awaiting history)
    (hlater : ∀ entry ∈ later, entry.1 ≠ kind.release token) :
    (token, response) ∈ kind.awaiting (later ++ history) := by
  induction later with
  | nil => exact hwaits
  | cons entry later ih =>
      have hwaits := ih fun passed hpassed => hlater passed (List.mem_cons_of_mem _ hpassed)
      rw [List.cons_append, TokenKind.awaiting]
      split
      · exact List.mem_cons_of_mem _ hwaits
      · next other _ hreleased =>
          refine List.mem_filter.mpr ⟨hwaits, decide_eq_true ?_⟩
          rintro rfl
          exact hlater entry List.mem_cons_self (kind.release_of_released entry _ hreleased)
      · exact hwaits

/-- The maps of the session hold what waits. -/
structure TokensTracked (history : Transcript) (session : StratumSession) : Prop where
  acceptances : Rows.Lists id session.awaitingPersistence (acceptances.awaiting history)
  reservations : Rows.Lists PendingExtranonce.response session.awaitingExtranonce
    (reservations.awaiting history)

theorem TokensTracked.step (htracked : TokensTracked history session)
    (hfresh : FreshId deps history session call)
    (heffect : Effect deps session call after reply) :
    TokensTracked ((call, reply) :: history) after := by
  cases heffect with
  | @reserves frame requestId extranonce1 now size message hread hmethod hid hrequest hextranonce1
      hsize hrange =>
      have hfresh := hfresh message hread hmethod requestId (by rw [hid]; rfl)
      rw [hrequest] at hfresh
      have hoffers : offersExtranonce message = true := by
        simp [offersExtranonce, hextranonce1, hsize, hrange]
      exact ⟨htracked.acceptances, htracked.reservations.insert (hfresh hoffers) _⟩
  | @persists frame requestId now message submission event hread hmethod hid hrequest htrue
      hevent =>
      have hfresh := hfresh message hread hmethod requestId (by rw [hid]; rfl)
      rw [hrequest] at hfresh
      obtain ⟨header, hmade⟩ := acceptedEvent_eq_ok hevent
      have haccepts : acceptsShare deps submission message = true := by
        simp [acceptsShare, htrue, hmade.rebuilt, hmade.meets]
      exact ⟨htracked.acceptances.insert (hfresh haccepts) _, htracked.reservations⟩
  | releases => exact ⟨htracked.acceptances.erase _, htracked.reservations⟩
  | takesExtranonce => exact ⟨htracked.acceptances, htracked.reservations.erase _⟩
  | _ => exact ⟨htracked.acceptances, htracked.reservations⟩

theorem tokensTracked_of_run {config : StratumSessionConfig}
    (hrun : ((stratumSession deps config).under (FreshId deps)).Run history session) :
    TokensTracked history session := by
  refine Machine.Run.invariant (P := TokensTracked) ⟨Rows.Lists.empty, Rows.Lists.empty⟩ ?_ hrun
  intro history session call hadmits htracked
  exact htracked.step hadmits.2 (effect_of_step deps session call)

/-- Tokens of a kind are exact when the session keeps what waits in a map, and answers a
release from it. -/
theorem exact_of_lists {config : StratumSessionConfig} {τ ρ : Type} [DecidableEq τ]
    {kind : TokenKind τ} {rows : StratumSession → Rows τ ρ} {f : ρ → String}
    (hlists : ∀ history session,
      ((stratumSession deps config).under (FreshId deps)).Run history session →
        Rows.Lists f (rows session) (kind.awaiting history))
    (hreply : ∀ session token, (StratumSession.step deps session (kind.release token)).2 =
      match (rows session).lookup token with
      | some row => .ok [.forwardWorker (f row)]
      | none => .error (.error kind.unknown))
    (hrun : ((stratumSession deps config).under (FreshId deps)).Run history session) :
    kind.Exact deps ((stratumSession deps config).under (FreshId deps)) history session where
  distinct := (hlists _ _ hrun).nodup
  own := by
    intro token response hwaits later reached hcontinues hlater
    have hwaits := TokenKind.mem_awaiting_append hwaits hlater
    rw [(hlists _ _ (hrun.trans hcontinues)).mem_iff, Option.map_eq_some_iff] at hwaits
    obtain ⟨row, hrow, rfl⟩ := hwaits
    rw [hreply, hrow]
  once := by
    intro token habsent
    rw [(hlists _ _ hrun).mem_keys_iff, ← AList.lookup_eq_none] at habsent
    rw [hreply, habsent]

end Tracking

/-- As long as no second response comes to wait under an id, every token of either kind
releases its own response, once. -/
theorem tokens_exact {deps : Dependencies} {config : StratumSessionConfig} {history : Transcript}
    {session : StratumSession}
    (hrun : ((stratumSession deps config).under (FreshId deps)).Run history session) :
    acceptances.Exact deps ((stratumSession deps config).under (FreshId deps)) history session ∧
      reservations.Exact deps ((stratumSession deps config).under (FreshId deps)) history
        session := by
  constructor
  · refine exact_of_lists (fun _ _ hprior => (tokensTracked_of_run hprior).acceptances) ?_ hrun
    intro session token
    simp only [acceptances, StratumSession.step, StratumSession.acceptedPersisted]
    split
    · next hnone => rw [hnone]
    · next response hresponse =>
        rw [hresponse]
        rfl
  · refine exact_of_lists (fun _ _ hprior => (tokensTracked_of_run hprior).reservations) ?_ hrun
    intro session token
    simp only [reservations, StratumSession.step, StratumSession.extranonceReserved]
    split
    · next hnone => rw [hnone]
    · next pending hpending => rw [hpending]

/-- A Worker that uses the id of a submission again while its acceptance still waits. -/
def reusedIdCalls : List StratumCall := acceptedShareCalls ++ shareCalls '0' "00000001"

/-- Two acceptances then wait under one token, and the first response is lost. -/
theorem reusedId_tokensClash : ¬ ∀ (deps : Dependencies) (config : StratumSessionConfig)
    (history : Transcript) (session : StratumSession),
    (stratumSession deps config).Run history session →
      acceptances.Exact deps (stratumSession deps config) history session ∧
        reservations.Exact deps (stratumSession deps config) history session := by
  intro hclaim
  have hfacts : sampleSession.AdmitsAll ([], .start sampleConfig) reusedIdCalls ∧
      ¬ ((acceptances.awaiting (sampleSession.replay reusedIdCalls).1).map Prod.fst).Nodup := by
    decide +kernel
  have hexact := hclaim _ _ _ _ (Machine.run_replay reusedIdCalls hfacts.1)
  exact hfacts.2 hexact.1.distinct

/-- Two submissions under one id, the second after the first was released. -/
def releasedIdCalls : List StratumCall :=
  acceptedShareCalls ++ [.acceptedPersisted ⟨"4"⟩] ++ shareCalls '0' "00000001"

/-- Then one token waits, and releases the second response. -/
theorem releasedId_exact :
    acceptances.awaiting (sampleSession.replay releasedIdCalls).1 = [(⟨"4"⟩, acceptedFrame)] ∧
      acceptances.Exact sampleDependencies (sampleSession.under (FreshId sampleDependencies))
        ((sampleSession.under (FreshId sampleDependencies)).replay releasedIdCalls).1
        ((sampleSession.under (FreshId sampleDependencies)).replay releasedIdCalls).2 := by
  have hfacts : (sampleSession.under (FreshId sampleDependencies)).AdmitsAll
        ([], .start sampleConfig) releasedIdCalls ∧
      acceptances.awaiting (sampleSession.replay releasedIdCalls).1 =
        [(⟨"4"⟩, acceptedFrame)] := by
    decide +kernel
  exact ⟨hfacts.2, (tokens_exact (Machine.run_replay releasedIdCalls hfacts.1)).1⟩

end WorkGate
