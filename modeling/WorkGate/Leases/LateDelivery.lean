/-
# Late deliveries leave healthy leases alone

A share travels with the reading its submission was captured at, from the connection through
the outbox to a delivery process, and arrives whenever that process gets to it.  As long as
its session is worked under the lease it was captured under, the reading lies between the
start of that lease and its end, whatever was renewed, delivered or recorded in between.
-/

import WorkGate.Leases.Invariant

namespace WorkGate

open WorkGate.Library

/-- An accepted share on its way to the Authority: a connection is to record it, it is
recorded, or a process has claimed it. -/
inductive LeaseSystem.Captured (system : LeaseSystem) (event : AcceptedWorkEvent)
    (context : StratumLeaseContext) : Prop
  | queued (connectionId : String) (connection : ProxyConnection) (token : AcceptedSubmissionToken)
      (workerResponse : String)
      (hconnection : system.connections.lookup connectionId = some connection)
      (haction : .persistAccepted token event context workerResponse ∈ connection.actions)
  | recorded (eventId : AcceptedWorkEventId) (row : AcceptedWorkRow)
      (hrow : system.delivery.outbox.lookup eventId = some row) (hevent : row.event = event)
      (hcontext : row.leaseContext = context)
  | claimed (process : ℕ) (stage : DeliveryStage)
      (hstage : system.delivery.processes.lookup process = some stage)
      (hevent : stage.claim.event = event) (hcontext : stage.claim.leaseContext = context)

section

variable {drawn : List String} {system : LeaseSystem} {deps : Dependencies}
  {issuer : StratumCredentialIssuer} {secretVerifier : String → String}
  {event : AcceptedWorkEvent} {context : StratumLeaseContext}

/-- A share on its way was accepted under a window that was granted. -/
theorem granted_of_captured (h : LeaseInvariant deps drawn system)
    (hcaptured : system.Captured event context) :
    Granted drawn system.delivery.authority (context.window event.workSessionId) := by
  cases hcaptured with
  | queued connectionId connection token workerResponse hconnection haction =>
      exact (h.granted.connections connectionId connection hconnection).2 token event context
        workerResponse haction
  | recorded eventId row hrow hevent hcontext =>
      subst hevent hcontext
      exact h.granted.recorded eventId row hrow
  | claimed process stage hstage hevent hcontext =>
      subst hevent hcontext
      exact h.granted.deliveries process stage hstage

end

/-- The refusals of a share whose reading lies outside its lease. -/
def AuthorityPersistenceError.isLate : AuthorityPersistenceError → Bool
  | .workRefused .workLeaseExpired => true
  | .workRefused .workerContinuityLost => true
  | _ => false

namespace AuthorityDatabase

/-- What is observed of a leased session is its lease. -/
theorem observeSessionLease_of_leased {session : SessionRow} {leaseId : String}
    {clock : WorkerClock} {persistedLeaseId continuityId : String} {startedAt expiresAt : ℕ}
    (hleased : session.lifecycleState = .leased) (hname : session.leaseId = some persistedLeaseId)
    (hboot : session.continuityId = some continuityId)
    (hstarted : session.leaseStartedAtMonotonicMilliseconds = some startedAt)
    (hends : session.expiresAtMonotonicMilliseconds = some expiresAt) :
    observeSessionLease session leaseId clock =
      (observeWorkLease ⟨.leased, persistedLeaseId, continuityId, startedAt, expiresAt, leaseId,
        clock⟩).mapError mapLeaseError := by
  have hcolumns : leaseColumns session session.leaseStartedAtMonotonicMilliseconds =
      .ok (persistedLeaseId, continuityId, startedAt, expiresAt) := by
    simp only [leaseColumns, hname, hboot, hstarted, hends]
  rw [observeSessionLease, hcolumns, hleased]
  rfl

/-- What was observed was the lease that was presented. -/
theorem observeSessionLease_observed {session : SessionRow} {leaseId : String}
    {clock : WorkerClock} {observation : LeaseObservation}
    (h : observeSessionLease session leaseId clock = .ok observation) :
    session.lifecycleState = .leased ∧ session.leaseId = some leaseId := by
  refine ⟨SessionEffect.observeSessionLease_leased h, ?_⟩
  simp only [observeSessionLease] at h
  split at h
  · cases h
  · split at h
    · cases h
    · next persistedLeaseId continuityId leaseStartedAt expiresAt hcolumns =>
        obtain ⟨hname, -⟩ := leaseColumns_eq_ok hcolumns
        rw [mapError_eq_ok, observeWorkLease, bind_eq_ok] at h
        obtain ⟨_, -, h⟩ := h
        obtain ⟨hpresented, -⟩ := guard_eq_ok h
        exact hname.trans (congrArg some (not_not.mp hpresented))

/-- No error of a lease observation is about its reading; that is what a stop is for. -/
theorem observeSessionLease_not_late {session : SessionRow} {leaseId : String}
    {clock : WorkerClock} {error : AuthorityPersistenceError}
    (h : observeSessionLease session leaseId clock = .error error) : error.isLate = false := by
  have hmapped : ∀ error, (mapLeaseError error).isLate = false := by
    intro error
    cases error <;> rfl
  simp only [observeSessionLease] at h
  split at h
  · cases h
    exact hmapped _
  · split at h
    · next hcolumns =>
        cases h
        simp only [leaseColumns] at hcolumns
        split at hcolumns
        · cases hcolumns
        · cases hcolumns
          rfl
    · obtain ⟨found, -, rfl⟩ := mapError_eq_error.mp h
      exact hmapped found

theorem insertIssuanceIntent_not_late {db : AuthorityDatabase} {challengeId : ChallengeId}
    {challenge : ChallengeRow} {availableAt : ℕ} {passUuid : String}
    {error : AuthorityPersistenceError}
    (h : db.insertIssuanceIntent challengeId challenge availableAt passUuid = .error error) :
    error.isLate = false := by
  simp only [insertIssuanceIntent] at h
  split at h
  · cases h
    rfl
  · cases h

theorem recordAcceptance_not_late {db : AuthorityDatabase} {event : AcceptedWorkEvent}
    {challengeId : ChallengeId} {challenge : ChallengeRow} {transition : AcceptedWorkTransition}
    {passUuid : String} {error : AuthorityPersistenceError}
    (h : db.recordAcceptance event challengeId challenge transition passUuid = .error error) :
    error.isLate = false := by
  rw [recordAcceptance, bind_eq_error] at h
  rcases h with hreceived | ⟨receivedAt, -, hintended⟩
  · simp only [unixSecondsToI64] at hreceived
    split at hreceived
    · cases hreceived
    · cases hreceived
      rfl
  · cases hcreated : transition.issuanceIntentCreated with
    | false =>
        rw [hcreated] at hintended
        cases hintended
    | true =>
        simp only [hcreated, if_true, bind_eq_error, map_eq_error] at hintended
        rcases hintended with hinserted | ⟨_, -, hwritten⟩
        · exact insertIssuanceIntent_not_late hinserted
        · cases hwritten

/-- Only an observed stop refuses a share as late. -/
theorem acceptWork_not_late {db : AuthorityDatabase} {event : AcceptedWorkEvent}
    {leaseId : String} {clock : WorkerClock} {now : ℕ} {passUuid : String}
    {error : AuthorityPersistenceError}
    (hobserved : ∀ session reason, db.sessions.lookup event.workSessionId = some session →
      observeSessionLease session leaseId clock ≠ .ok (.stop reason))
    (h : (db.acceptWork event leaseId clock now passUuid).2 = .error error) :
    error.isLate = false := by
  simp only [acceptWork] at h
  split at h
  · split at h
    · next hreplay =>
        cases h
        simp only [persistedAcceptance] at hreplay
        split at hreplay
        · cases hreplay
          rfl
        · cases hreplay
    · cases h
  · split at h
    · cases h
      rfl
    · next session hsession =>
        split at h
        · cases h
          rfl
        · next challenge hchallenge =>
            split at h
            · cases h
              cases challenge.lifecycleState <;> rfl
            · split at h
              · cases h
                rfl
              · split at h
                · cases h
                  rfl
                · split at h
                  · next hobserve =>
                      cases h
                      exact observeSessionLease_not_late hobserve
                  · next reason hobserve =>
                      exact absurd hobserve (hobserved session reason hsession)
                  · split at h
                    · cases h
                      rfl
                    · split at h
                      · cases h
                        rfl
                      · split at h
                        · next hrecord =>
                            cases h
                            exact recordAcceptance_not_late hrecord
                        · cases h

end AuthorityDatabase

section

variable {drawn : List String} {system : LeaseSystem} {deps : Dependencies}
  {issuer : StratumCredentialIssuer} {secretVerifier : String → String}
  {event : AcceptedWorkEvent} {context : StratumLeaseContext}

/-- A share that was granted its window is accepted under its own lease. -/
theorem observeSessionLease_of_granted {db : AuthorityDatabase} {sessionId : WorkSessionId}
    {session : SessionRow} {clock : WorkerClock}
    (hgranted : Granted drawn db (context.window sessionId))
    (hboot : clock.continuityId = context.continuityId)
    (hreading : clock.monotonicMilliseconds = context.lastMonotonicMilliseconds)
    (hsession : db.sessions.lookup sessionId = some session)
    (hleased : session.lifecycleState = .leased)
    (hname : session.leaseId = some context.leaseId) :
    AuthorityDatabase.observeSessionLease session context.leaseId clock = .ok .accepted := by
  have hlease : db.maybeLease sessionId = some session.columns := by
    rw [AuthorityDatabase.maybeLease, hsession]
    exact SessionRow.maybeLease_of_leased hleased
  have hwithin := hgranted.within _ hlease hname
  obtain ⟨startedAt, hstarted, hbefore⟩ := hwithin.started
  obtain ⟨expiresAt, hends, hafter⟩ := hwithin.ends
  rw [AuthorityDatabase.observeSessionLease_of_leased hleased hname hwithin.continuity hstarted
    hends, mapError_eq_ok, observeWorkLease_eq_accepted]
  refine ⟨rfl, rfl, hboot.symm, ?_, ?_⟩
  · rw [hreading]
    exact hbefore
  · rw [hreading]
    exact lt_of_lt_of_le hgranted.nonempty hafter

/-- Whatever lease its session is worked under by then, no delivery stops it, and none is
refused for its reading; under the lease it was captured under, the share is accepted. -/
theorem lateDelivery_accepted {history : List (LeaseEvent × LeaseReply)}
    (hrun : (leaseSystem deps issuer secretVerifier).Run history system)
    (hcaptured : system.Captured event context) :
    ∃ clock, WorkerClock.new context.continuityId context.lastMonotonicMilliseconds = .ok clock ∧
      (∀ session, system.delivery.authority.sessions.lookup event.workSessionId = some session →
        session.lifecycleState = .leased → session.leaseId = some context.leaseId →
        AuthorityDatabase.observeSessionLease session context.leaseId clock = .ok .accepted) ∧
      (∀ session reason,
        system.delivery.authority.sessions.lookup event.workSessionId = some session →
        AuthorityDatabase.observeSessionLease session context.leaseId clock ≠
          .ok (.stop reason)) ∧
      ∀ now passUuid error, (system.delivery.authority.acceptWork event context.leaseId clock now
        passUuid).2 = .error error → error.isLate = false := by
  have hgranted := granted_of_captured (leaseInvariant_of_run hrun) hcaptured
  have haccepted : ∀ session, system.delivery.authority.sessions.lookup event.workSessionId =
      some session → session.lifecycleState = .leased → session.leaseId = some context.leaseId →
      AuthorityDatabase.observeSessionLease session context.leaseId
        ⟨context.continuityId, context.lastMonotonicMilliseconds, hgranted.continuity⟩ =
        .ok .accepted := by
    intro session hsession hleased hname
    exact observeSessionLease_of_granted hgranted rfl rfl hsession hleased hname
  have hstops : ∀ session reason, system.delivery.authority.sessions.lookup event.workSessionId =
      some session → AuthorityDatabase.observeSessionLease session context.leaseId
        ⟨context.continuityId, context.lastMonotonicMilliseconds, hgranted.continuity⟩ ≠
        .ok (.stop reason) := by
    intro session reason hsession hstop
    obtain ⟨hleased, hname⟩ := AuthorityDatabase.observeSessionLease_observed hstop
    rw [haccepted session hsession hleased hname] at hstop
    cases hstop
  refine ⟨_, dif_pos hgranted.continuity, haccepted, hstops, ?_⟩
  intro now passUuid error herror
  exact AuthorityDatabase.acceptWork_not_late hstops herror

end

/-! ## A share older than the renewal -/

/-- A username of the shape the registry asks for. -/
def leasedUsername : String := "bwg_" ++ String.ofList (List.replicate 22 'a')

def leasedAuthorizeFrame : String :=
  "\x7b\"id\":2,\"method\":\"mining.authorize\",\"params\":[\"" ++ leasedUsername ++
    "\",\"s\"]\x7d"

def leasedSubmitFrame : String :=
  "\x7b\"id\":4,\"method\":\"mining.submit\",\"params\":[\"" ++ leasedUsername ++
    "\",\"j\",\"0001\",\"5f5e1000\",\"00000000\"]\x7d"

/-- The libraries, for frames that carry a registered username. -/
def leasedDependencies : Dependencies :=
  .ofTables
    ([(leasedAuthorizeFrame, .object [("id", .number (.posInt 2)),
        ("method", .string "mining.authorize"),
        ("params", .array [.string leasedUsername, .string "s"])]),
      (leasedSubmitFrame, .object [("id", .number (.posInt 4)), ("method", .string "mining.submit"),
        ("params", .array [.string leasedUsername, .string "j", .string "0001",
          .string "5f5e1000", .string "00000000"])])] ++ sampleTexts)
    ["00000000-0000-4000-8000-000000000000"]
    ((acceptedEventDomain ++ asBytes "session_1" ++ [0] ++ asBytes leasedSubmitFrame,
      bytesOfHex "56cd3686a02530c72f86dcb535525ada49fd7a96f3f998222ba1754df124b1ad") ::
      sampleDigests)

/-- A lease whose connection submits a share at 15 seconds; the lease is renewed at 30 seconds
and the connection follows; only then is the share recorded and claimed. -/
def shareBeforeRenewal : List LeaseEvent :=
  let challengeId : ChallengeId := ⟨"challenge_a", isChallengeId_a⟩
  let sessionId : WorkSessionId := ⟨"session_1", validSession_1⟩
  let commitment := String.ofList (List.replicate 64 '0')
  let leaseId := "00000000-0000-4000-8000-000000000000"
  let clock : ℕ → WorkerClock := fun reading => ⟨"boot", reading, isContinuityId_boot⟩
  [.delivery (.authority
      (.insertChallenge ⟨challengeId, ⟨Uint256.one, toNat_one_pos⟩, 900, "seed", false⟩)),
    .delivery (.authority (.proposePoolSelection challengeId "offer" commitment 1)),
    .delivery (.authority (.confirmPoolSelection challengeId commitment 2)),
    .delivery (.authority (.insertWorkSession challengeId sessionId 3)),
    .startWork 1 challengeId sessionId (clock 10000) none leaseId 10,
    .proceed 1 none,
    .present "connection" subscribeFrame subscribedFrame leasedAuthorizeFrame 11,
    .establish "connection" none,
    .upstreamFrame "connection" authorizedFrame 12000, .execute "connection" 12,
    .upstreamFrame "connection" difficultyFrame 13000, .execute "connection" 13,
    .upstreamFrame "connection" (notifyFrame '0') 14000, .execute "connection" 14,
    .workerFrame "connection" leasedSubmitFrame 15000, .execute "connection" 15,
    .renewWork 2 challengeId sessionId leaseId (clock 30000) 30,
    .proceed 2 none,
    .upstreamFrame "connection" acceptedFrame 31000, .execute "connection" 31,
    .refresh "connection" 32000, .renew "connection",
    .delivery (.claim 1 ⟨"delivery_worker_1", 60, by decide⟩ 33 [])]

/-- The issuer and the verifier of the sample: fixed texts of the shapes the registry asks for. -/
abbrev leasedSystem : Machine LeaseSystem LeaseEvent LeaseReply :=
  leaseSystem leasedDependencies
    ⟨fun _ => leasedUsername, fun _ _ _ _ _ => "s"⟩
    fun secret => secret ++ String.ofList (List.replicate 42 'v')

instance : ∀ history system event, Decidable (leasedSystem.admits history system event)
  | history, _, .startWork _ _ _ _ _ leaseId _ =>
      inferInstanceAs (Decidable (castUuid leaseId = some leaseId ∧ leaseId ∉ drawnLeases history))
  | _, _, .registry request => inferInstanceAs (Decidable (StratumRegistry.target request = none))
  | _, _, .delivery request => inferInstanceAs (Decidable (request.isForeign = true))
  | _, _, .renewWork _ _ _ _ _ _ => isTrue trivial
  | _, _, .proceed _ _ => isTrue trivial
  | _, _, .abandon _ => isTrue trivial
  | _, _, .present _ _ _ _ _ => isTrue trivial
  | _, _, .establish _ _ => isTrue trivial
  | _, _, .refresh _ _ => isTrue trivial
  | _, _, .renew _ => isTrue trivial
  | _, _, .workerFrame _ _ _ => isTrue trivial
  | _, _, .upstreamFrame _ _ _ => isTrue trivial
  | _, _, .execute _ _ => isTrue trivial
  | _, _, .disconnect _ => isTrue trivial

/-- Whether a process has claimed a share that is older than the last renewal of the lease it
was captured under. -/
def claimsOlderShare (system : LeaseSystem) (stage : DeliveryStage) : Bool :=
  match system.delivery.authority.sessions.lookup stage.claim.event.workSessionId with
  | none => false
  | some session => session.lifecycleState == .leased &&
      session.leaseId == some stage.claim.leaseContext.leaseId &&
      session.lastMonotonicMilliseconds.any fun last =>
        decide (stage.claim.leaseContext.lastMonotonicMilliseconds < last)

theorem shareBeforeRenewal_accepted :
    ∃ stage clock session, (leasedSystem.replay shareBeforeRenewal).2.delivery.processes.lookup 1 =
        some stage ∧
      (leasedSystem.replay shareBeforeRenewal).2.delivery.authority.sessions.lookup
        stage.claim.event.workSessionId = some session ∧
      claimsOlderShare (leasedSystem.replay shareBeforeRenewal).2 stage = true ∧
      AuthorityDatabase.observeSessionLease session stage.claim.leaseContext.leaseId clock =
        .ok .accepted := by
  have hfacts : leasedSystem.AdmitsAll ([], leasedSystem.init) shareBeforeRenewal ∧
      ((leasedSystem.replay shareBeforeRenewal).2.delivery.processes.lookup 1).any
        (claimsOlderShare (leasedSystem.replay shareBeforeRenewal).2) = true := by
    decide +kernel
  obtain ⟨hadmits, hclaimed⟩ := hfacts
  have hrun := Machine.run_replay shareBeforeRenewal hadmits
  -- What follows is about any point, lest the run be evaluated again.
  obtain ⟨point, hpoint⟩ : ∃ point, leasedSystem.replay shareBeforeRenewal = point := ⟨_, rfl⟩
  rw [hpoint] at hrun hclaimed ⊢
  obtain ⟨stage, hstage, holder⟩ := (Option.any_eq_true _ _).mp hclaimed
  obtain ⟨clock, -, haccepted, -⟩ :=
    lateDelivery_accepted hrun (.claimed 1 stage hstage rfl rfl)
  have hclaims := holder
  simp only [claimsOlderShare] at hclaims
  split at hclaims
  · cases hclaims
  · next session hsession =>
      simp only [Bool.and_eq_true, beq_iff_eq] at hclaims
      obtain ⟨⟨hleased, hname⟩, -⟩ := hclaims
      exact ⟨stage, clock, session, hstage, hsession, holder,
        haccepted session hsession hleased hname⟩

end WorkGate
