/-
# Every window in the system is part of a lease

A window is a stretch of one lease: from the reading it was taken at to the end that was
known then.  Registrations, connections, submissions and recorded shares all carry windows,
older and newer ones side by side.  As long as the lease they name is the one its session is
worked under, they all lie inside it: a renewal only moves the end of a lease on, and another
lease has another name.
-/

import WorkGate.Leases.System
import WorkGate.Outbox.ExactlyOnce
import WorkGate.Stratum.Soundness

namespace WorkGate

open WorkGate.Library

/-- A stretch of a lease, as some part of the system remembers it. -/
structure LeaseWindow where
  sessionId : WorkSessionId
  leaseId : String
  continuityId : String
  last : ℕ
  expiresAt : ℕ

/-- The window of a lease context that belongs to a session. -/
def StratumLeaseContext.window (context : StratumLeaseContext) (sessionId : WorkSessionId) :
    LeaseWindow where
  sessionId := sessionId
  leaseId := context.leaseId
  continuityId := context.continuityId
  last := context.lastMonotonicMilliseconds
  expiresAt := context.expiresAtMonotonicMilliseconds

def LeaseCall.window (call : LeaseCall) : LeaseWindow where
  sessionId := call.sessionId
  leaseId := call.lease.leaseId
  continuityId := call.clock.continuityId
  last := call.clock.monotonicMilliseconds
  expiresAt := call.lease.expiresAtMonotonicMilliseconds

def StratumSessionRow.window (row : StratumSessionRow) (sessionId : WorkSessionId) :
    LeaseWindow where
  sessionId := sessionId
  leaseId := row.leaseId
  continuityId := row.continuityId
  last := row.lastMonotonicMilliseconds
  expiresAt := row.leaseExpiresAtMonotonicMilliseconds

/-! ## Windows inside their leases -/

/-- The window lies inside a lease of the same boot. -/
structure LeaseWindow.Within (window : LeaseWindow) (lease : LeaseColumns) : Prop where
  continuity : lease.continuityId = some window.continuityId
  started : ∃ startedAt, lease.startedAt = some startedAt ∧ startedAt ≤ window.last
  ends : ∃ expiresAt, lease.expiresAt = some expiresAt ∧ window.expiresAt ≤ expiresAt

/-- The window was granted: its lease was drawn, and as long as its session is worked under
that lease, the window lies inside it. -/
structure Granted (drawn : List String) (db : AuthorityDatabase) (window : LeaseWindow) :
    Prop where
  drawn : window.leaseId ∈ drawn
  continuity : isContinuityId window.continuityId = true
  nonempty : window.last < window.expiresAt
  within : ∀ lease, db.maybeLease window.sessionId = some lease →
    lease.leaseId = some window.leaseId → window.Within lease

/-- Every lease that goes on by a name in `drawn` went on by that name before, and ends no
earlier than it was to. -/
def LeasesGoOn (drawn : List String) (db after : AuthorityDatabase) : Prop :=
  ∀ sessionId lease leaseId, after.maybeLease sessionId = some lease →
    lease.leaseId = some leaseId → leaseId ∈ drawn →
      ∃ old, db.maybeLease sessionId = some old ∧ old.leaseId = lease.leaseId ∧
        old.continuityId = lease.continuityId ∧ old.startedAt = lease.startedAt ∧
        ∀ earlier, old.expiresAt = some earlier →
          ∃ later, lease.expiresAt = some later ∧ earlier ≤ later

theorem LeasesGoOn.of_keepsLeases {drawn : List String} {db after : AuthorityDatabase}
    (h : db.KeepsLeases after) : LeasesGoOn drawn db after := by
  intro sessionId lease leaseId hlease _ _
  exact ⟨lease, h sessionId lease hlease, rfl, rfl, rfl, fun earlier h => ⟨earlier, h, le_refl _⟩⟩

namespace Granted

variable {drawn more : List String} {db after : AuthorityDatabase} {window : LeaseWindow}

/-- A granted window stays granted while leases go on. -/
theorem goesOn (h : Granted drawn db window) (hon : LeasesGoOn drawn db after)
    (hmore : ∀ leaseId ∈ drawn, leaseId ∈ more) : Granted more after window where
  drawn := hmore _ h.drawn
  continuity := h.continuity
  nonempty := h.nonempty
  within := by
    intro lease hlease hname
    obtain ⟨old, hold, hsame, hboot, hstart, hend⟩ := hon _ lease _ hlease hname h.drawn
    have hwithin := h.within old hold (hsame.trans hname)
    obtain ⟨earlier, hearlier, hbefore⟩ := hwithin.ends
    obtain ⟨later, hlater, hafter⟩ := hend earlier hearlier
    exact {
      continuity := hboot ▸ hwithin.continuity
      started := hstart ▸ hwithin.started
      ends := ⟨later, hlater, hbefore.trans hafter⟩ }

/-- The rest of a window, from a later reading on, is granted with it. -/
theorem advance (h : Granted drawn db window) {last : ℕ} (hlast : window.last ≤ last)
    (hopen : last < window.expiresAt) : Granted drawn db { window with last } where
  drawn := h.drawn
  continuity := h.continuity
  nonempty := hopen
  within := by
    intro lease hlease hname
    have hwithin := h.within lease hlease hname
    obtain ⟨startedAt, hstarted, hbefore⟩ := hwithin.started
    exact {
      continuity := hwithin.continuity
      started := ⟨startedAt, hstarted, hbefore.trans hlast⟩
      ends := hwithin.ends }

end Granted

/-- A reading advanced by the wall clock leaves the rest of its window. -/
theorem Granted.advancedByWallClock {drawn : List String} {db : AuthorityDatabase}
    {context advanced : StratumLeaseContext} {sessionId : WorkSessionId} {issuedAt now : ℕ}
    (h : Granted drawn db (context.window sessionId))
    (hadvanced : context.advancedByWallClock issuedAt now = .ok advanced) :
    Granted drawn db (advanced.window sessionId) := by
  obtain ⟨hlast, hopen, hlease, hboot, -, hend⟩ :=
    StratumLeaseContext.advancedByWallClock_eq_ok hadvanced
  have hrest := h.advance hlast hopen
  rw [StratumLeaseContext.window, ← hlease, ← hboot, ← hend] at hrest
  exact hrest

/-! ## Sessions -/

/-- Everything a session holds was granted. -/
structure SessionGranted (drawn : List String) (db : AuthorityDatabase)
    (session : StratumSession) : Prop where
  config : Granted drawn db (session.config.leaseContext.window session.config.sessionId)
  submissions : ∀ id submission,
    session.outstandingRequests.lookup id = some (.submit submission) →
      Granted drawn db (submission.leaseContext.window session.config.sessionId)

/-- Every share among the actions was accepted under a window that was granted. -/
def ActionsGranted (drawn : List String) (db : AuthorityDatabase)
    (actions : List StratumProxyAction) : Prop :=
  ∀ token event context workerResponse,
    .persistAccepted token event context workerResponse ∈ actions →
      Granted drawn db (context.window event.workSessionId)

section

variable {drawn : List String} {db : AuthorityDatabase} {deps : Dependencies}
  {session after : StratumSession} {call : StratumCall} {reply : StratumReply}

theorem SessionGranted.start {config : StratumSessionConfig}
    (h : Granted drawn db (config.leaseContext.window config.sessionId)) :
    SessionGranted drawn db (.start config) where
  config := h
  submissions := by simp [StratumSession.start]

theorem renewConfig_eq_ok {renewed : AuthenticatedStratumSession}
    {config written : StratumSessionConfig} (h : renewed.renewConfig config = .ok written) :
    written.sessionId = config.sessionId ∧ renewed.sessionId = config.sessionId ∧
      written.leaseContext = renewed.leaseContext := by
  simp only [AuthenticatedStratumSession.renewConfig] at h
  split at h
  · cases h
  · next hsame =>
      cases h
      rw [not_or, not_not] at hsame
      exact ⟨rfl, hsame.1, rfl⟩

/-- No call moves a session to another Work Session, and only a renewal gives it another
window. -/
theorem StratumSession.Effect.config (heffect : session.Effect deps call after reply) :
    after.config = session.config ∨
      ∃ renewed, call = .renew renewed ∧ renewed.renewConfig session.config = .ok after.config := by
  cases heffect with
  | renews hconfig => exact .inr ⟨_, rfl, hconfig⟩
  | _ => exact .inl rfl

/-- What a call leaves in a session was granted, provided a renewal brings such a window. -/
theorem SessionGranted.step (h : SessionGranted drawn db session)
    (heffect : session.Effect deps call after reply)
    (hrenew : ∀ renewed, call = .renew renewed →
      Granted drawn db (renewed.leaseContext.window renewed.sessionId)) :
    SessionGranted drawn db after := by
  have hsession : after.config.sessionId = session.config.sessionId := by
    rcases heffect.config with hsame | ⟨renewed, -, hrenewed⟩
    · rw [hsame]
    · exact (renewConfig_eq_ok hrenewed).1
  constructor
  · rcases heffect.config with hsame | ⟨renewed, hcall, hrenewed⟩
    · rw [hsame]
      exact h.config
    · obtain ⟨hkept, hnamed, hcontext⟩ := renewConfig_eq_ok hrenewed
      rw [hcontext, hkept, ← hnamed]
      exact hrenew renewed hcall
  · intro id submission hlookup
    rw [hsession]
    rcases outstanding_effect heffect hlookup with
      ⟨hbefore, -⟩ | ⟨frame, now, message, method, upstream, -, -, -, -, -, -, hmade⟩
    · exact h.submissions id submission hbefore
    · by_cases hmethod : method = "mining.submit"
      · obtain ⟨made, heq, hsubmits⟩ := hmade.submit hmethod
        cases heq
        exact h.config.advancedByWallClock hsubmits.lease
      · exact absurd rfl (hmade.other hmethod submission)

/-- What a call hands over to be recorded was granted. -/
theorem SessionGranted.actions {actions : List StratumProxyAction}
    (h : SessionGranted drawn db session)
    (heffect : session.Effect deps call after (.ok actions)) :
    ActionsGranted drawn db actions := by
  intro token event context workerResponse hmem
  cases heffect with
  | persists hread hmethod hid hrequest htrue hevent =>
      obtain ⟨header, hmade⟩ := acceptedEvent_eq_ok hevent
      simp only [List.mem_singleton, StratumProxyAction.persistAccepted.injEq] at hmem
      obtain ⟨rfl, rfl, rfl, rfl⟩ := hmem
      rw [hmade.workSessionId]
      exact h.submissions _ _ hrequest
  | _ => simp at hmem

/-- A call that has to succeed keeps everything granted, unless it renews. -/
theorem SessionGranted.succeeds {actions : List StratumProxyAction}
    (h : SessionGranted drawn db session)
    (hcall : session.call deps call = some (after, actions))
    (hrenew : ∀ renewed, call ≠ .renew renewed) : SessionGranted drawn db after := by
  have heffect := StratumSession.effect_of_step deps session call
  simp only [StratumSession.call] at hcall
  split at hcall
  · next reached asked hstep =>
      cases hcall
      rw [hstep] at heffect
      exact h.step heffect fun renewed hrenewed => absurd hrenewed (hrenew renewed)
  · cases hcall

/-- A configuration made of a registration carries its window. -/
theorem configured_eq_ok {authenticated : AuthenticatedStratumSession} {username secret : String}
    {now : ℕ} {admitted config : StratumSessionConfig}
    {maybeUpstream : Option StratumUpstreamAuthorization}
    (hadmitted : authenticated.intoSessionConfig username secret now = .ok admitted)
    (hconfig : admitted.withUpstreamAuthorization maybeUpstream = .ok config) :
    config.sessionId = authenticated.sessionId ∧
      config.leaseContext = authenticated.leaseContext := by
  simp only [AuthenticatedStratumSession.intoSessionConfig] at hadmitted
  obtain ⟨-, hadmitted⟩ := guard_eq_ok hadmitted
  cases hadmitted
  cases maybeUpstream with
  | none =>
      cases hconfig
      exact ⟨rfl, rfl⟩
  | some authorization =>
      simp only [StratumSessionConfig.withUpstreamAuthorization, bind_eq_ok, pure_eq_ok] at hconfig
      obtain ⟨_, -, rfl⟩ := hconfig
      exact ⟨rfl, rfl⟩

/-- A connection is established under the registration it read. -/
theorem SessionGranted.of_establish {admission : Admission}
    {authenticated : AuthenticatedStratumSession}
    {maybeUpstream : Option StratumUpstreamAuthorization}
    (hread : Granted drawn db (authenticated.leaseContext.window authenticated.sessionId))
    (h : StratumSession.establish deps admission authenticated maybeUpstream = some session) :
    SessionGranted drawn db session := by
  simp only [StratumSession.establish, bind, Option.bind_eq_some_iff] at h
  obtain ⟨admitted, hadmitted, config, hconfig, h⟩ := h
  obtain ⟨hsession, hcontext⟩ := configured_eq_ok (toOption_eq_some.mp hadmitted)
    (toOption_eq_some.mp hconfig)
  rw [← hcontext, ← hsession] at hread
  have hstart : SessionGranted drawn db (.start config) := .start hread
  split at h
  · cases h
  · simp only [Option.bind_eq_some_iff, Prod.exists] at h
    obtain ⟨reserved, -, subscribing, _, hsubscribe, answered, actions, hanswered, h⟩ := h
    have hanswer := (hstart.succeeds hsubscribe nofun).succeeds hanswered nofun
    split at h
    · split at h
      · cases h
      · simp only [Option.bind_eq_some_iff, Prod.exists] at h
        obtain ⟨subscribed, _, hsubscribed, authorizing, forwarded, hauthorize, h⟩ := h
        have hauthorizing := (hanswer.succeeds hsubscribed nofun).succeeds hauthorize nofun
        split at h
        · cases h
          exact hauthorizing
        · cases h
    · cases h

end

/-! ## Registrations -/

/-- Every registration of the registry was granted. -/
abbrev RegistrationsGranted (drawn : List String) (db : AuthorityDatabase)
    (registry : StratumRegistry) : Prop :=
  registry.sessions.All fun sessionId row => Granted drawn db (row.window sessionId)

section

variable {drawn : List String} {db : AuthorityDatabase} {deps : Dependencies}
  {secretVerifier : String → String} {registry : StratumRegistry}

/-- Calls that register and extend nothing leave the registrations alone. -/
theorem registrationsGranted_step (h : RegistrationsGranted drawn db registry)
    {request : RegistryRequest} (htarget : StratumRegistry.target request = none) :
    RegistrationsGranted drawn db (registryStep deps secretVerifier registry request).1 := by
  intro sessionId row hrow
  rw [StratumRegistry.step_other (by simp [htarget])] at hrow
  exact h sessionId row hrow

theorem proposedRow_window {credentials : StratumSessionCredentials} {row : StratumSessionRow}
    (h : StratumRegistry.proposedRow secretVerifier credentials = .ok row)
    (hcanonical : castUuid credentials.leaseContext.leaseId =
      some credentials.leaseContext.leaseId) :
    row.window credentials.sessionId = credentials.leaseContext.window credentials.sessionId := by
  simp only [StratumRegistry.proposedRow, bind_eq_ok, hcanonical] at h
  obtain ⟨_, -, _, -, _, -, _, -, _, -, _, -, h⟩ := h
  obtain ⟨-, h⟩ := guard_eq_ok h
  cases h
  rfl

variable (deps secretVerifier) in
/-- Registering a granted window. -/
theorem registrationsGranted_register (h : RegistrationsGranted drawn db registry)
    {credentials : StratumSessionCredentials}
    (hgranted : Granted drawn db (credentials.leaseContext.window credentials.sessionId))
    (hcanonical : castUuid credentials.leaseContext.leaseId =
      some credentials.leaseContext.leaseId) :
    RegistrationsGranted drawn db
      (registryStep deps secretVerifier registry (.register credentials)).1 := by
  have heffect := StratumRegistry.Effect.of_step deps secretVerifier registry
    (.register credentials)
  generalize (registryStep deps secretVerifier registry (.register credentials)).1 = after
    at heffect ⊢
  generalize (registryStep deps secretVerifier registry (.register credentials)).2 = reply
    at heffect
  cases heffect with
  | keeps _ hregister => exact absurd rfl (hregister credentials)
  | refuses => exact h
  | registers _ hproposed _ hsessions =>
      intro sessionId row hrow
      rw [hsessions] at hrow
      split at hrow
      · next heq =>
          cases hrow
          rw [heq, proposedRow_window hproposed hcanonical]
          exact hgranted
      · exact h sessionId row hrow

theorem boundLease_canonical {extension : StratumSessionExtension} {now : ℕ} {leaseUuid : String}
    (h : StratumRegistry.boundLease extension now = .ok leaseUuid)
    (hcanonical : castUuid extension.leaseContext.leaseId =
      some extension.leaseContext.leaseId) : leaseUuid = extension.leaseContext.leaseId := by
  simp only [StratumRegistry.boundLease, bind_eq_ok, hcanonical] at h
  obtain ⟨_, -, _, -, _, -, _, -, _, -, _, -, h⟩ := h
  split at h
  · cases h
    rfl
  · cases h

variable (deps secretVerifier) in
/-- Extending a registration by a granted window. -/
theorem registrationsGranted_extend (h : RegistrationsGranted drawn db registry)
    {extension : StratumSessionExtension} (now : ℕ)
    (hgranted : Granted drawn db (extension.leaseContext.window extension.sessionId))
    (hcanonical : castUuid extension.leaseContext.leaseId =
      some extension.leaseContext.leaseId) :
    RegistrationsGranted drawn db
      (registryStep deps secretVerifier registry (.extend extension now)).1 := by
  have heffect := StratumRegistry.Effect.of_step deps secretVerifier registry
    (.extend extension now)
  generalize (registryStep deps secretVerifier registry (.extend extension now)).1 = after
    at heffect ⊢
  generalize (registryStep deps secretVerifier registry (.extend extension now)).2 = reply
    at heffect
  cases heffect with
  | keeps _ _ hextend => exact absurd rfl (hextend extension now)
  | refuses => exact h
  | movesOn _ _ hbound hrow hextended hsessions =>
      rw [boundLease_canonical hbound hcanonical] at hextended
      obtain ⟨hlease, hboot, -⟩ := StratumRegistry.isExtendedBy_eq_true hextended
      intro sessionId row hfound
      rw [hsessions, Rows.lookup_updateRow_eq] at hfound
      split at hfound
      · next heq =>
          subst heq
          rw [hrow] at hfound
          cases hfound
          rw [StratumSessionRow.window]
          simp only [StratumRegistry.extendedRow, hlease, hboot]
          exact hgranted
      · exact h sessionId row hfound

/-- What a connection reads of a granted registration was granted. -/
theorem granted_of_authenticate (h : RegistrationsGranted drawn db registry)
    {username secret : String} {now : ℕ} {authenticated : AuthenticatedStratumSession}
    (hread : registry.authenticate deps secretVerifier username secret now =
      .ok (some authenticated)) :
    Granted drawn db (authenticated.leaseContext.window authenticated.sessionId) := by
  simp only [StratumRegistry.authenticate] at hread
  split at hread
  · cases hread
  · next sessionId row hfound =>
      split at hread
      · cases hread
      · simp only [bind_eq_ok, pure_eq_ok, Option.some.injEq] at hread
        obtain ⟨context, hcontext, rfl⟩ := hread
        have hrow := Rows.mem_entries_iff.mp (List.mem_of_find?_eq_some hfound)
        have hgranted := h sessionId row hrow
        simp only [StratumLeaseContext.new] at hcontext
        split at hcontext
        · cases hcontext
        · split at hcontext
          · cases hcontext
            exact hgranted
          · cases hcontext

end

/-! ## Recorded shares -/

/-- Every recorded share was accepted under a window that was granted. -/
abbrev RecordedGranted (drawn : List String) (db : AuthorityDatabase)
    (outbox : AcceptedWorkOutbox) : Prop :=
  outbox.All fun _ row => Granted drawn db (row.leaseContext.window row.event.workSessionId)

section

variable {drawn : List String} {db : AuthorityDatabase} {deps : Dependencies}
  {outbox : AcceptedWorkOutbox} {system : DeliverySystem}

/-- Recording a share accepted under a granted window. -/
theorem recordedGranted_persist (h : RecordedGranted drawn db outbox) {event : AcceptedWorkEvent}
    {context : StratumLeaseContext} {workerResponse : String}
    (hgranted : Granted drawn db (context.window event.workSessionId))
    (hcanonical : castUuid context.leaseId = some context.leaseId) :
    RecordedGranted drawn db
      (AcceptedWorkOutbox.step deps outbox (.persist event context workerResponse)).1 := by
  simp only [AcceptedWorkOutbox.step, AcceptedWorkOutbox.answer, AcceptedWorkOutbox.persist]
  split
  · exact h
  · split
    · exact h
    · next inserted hinserted =>
        split
        · exact h
        · rcases AcceptedWorkOutbox.insertNew_eq_ok hinserted with
            ⟨-, rfl⟩ | ⟨-, leaseUuid, huuid, rfl⟩
          · exact h
          · rw [hcanonical, Option.some.injEq] at huuid
            subst huuid
            exact h.insert hgranted

/-- The other calls rewrite delivery columns only. -/
theorem recordedGranted_step (h : RecordedGranted drawn db outbox) {request : OutboxRequest}
    (hpersist : ∀ event context workerResponse, request ≠ .persist event context workerResponse) :
    RecordedGranted drawn db (AcceptedWorkOutbox.step deps outbox request).1 := by
  have heffect := AcceptedWorkOutbox.effect_of_step deps outbox request
  generalize (AcceptedWorkOutbox.step deps outbox request).1 = after at heffect ⊢
  generalize (AcceptedWorkOutbox.step deps outbox request).2 = reply at heffect
  cases heffect with
  | fails => exact h
  | idle => exact h
  | replays => exact h
  | inserts => exact absurd rfl (hpersist _ _ _)
  | claims => exact h.updateRow fun _ hrow => hrow
  | releases => exact h.updateRow fun _ hrow => hrow

variable (deps) in
/-- What others than connections and calls do records no share. -/
theorem recordedGranted_delivery (h : RecordedGranted drawn db system.outbox)
    {request : DeliveryRequest} (hforeign : request.isForeign = true) :
    RecordedGranted drawn db (system.step deps request).1.outbox := by
  cases request with
  | persist => cases hforeign
  | claim process worker now locked =>
      simp only [DeliverySystem.step, DeliverySystem.claim]
      split
      · exact h
      · split
        · exact h
        · refine recordedGranted_step h ?_
          intro event context workerResponse hpersists
          cases hpersists
  | deliver process now passUuid lost =>
      simp only [DeliverySystem.step, DeliverySystem.deliver]
      repeat' split
      all_goals exact h
  | settle process =>
      simp only [DeliverySystem.step, DeliverySystem.settle]
      split
      · split
        · exact h
        · next claimed startedAt answer _ _ call hcall =>
            refine recordedGranted_step h ?_
            rintro event context workerResponse rfl
            cases answer with
            | accepted => cases hcall
            | refused => cases hcall
            | unavailable =>
                simp only [DeliverySystem.settlement] at hcall
                split at hcall
                · cases hcall
                · cases hcall
      · exact h
  | crash process => exact h
  | authority request => exact h

/-- A process works on a share that is recorded. -/
theorem granted_of_stage {request : DeliveryRequest}
    (h : RecordedGranted drawn db (system.step deps request).1.outbox)
    (hreadable : AcceptedWorkOutbox.Readable deps system.outbox)
    (hprocesses : system.processes.All fun _ stage =>
      Granted drawn db (stage.claim.leaseContext.window stage.claim.event.workSessionId)) :
    (system.step deps request).1.processes.All fun _ stage =>
      Granted drawn db (stage.claim.leaseContext.window stage.claim.event.workSessionId) := by
  intro process stage hstage
  rcases DeliverySystem.stage_of_step hreadable hstage with
    ⟨old, hold, hsame⟩ | ⟨row, hrow, hstored⟩
  · rw [← hsame]
    exact hprocesses process old hold
  · have hgranted := h _ row hrow
    rw [AcceptedWorkRow.stored, PersistedAcceptedWork.mk.injEq] at hstored
    rw [hstored.1, hstored.2.1] at hgranted
    exact hgranted

variable (deps) in
/-- Nothing a delivery or another transaction does grants a lease. -/
theorem keepsLeases_delivery {request : DeliveryRequest} (hforeign : request.isForeign = true) :
    system.authority.KeepsLeases (system.step deps request).1.authority := by
  cases request with
  | persist => exact .refl
  | claim process worker now locked =>
      simp only [DeliverySystem.step, DeliverySystem.claim]
      repeat' split
      all_goals exact .refl
  | deliver process now passUuid lost =>
      simp only [DeliverySystem.step, DeliverySystem.deliver]
      split
      · split
        · exact .refl
        · exact AuthorityDatabase.keepsLeases_step rfl
      · exact .refl
  | settle process =>
      simp only [DeliverySystem.step, DeliverySystem.settle]
      repeat' split
      all_goals exact .refl
  | crash process => exact .refl
  | authority request =>
      exact AuthorityDatabase.keepsLeases_step (by simpa [DeliveryRequest.isForeign] using hforeign)

end

end WorkGate
