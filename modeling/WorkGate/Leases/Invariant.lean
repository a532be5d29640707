/-
# Leases go on and windows stay inside

One invariant for the whole system: the leases the Authority holds were drawn, end one lease
duration after the reading they were last renewed at, and everything the components remember
of them was granted.  Only two events touch a lease; whatever else happens copies windows
from one place to another, or cuts their beginning off.
-/

import WorkGate.Leases.Windows

namespace WorkGate

open WorkGate.Library
open AuthorityDatabase (startedLease renewedLease)

/-- A lease under a drawn name, that ends one duration after its last reading. -/
structure DrawnLease (drawn : List String) (lease : LeaseColumns) : Prop where
  leaseId : ∃ leaseId ∈ drawn, lease.leaseId = some leaseId
  readings : ∃ startedAt last, lease.startedAt = some startedAt ∧ lease.last = some last ∧
    startedAt ≤ last ∧ lease.expiresAt = some (last + workLeaseMaxDurationSeconds * 1000)

/-- Everything the system remembers of leases was granted. -/
structure SystemGranted (drawn : List String) (db : AuthorityDatabase) (system : LeaseSystem) :
    Prop where
  calls : system.calls.All fun _ call => Granted drawn db call.window
  registrations : RegistrationsGranted drawn db system.registry
  reads : system.reads.All fun _ read =>
    Granted drawn db (read.authenticated.leaseContext.window read.authenticated.sessionId)
  connections : system.connections.All fun _ connection =>
    SessionGranted drawn db connection.session ∧ ActionsGranted drawn db connection.actions
  recorded : RecordedGranted drawn db system.delivery.outbox
  deliveries : system.delivery.processes.All fun _ stage =>
    Granted drawn db (stage.claim.leaseContext.window stage.claim.event.workSessionId)

/-- The invariant, for the lease names drawn so far. -/
structure LeaseInvariant (deps : Dependencies) (drawn : List String) (system : LeaseSystem) :
    Prop where
  canonical : ∀ leaseId ∈ drawn, castUuid leaseId = some leaseId
  readable : AcceptedWorkOutbox.Readable deps system.delivery.outbox
  leases : ∀ sessionId lease, system.delivery.authority.maybeLease sessionId = some lease →
    DrawnLease drawn lease
  granted : SystemGranted drawn system.delivery.authority system

section

variable {drawn more : List String} {db after : AuthorityDatabase} {system : LeaseSystem}
  {deps : Dependencies} {issuer : StratumCredentialIssuer} {secretVerifier : String → String}

theorem DrawnLease.mono {lease : LeaseColumns} (h : DrawnLease drawn lease)
    (hmore : ∀ leaseId ∈ drawn, leaseId ∈ more) : DrawnLease more lease := by
  obtain ⟨leaseId, hdrawn, hname⟩ := h.leaseId
  exact ⟨⟨leaseId, hmore leaseId hdrawn, hname⟩, h.readings⟩

theorem SystemGranted.goesOn (h : SystemGranted drawn db system) (hon : LeasesGoOn drawn db after)
    (hmore : ∀ leaseId ∈ drawn, leaseId ∈ more) : SystemGranted more after system where
  calls := h.calls.imp fun _ _ hcall => hcall.goesOn hon hmore
  registrations := h.registrations.imp fun _ _ hrow => hrow.goesOn hon hmore
  reads := h.reads.imp fun _ _ hread => hread.goesOn hon hmore
  connections := by
    refine h.connections.imp ?_
    intro connectionId connection hconnection
    refine ⟨⟨hconnection.1.config.goesOn hon hmore, ?_⟩, ?_⟩
    · intro id submission hlookup
      exact (hconnection.1.submissions id submission hlookup).goesOn hon hmore
    · intro token event context workerResponse hmem
      exact (hconnection.2 token event context workerResponse hmem).goesOn hon hmore
  recorded := h.recorded.imp fun _ _ hrow => hrow.goesOn hon hmore
  deliveries := h.deliveries.imp fun _ _ hstage => hstage.goesOn hon hmore

/-! ## The two events that touch a lease -/

theorem leaseDeadlines_eq_ok {clock : WorkerClock} {renewAt expiresAt : ℕ}
    (h : leaseDeadlines clock = .ok (renewAt, expiresAt)) :
    expiresAt = clock.monotonicMilliseconds + workLeaseMaxDurationSeconds * 1000 := by
  simp only [leaseDeadlines, bind_eq_ok, pure_eq_ok, Prod.mk.injEq] at h
  obtain ⟨_, -, deadline, hdeadline, -, rfl⟩ := h
  simp only [monotonicDeadline] at hdeadline
  split at hdeadline
  · cases hdeadline
    rfl
  · cases hdeadline

/-- A lease lasts. -/
theorem lt_leaseEnd (clock : WorkerClock) :
    clock.monotonicMilliseconds <
      clock.monotonicMilliseconds + workLeaseMaxDurationSeconds * 1000 := by
  rw [workLeaseMaxDurationSeconds]
  omega

/-- Starting a lease under a new name leaves every lease of an old name alone. -/
theorem leasesGoOn_started {sessionId : WorkSessionId} {leaseId : String} {clock : WorkerClock}
    {expiresAt : ℕ} (hfresh : leaseId ∉ drawn)
    (h : db.SetsLease after sessionId (startedLease leaseId clock expiresAt)) :
    LeasesGoOn drawn db after := by
  intro other lease name hlease hname hdrawn
  by_cases heq : other = sessionId
  · subst heq
    rw [h.leased] at hlease
    cases hlease
    cases hname
    exact absurd hdrawn hfresh
  · exact ⟨lease, h.others other heq lease hlease, rfl, rfl, rfl,
      fun earlier hend => ⟨earlier, hend, le_refl _⟩⟩

/-- Renewing a lease moves its end on. -/
theorem leasesGoOn_renewed {sessionId : WorkSessionId} {old : LeaseColumns} {clock : WorkerClock}
    {expiresAt : ℕ} (hold : db.maybeLease sessionId = some old)
    (hlater : ∀ earlier, old.expiresAt = some earlier → earlier ≤ expiresAt)
    (h : db.SetsLease after sessionId (renewedLease old clock expiresAt)) :
    LeasesGoOn drawn db after := by
  intro other lease name hlease hname hdrawn
  by_cases heq : other = sessionId
  · subst heq
    rw [h.leased] at hlease
    cases hlease
    exact ⟨old, hold, rfl, rfl, rfl, fun earlier hend => ⟨expiresAt, rfl, hlater earlier hend⟩⟩
  · exact ⟨lease, h.others other heq lease hlease, rfl, rfl, rfl,
      fun earlier hend => ⟨earlier, hend, le_refl _⟩⟩

namespace LeaseInvariant

/-- The Authority moves on, and its leases with it. -/
theorem goesOn (h : LeaseInvariant deps drawn system)
    (hon : LeasesGoOn drawn system.delivery.authority after)
    (hmore : ∀ leaseId ∈ drawn, leaseId ∈ more)
    (hcanonical : ∀ leaseId ∈ more, castUuid leaseId = some leaseId)
    (hleases : ∀ sessionId lease, after.maybeLease sessionId = some lease →
      DrawnLease more lease) : LeaseInvariant deps more (system.withAuthority after) := by
  have hgranted := h.granted.goesOn hon hmore
  exact {
    canonical := hcanonical
    readable := h.readable
    leases := hleases
    granted := {
      calls := hgranted.calls
      registrations := hgranted.registrations
      reads := hgranted.reads
      connections := hgranted.connections
      recorded := hgranted.recorded
      deliveries := hgranted.deliveries } }

theorem keepsLeases (h : LeaseInvariant deps drawn system)
    (hkeeps : system.delivery.authority.KeepsLeases after) :
    LeaseInvariant deps drawn (system.withAuthority after) :=
  h.goesOn (.of_keepsLeases hkeeps) (fun _ hdrawn => hdrawn) h.canonical
    fun sessionId lease hlease => h.leases sessionId lease (hkeeps sessionId lease hlease)

/-- A name more is drawn. -/
theorem draw (h : LeaseInvariant deps drawn system) {leaseId : String}
    (hcanonical : castUuid leaseId = some leaseId) :
    LeaseInvariant deps (leaseId :: drawn) system :=
  h.goesOn (.of_keepsLeases .refl) (fun _ hdrawn => List.mem_cons_of_mem _ hdrawn)
    (List.forall_mem_cons.mpr ⟨hcanonical, h.canonical⟩)
    fun sessionId lease hlease =>
      (h.leases sessionId lease hlease).mono fun _ hdrawn => List.mem_cons_of_mem _ hdrawn

theorem advance (h : LeaseInvariant deps drawn system) {callId : ℕ} {call : LeaseCall}
    (hcall : Granted drawn system.delivery.authority call.window) :
    LeaseInvariant deps drawn (system.advance callId call).1 :=
  { h with granted := { h.granted with calls := h.granted.calls.insert hcall } }

/-- A call is over. -/
theorem abandon (h : LeaseInvariant deps drawn system) (callId : ℕ) :
    LeaseInvariant deps drawn { system with calls := system.calls.erase callId } :=
  { h with granted := { h.granted with calls := h.granted.calls.erase callId } }

theorem answers (h : LeaseInvariant deps drawn system) (callId : ℕ)
    (answer : Except AuthorityApplicationError WorkLease) :
    LeaseInvariant deps drawn (system.answers callId answer).1 :=
  h.abandon callId

/-- A lease is started under a new name. -/
theorem startWork (h : LeaseInvariant deps drawn system) {leaseId : String}
    (hcanonical : castUuid leaseId = some leaseId) (hfresh : leaseId ∉ drawn) (callId : ℕ)
    (challengeId : ChallengeId) (sessionId : WorkSessionId) (clock : WorkerClock)
    (maybeTrustedConsent : Option TrustedConsentLeaseAdmission) (now : ℕ) :
    LeaseInvariant deps (leaseId :: drawn) (system.startWork callId challengeId sessionId clock
      maybeTrustedConsent leaseId now).1 := by
  unfold LeaseSystem.startWork
  cases hdeadlines : leaseDeadlines clock with
  | error error => exact h.draw hcanonical
  | ok deadlines =>
      obtain ⟨renewAt, expiresAt⟩ := deadlines
      obtain rfl := leaseDeadlines_eq_ok hdeadlines
      simp only [LeaseSystem.afterLease]
      rcases AuthorityDatabase.startWorkLease_cases system.delivery.authority ⟨sessionId,
          maybeTrustedConsent, clock, leaseId, renewAt, _, now⟩ with
        ⟨hkeeps, error, herror⟩ | ⟨written, huuid, hreply, hsets⟩
      · rw [herror]
        exact (h.keepsLeases hkeeps).draw hcanonical
      · rw [hreply]
        rw [hcanonical, Option.some.injEq] at huuid
        subst huuid
        refine advance (h.goesOn (leasesGoOn_started hfresh hsets)
          (fun _ hdrawn => List.mem_cons_of_mem _ hdrawn)
          (List.forall_mem_cons.mpr ⟨hcanonical, h.canonical⟩) ?_) ?_
        · intro other lease hlease
          by_cases heq : other = sessionId
          · subst heq
            rw [hsets.leased] at hlease
            cases hlease
            exact ⟨⟨leaseId, List.mem_cons_self, rfl⟩, _, _, rfl, rfl, le_refl _, rfl⟩
          · exact (h.leases other lease (hsets.others other heq lease hlease)).mono
              fun _ hdrawn => List.mem_cons_of_mem _ hdrawn
        · refine ⟨List.mem_cons_self, clock.valid, lt_leaseEnd clock, ?_⟩
          intro lease hlease _
          rw [LeaseCall.window, LeaseSystem.withAuthority, hsets.leased] at hlease
          cases hlease
          exact ⟨rfl, ⟨_, rfl, le_refl _⟩, ⟨_, rfl, le_refl _⟩⟩

/-- A lease is renewed: what is renewed was granted, and ends later now. -/
theorem renewWork (h : LeaseInvariant deps drawn system) (callId : ℕ) (challengeId : ChallengeId)
    (sessionId : WorkSessionId) (leaseId : String) (clock : WorkerClock) (now : ℕ) :
    LeaseInvariant deps drawn
      (system.renewWork callId challengeId sessionId leaseId clock now).1 := by
  unfold LeaseSystem.renewWork
  cases hdeadlines : leaseDeadlines clock with
  | error error => exact h
  | ok deadlines =>
      obtain ⟨renewAt, expiresAt⟩ := deadlines
      obtain rfl := leaseDeadlines_eq_ok hdeadlines
      simp only [LeaseSystem.afterLease]
      rcases AuthorityDatabase.renewWorkLease_cases system.delivery.authority ⟨sessionId, leaseId,
          clock, renewAt, _, now⟩ with
        ⟨hkeeps, error, herror⟩ |
          ⟨old, last, hold, hname, hboot, hlast, hreading, hreply, hsets⟩
      · rw [herror]
        exact h.keepsLeases hkeeps
      · rw [hreply]
        obtain ⟨⟨name, hdrawn, hnamed⟩, startedAt, read, hstarted, hread, hordered, hends⟩ :=
          h.leases sessionId old hold
        rw [hname, Option.some.injEq] at hnamed
        subst hnamed
        rw [hlast, Option.some.injEq] at hread
        subst hread
        refine advance (h.goesOn (leasesGoOn_renewed hold ?_ hsets) (fun _ hdrawn => hdrawn)
          h.canonical ?_) ?_
        · intro earlier hearlier
          rw [hends, Option.some.injEq] at hearlier
          subst hearlier
          exact Nat.add_le_add_right hreading _
        · intro other lease hlease
          by_cases heq : other = sessionId
          · subst heq
            rw [hsets.leased] at hlease
            cases hlease
            exact ⟨⟨leaseId, hdrawn, hname⟩, startedAt, _, hstarted, rfl,
              hordered.trans hreading, rfl⟩
          · exact h.leases other lease (hsets.others other heq lease hlease)
        · refine ⟨hdrawn, clock.valid, lt_leaseEnd clock, ?_⟩
          intro lease hlease _
          rw [LeaseCall.window, LeaseSystem.withAuthority, hsets.leased] at hlease
          cases hlease
          exact ⟨hboot, ⟨startedAt, hstarted, hordered.trans hreading⟩, ⟨_, rfl, le_refl _⟩⟩

/-! ## Calls -/

theorem stratumRequest_eq_ok {call : LeaseCall} {request : WorkerStratumRequest}
    (h : call.stratumRequest db = .ok request) :
    request.sessionId = call.sessionId ∧ request.lease = call.lease ∧
      request.clock = call.clock := by
  simp only [LeaseCall.stratumRequest] at h
  split at h
  · cases h
  · split at h
    · cases h
    · cases h
      exact ⟨rfl, rfl, rfl⟩

theorem leaseContext_eq_ok {request : WorkerStratumRequest} {context : StratumLeaseContext}
    (h : request.leaseContext deps = .ok context) :
    context.leaseId = request.lease.leaseId ∧ context.continuityId = request.clock.continuityId ∧
      context.lastMonotonicMilliseconds = request.clock.monotonicMilliseconds ∧
      context.expiresAtMonotonicMilliseconds = request.lease.expiresAtMonotonicMilliseconds := by
  simp only [WorkerStratumRequest.leaseContext, StratumLeaseContext.new] at h
  split at h
  · cases h
  · split at h
    · cases h
      exact ⟨rfl, rfl, rfl, rfl⟩
    · cases h

/-- What a call registers is its own window. -/
theorem window_credentials {call : LeaseCall} {request : WorkerStratumRequest}
    {credentials : StratumSessionCredentials} (hrequest : call.stratumRequest db = .ok request)
    (h : request.credentials deps issuer = .ok credentials) :
    credentials.leaseContext.window credentials.sessionId = call.window := by
  simp only [WorkerStratumRequest.credentials, StratumCredentialIssuer.issueAtMilliseconds,
    bind_eq_ok, pure_eq_ok] at h
  obtain ⟨context, hcontext, _, -, rfl⟩ := h
  obtain ⟨hsession, hlease, hclock⟩ := stratumRequest_eq_ok hrequest
  obtain ⟨hname, hboot, hlast, hend⟩ := leaseContext_eq_ok hcontext
  simp only [StratumLeaseContext.window, LeaseCall.window, hname, hboot, hlast, hend, hsession,
    hlease, hclock]

theorem window_extension {call : LeaseCall} {request : WorkerStratumRequest}
    {extension : StratumSessionExtension} (hrequest : call.stratumRequest db = .ok request)
    (h : request.extension deps = .ok extension) :
    extension.leaseContext.window extension.sessionId = call.window := by
  simp only [WorkerStratumRequest.extension, StratumSessionExtension.new, bind_eq_ok,
    pure_eq_ok] at h
  obtain ⟨context, hcontext, _, -, rfl⟩ := h
  obtain ⟨hsession, hlease, hclock⟩ := stratumRequest_eq_ok hrequest
  obtain ⟨hname, hboot, hlast, hend⟩ := leaseContext_eq_ok hcontext
  simp only [StratumLeaseContext.window, LeaseCall.window, hname, hboot, hlast, hend, hsession,
    hlease, hclock]

/-- The registry takes another state, all of whose registrations were granted. -/
theorem withRegistry (h : LeaseInvariant deps drawn system) {registry : StratumRegistry}
    (hregistry : RegistrationsGranted drawn system.delivery.authority registry) :
    LeaseInvariant deps drawn { system with registry := registry } :=
  { h with granted := { h.granted with registrations := hregistry } }

theorem issue (h : LeaseInvariant deps drawn system) {callId : ℕ} {call : LeaseCall}
    (hcall : Granted drawn system.delivery.authority call.window)
    (maybeFailure : Option AuthorityApplicationError) :
    LeaseInvariant deps drawn
      (system.issue deps issuer secretVerifier callId call maybeFailure).1 := by
  unfold LeaseSystem.issue
  split
  · exact h.advance hcall
  · next request hrequest =>
      split
      · exact h.advance hcall
      · next credentials hcredentials =>
          have hwindow := window_credentials hrequest hcredentials
          rw [← hwindow] at hcall
          have hwritten := h.withRegistry (registrationsGranted_register deps secretVerifier
            h.granted.registrations hcall (h.canonical _ hcall.drawn))
          rw [hwindow] at hcall
          simp only
          split
          · exact hwritten.answers callId _
          · exact hwritten.advance hcall
          · exact hwritten.advance hcall

theorem extend (h : LeaseInvariant deps drawn system) {callId : ℕ} {call : LeaseCall}
    (hcall : Granted drawn system.delivery.authority call.window)
    (maybeFailure : Option AuthorityApplicationError) :
    LeaseInvariant deps drawn
      (system.extend deps secretVerifier callId call maybeFailure).1 := by
  unfold LeaseSystem.extend
  split
  · exact h.answers callId _
  · next request hrequest =>
      split
      · exact h.answers callId _
      · next extension hextension =>
          rw [← window_extension hrequest hextension] at hcall
          have hwritten := h.withRegistry (registrationsGranted_extend deps secretVerifier
            h.granted.registrations (request.nowUnixMilliseconds / 1000) hcall
            (h.canonical _ hcall.drawn))
          simp only
          split
          · exact hwritten.answers callId _
          · exact hwritten.answers callId _
          · exact hwritten.answers callId _

theorem proceed (h : LeaseInvariant deps drawn system) {callId : ℕ} {call : LeaseCall}
    (hcall : system.calls.lookup callId = some call)
    (maybeFailure : Option AuthorityApplicationError) :
    LeaseInvariant deps drawn
      (system.proceed deps issuer secretVerifier callId call maybeFailure).1 := by
  have hgranted := h.granted.calls callId call hcall
  unfold LeaseSystem.proceed
  split
  · exact h.issue hgranted maybeFailure
  · exact h.extend hgranted maybeFailure
  · have hkeeps : system.delivery.authority.KeepsLeases
        (system.delivery.authority.interruptWorkSession call.sessionId
          .transportDisconnected).1 :=
      AuthorityDatabase.keepsLeases_applyToSession (by simp [AuthorityDatabase.stoppedSession])
    have hwritten := h.keepsLeases hkeeps
    simp only
    split
    · exact hwritten.advance (hgranted.goesOn (.of_keepsLeases hkeeps) fun _ hdrawn => hdrawn)
    · exact hwritten.answers callId _
  · have hkeeps : system.delivery.authority.KeepsLeases
        (system.delivery.authority.confirmWorkSessionRestored call.sessionId).1 :=
      AuthorityDatabase.keepsLeases_applyToSession (by simp)
    exact (h.keepsLeases hkeeps).answers callId _

/-! ## Connections -/

theorem disconnect (h : LeaseInvariant deps drawn system) (connectionId : String) :
    LeaseInvariant deps drawn
      { system with connections := system.connections.erase connectionId } :=
  { h with granted := { h.granted with
      connections := h.granted.connections.erase connectionId } }

/-- A connection goes on with a session and actions that were granted. -/
theorem connect (h : LeaseInvariant deps drawn system) {connectionId : String}
    {connection : ProxyConnection}
    (hsession : SessionGranted drawn system.delivery.authority connection.session)
    (hactions : ActionsGranted drawn system.delivery.authority connection.actions) :
    LeaseInvariant deps drawn
      { system with connections := system.connections.insert connectionId connection } :=
  { h with granted := { h.granted with
      connections := h.granted.connections.insert ⟨hsession, hactions⟩ } }

theorem afterCall (h : LeaseInvariant deps drawn system) {connectionId : String}
    {session : StratumSession} {actions : List StratumProxyAction} {reply : StratumReply}
    (hsession : SessionGranted drawn system.delivery.authority session)
    (hactions : ActionsGranted drawn system.delivery.authority actions)
    (hasked : ∀ asked, reply = .ok asked →
      ActionsGranted drawn system.delivery.authority asked) :
    LeaseInvariant deps drawn (system.afterCall connectionId session actions reply).1 := by
  unfold LeaseSystem.afterCall
  split
  · exact h.disconnect connectionId
  · next asked =>
      refine h.connect hsession ?_
      intro token event context workerResponse hmem
      rcases List.mem_append.mp hmem with hqueued | hnew
      · exact hactions token event context workerResponse hqueued
      · exact hasked asked rfl token event context workerResponse hnew

theorem read (h : LeaseInvariant deps drawn system) {connectionId username secret : String}
    {now : ℕ} {use : AuthenticatedStratumSession → ConnectionRead}
    (huse : ∀ authenticated, (use authenticated).authenticated = authenticated) :
    LeaseInvariant deps drawn
      (system.read deps secretVerifier connectionId username secret now use) := by
  unfold LeaseSystem.read
  split
  · next authenticated hread =>
      have hgranted := granted_of_authenticate h.granted.registrations hread
      rw [← huse authenticated] at hgranted
      exact { h with granted := { h.granted with reads := h.granted.reads.insert hgranted } }
  · exact h
  · exact h.disconnect connectionId

/-- A read that was used is gone. -/
theorem used (h : LeaseInvariant deps drawn system) (connectionId : String) :
    LeaseInvariant deps drawn { system with reads := system.reads.erase connectionId } :=
  { h with granted := { h.granted with reads := h.granted.reads.erase connectionId } }

theorem establish (h : LeaseInvariant deps drawn system) {connectionId : String}
    {maybeUpstream : Option StratumUpstreamAuthorization} :
    LeaseInvariant deps drawn (system.establish deps connectionId maybeUpstream) := by
  unfold LeaseSystem.establish
  split
  · next admission authenticated hread =>
      have hgranted := h.granted.reads _ _ hread
      have hused := h.used connectionId
      simp only
      split
      · exact hused
      · split
        · exact hused
        · next session hsession =>
            exact hused.connect (.of_establish hgranted hsession) nofun
  · exact h

theorem callSession (h : LeaseInvariant deps drawn system) {connectionId : String}
    {call : StratumCall}
    (hrenew : ∀ renewed, call = .renew renewed →
      Granted drawn system.delivery.authority
        (renewed.leaseContext.window renewed.sessionId)) :
    LeaseInvariant deps drawn (system.callSession deps connectionId call).1 := by
  unfold LeaseSystem.callSession
  split
  · next session hconnection =>
      have hsession := (h.granted.connections _ _ hconnection).1
      have heffect := StratumSession.effect_of_step deps session call
      simp only
      refine h.afterCall (hsession.step heffect hrenew) nofun ?_
      intro asked hasked
      rw [hasked] at heffect
      exact hsession.actions heffect
  · exact h

theorem renew (h : LeaseInvariant deps drawn system) {connectionId : String} :
    LeaseInvariant deps drawn (system.renew deps connectionId).1 := by
  unfold LeaseSystem.renew
  split
  · next authenticated hread =>
      have hgranted := h.granted.reads _ _ hread
      refine (h.used connectionId).callSession ?_
      intro renewed hcall
      cases hcall
      exact hgranted
  · exact h

/-- The release of a token hands nothing over. -/
theorem release (h : LeaseInvariant deps drawn system) {connectionId : String}
    {session : StratumSession} {call : StratumCall} {actions : List StratumProxyAction}
    (hsession : SessionGranted drawn system.delivery.authority session)
    (hactions : ActionsGranted drawn system.delivery.authority actions)
    (hrenew : ∀ renewed, call ≠ .renew renewed) :
    LeaseInvariant deps drawn (system.afterCall connectionId (session.step deps call).1 actions
      ((session.step deps call).2.map fun _ => [])).1 := by
  have heffect := StratumSession.effect_of_step deps session call
  refine h.afterCall (hsession.step heffect ?_) hactions ?_
  · intro renewed hcall
    exact absurd hcall (hrenew renewed)
  · intro asked hasked
    obtain ⟨_, -, rfl⟩ := map_eq_ok.mp hasked
    exact nofun

theorem execute (h : LeaseInvariant deps drawn system) {connectionId : String} {now : ℕ} :
    LeaseInvariant deps drawn (system.execute deps secretVerifier connectionId now).1 := by
  unfold LeaseSystem.execute
  split
  · exact h
  · exact h
  · next session action actions hconnection =>
      obtain ⟨hsession, hqueued⟩ := h.granted.connections _ _ hconnection
      have hactions : ActionsGranted drawn system.delivery.authority actions :=
        fun token event context workerResponse hmem =>
          hqueued token event context workerResponse (List.mem_cons_of_mem _ hmem)
      simp only
      split
      · exact h.connect hsession hactions
      · exact h.connect hsession hactions
      · split
        · exact (h.withRegistry (registrationsGranted_step h.granted.registrations rfl)).release
            hsession hactions nofun
        · exact h.disconnect connectionId
      · next token event context workerResponse =>
          have hgranted := hqueued token event context workerResponse List.mem_cons_self
          have hrecorded : RecordedGranted drawn system.delivery.authority
              (system.delivery.step deps (.persist event context workerResponse)).1.outbox :=
            recordedGranted_persist h.granted.recorded hgranted (h.canonical _ hgranted.drawn)
          have hwritten : LeaseInvariant deps drawn { system with
              delivery := (system.delivery.step deps
                (.persist event context workerResponse)).1 } :=
            { h with
              readable := DeliverySystem.readable_of_step h.readable
              granted := { h.granted with recorded := hrecorded } }
          split
          · exact hwritten.release hsession hactions nofun
          · exact hwritten.disconnect connectionId

/-! ## Deliveries -/

theorem delivery (h : LeaseInvariant deps drawn system) {request : DeliveryRequest}
    (hforeign : request.isForeign = true) :
    LeaseInvariant deps drawn
      { system with delivery := (system.delivery.step deps request).1 } := by
  have hkeeps : system.delivery.authority.KeepsLeases
      (system.delivery.step deps request).1.authority := keepsLeases_delivery deps hforeign
  have hrecorded := recordedGranted_delivery deps h.granted.recorded hforeign
  have hdeliveries := granted_of_stage hrecorded h.readable h.granted.deliveries
  have hkept := h.keepsLeases hkeeps
  have hon : LeasesGoOn drawn _ _ := .of_keepsLeases hkeeps
  exact {
    canonical := h.canonical
    readable := DeliverySystem.readable_of_step h.readable
    leases := hkept.leases
    granted := { hkept.granted with
      recorded := hrecorded.imp fun _ _ hrow => hrow.goesOn hon fun _ hdrawn => hdrawn
      deliveries := hdeliveries.imp fun _ _ hstage => hstage.goesOn hon fun _ hdrawn => hdrawn } }

/-! ## Runs -/

/-- What one event does, all but the start of a lease. -/
theorem of_event (h : LeaseInvariant deps drawn system) (event : LeaseEvent)
    (hstart : ∀ callId challengeId sessionId clock maybeTrustedConsent leaseId now,
      event ≠ .startWork callId challengeId sessionId clock maybeTrustedConsent leaseId now)
    (hregistry : ∀ request, event = .registry request → StratumRegistry.target request = none)
    (hforeign : ∀ request, event = .delivery request → request.isForeign = true) :
    LeaseInvariant deps drawn (system.step deps issuer secretVerifier event).1 := by
  cases event with
  | startWork callId challengeId sessionId clock maybeTrustedConsent leaseId now =>
      exact absurd rfl (hstart callId challengeId sessionId clock maybeTrustedConsent leaseId now)
  | renewWork callId challengeId sessionId leaseId clock now =>
      exact h.renewWork callId challengeId sessionId leaseId clock now
  | proceed callId maybeFailure =>
      simp only [LeaseSystem.step]
      split
      · exact h
      · next call hcall => exact h.proceed hcall maybeFailure
  | abandon callId => exact h.abandon callId
  | registry request =>
      exact h.withRegistry (registrationsGranted_step h.granted.registrations
        (hregistry request rfl))
  | present connectionId subscribe subscribed authorize now =>
      simp only [LeaseSystem.step, LeaseSystem.present]
      split
      · exact h
      · exact h.read fun _ => rfl
  | establish connectionId maybeUpstream => exact h.establish
  | refresh connectionId now =>
      simp only [LeaseSystem.step, LeaseSystem.refresh]
      split
      · exact h
      · exact h.read fun _ => rfl
  | renew connectionId => exact h.renew
  | workerFrame connectionId frame now => exact h.callSession nofun
  | upstreamFrame connectionId frame now => exact h.callSession nofun
  | execute connectionId now => exact h.execute
  | disconnect connectionId => exact h.disconnect connectionId
  | delivery request => exact h.delivery (hforeign request rfl)

end LeaseInvariant

/-- The invariant along every run. -/
theorem leaseInvariant_of_run {history : List (LeaseEvent × LeaseReply)}
    (hrun : (leaseSystem deps issuer secretVerifier).Run history system) :
    LeaseInvariant deps (drawnLeases history) system := by
  refine Machine.Run.invariant
    (P := fun history system => LeaseInvariant deps (drawnLeases history) system) ?_ ?_ hrun
  · exact {
      canonical := nofun
      readable := Rows.All.empty
      leases := nofun
      granted := ⟨.empty, .empty, .empty, .empty, .empty, .empty⟩ }
  · intro history system event hadmits h
    rw [leaseSystem_step]
    cases event with
    | startWork callId challengeId sessionId clock maybeTrustedConsent leaseId now =>
        exact h.startWork hadmits.1 hadmits.2 callId challengeId sessionId clock
          maybeTrustedConsent now
    | registry request =>
        refine h.of_event _ (by simp) ?_ (by simp)
        intro asked heq
        cases heq
        exact hadmits
    | delivery request =>
        refine h.of_event _ (by simp) (by simp) ?_
        intro asked heq
        cases heq
        exact hadmits
    | _ => exact h.of_event _ (by simp) (by simp) (by simp)

end

end WorkGate
