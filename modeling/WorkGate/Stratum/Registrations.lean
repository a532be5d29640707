/-
# Registrations only move on

What a registration says can be replaced by something issued later, or repeated; what an
extension says can only lie further on in the same lease.  Everything else is refused and
changes nothing.
-/

import WorkGate.Stratum.Registry

namespace WorkGate

open WorkGate.Library

namespace StratumRegistry

variable {deps : Dependencies} {secretVerifier : String → String}

/-! ## What the guards say -/

theorem proposedRow_issuedAt {credentials : StratumSessionCredentials} {row : StratumSessionRow}
    (h : proposedRow secretVerifier credentials = .ok row) :
    row.issuedAtUnixMilliseconds = credentials.issuedAtUnixMilliseconds ∧
      row.username = credentials.username := by
  simp only [proposedRow, bind_eq_ok] at h
  obtain ⟨_, -, _, -, _, -, _, -, _, -, _, -, h⟩ := h
  split at h
  · cases h
  · obtain ⟨-, h⟩ := guard_eq_ok h
    cases h
    exact ⟨rfl, rfl⟩

/-- A registration replaces an older one, or repeats the one that stands. -/
theorem supersedes_eq_true {existing proposed : StratumSessionRow}
    (h : supersedes existing proposed = true) :
    existing.username = proposed.username ∧
      (existing.issuedAtUnixMilliseconds < proposed.issuedAtUnixMilliseconds ∨
        existing = proposed) := by
  simp only [supersedes, Bool.and_eq_true, Bool.or_eq_true, beq_iff_eq, decide_eq_true_eq] at h
  obtain ⟨husername, hlater | ⟨⟨⟨⟨⟨⟨⟨hissued, hsecret⟩, hexpires⟩, hlease⟩, hcontinuity⟩, hlast⟩,
    hrenew⟩, hleaseExpires⟩⟩ := h
  · exact ⟨husername, .inl hlater⟩
  · refine ⟨husername, .inr ?_⟩
    have hseconds : existing.issuedAtUnixSeconds = proposed.issuedAtUnixSeconds := by
      rw [← existing.secondsMatch, ← proposed.secondsMatch, hissued]
    cases existing
    cases proposed
    congr
    exact hissued.symm

theorem supersedes_self (row : StratumSessionRow) : supersedes row row = true := by
  simp [supersedes]

/-- An extension stays in its lease and moves its window on, or repeats it. -/
theorem isExtendedBy_eq_true {row : StratumSessionRow} {extension : StratumSessionExtension}
    {leaseUuid : String} {now : ℕ} (h : isExtendedBy row extension leaseUuid now = true) :
    row.leaseId = leaseUuid ∧ row.continuityId = extension.leaseContext.continuityId ∧
      (row.issuedAtUnixMilliseconds < extension.issuedAtUnixMilliseconds ∧
          now < row.expiresAtUnixSeconds ∧
          row.expiresAtUnixSeconds ≤ extension.expiresAtUnixSeconds ∧
          row.lastMonotonicMilliseconds ≤ extension.leaseContext.lastMonotonicMilliseconds ∧
          row.leaseExpiresAtMonotonicMilliseconds ≤
            extension.leaseContext.expiresAtMonotonicMilliseconds ∨
        extendedRow extension row = row) := by
  simp only [isExtendedBy, Bool.and_eq_true, Bool.or_eq_true, beq_iff_eq, decide_eq_true_eq] at h
  obtain ⟨⟨hlease, hcontinuity⟩, ⟨⟨⟨⟨hissued, hlive⟩, hexpires⟩, hlast⟩, hleaseExpires⟩ |
    ⟨⟨⟨⟨hissued, hexpires⟩, hlast⟩, hrenew⟩, hleaseExpires⟩⟩ := h
  · exact ⟨hlease, hcontinuity, .inl ⟨hissued, hlive, hexpires, hlast, hleaseExpires⟩⟩
  · refine ⟨hlease, hcontinuity, .inr ?_⟩
    simp only [extendedRow, ← hexpires, ← hlast, ← hrenew, ← hleaseExpires, ← hissued,
      row.secondsMatch]

/-- An extended row is extended by the same extension again, whatever the time. -/
theorem isExtendedBy_extendedRow {row : StratumSessionRow} {extension : StratumSessionExtension}
    {leaseUuid : String} (now : ℕ) (hlease : row.leaseId = leaseUuid)
    (hcontinuity : row.continuityId = extension.leaseContext.continuityId) :
    isExtendedBy (extendedRow extension row) extension leaseUuid now = true := by
  simp [isExtendedBy, extendedRow, hlease, hcontinuity]

/-! ## What the calls do -/

/-- The effects of the registry's calls on its sessions. -/
inductive Effect (before : StratumRegistry) (secretVerifier : String → String) :
    RegistryRequest → RegistryReply → StratumRegistry → Prop
  | keeps {request : RegistryRequest} {reply : RegistryReply} {after : StratumRegistry}
      (hsessions : after.sessions = before.sessions)
      (hregister : ∀ credentials, request ≠ .register credentials)
      (hextend : ∀ extension now, request ≠ .extend extension now) :
      Effect before secretVerifier request reply after
  | refuses (request : RegistryRequest) (error : StratumV1Error) :
      Effect before secretVerifier request (.refused error) before
  | registers (credentials : StratumSessionCredentials) {proposed : StratumSessionRow}
      {after : StratumRegistry}
      (hproposed : proposedRow secretVerifier credentials = .ok proposed)
      (hfree : ∀ existing, before.sessions.lookup credentials.sessionId = some existing →
        supersedes existing proposed = true)
      (hsessions : ∀ sessionId, after.sessions.lookup sessionId =
        if sessionId = credentials.sessionId then some proposed
        else before.sessions.lookup sessionId) :
      Effect before secretVerifier (.register credentials) .done after
  | movesOn (extension : StratumSessionExtension) (now : ℕ) {leaseUuid : String}
      {row : StratumSessionRow} {after : StratumRegistry}
      (hbound : boundLease extension now = .ok leaseUuid)
      (hrow : before.sessions.lookup extension.sessionId = some row)
      (hextended : isExtendedBy row extension leaseUuid now = true)
      (hsessions : after.sessions =
        before.sessions.updateRow extension.sessionId (extendedRow extension)) :
      Effect before secretVerifier (.extend extension now) .done after

theorem Effect.of_register (registry : StratumRegistry)
    (credentials : StratumSessionCredentials) :
    Effect registry secretVerifier (.register credentials)
      (registryAnswer registry (registry.register secretVerifier credentials)).2
      (registryAnswer registry (registry.register secretVerifier credentials)).1 := by
  cases hwritten : registry.register secretVerifier credentials with
  | error error => exact .refuses _ error
  | ok after =>
      simp only [register, bind_eq_ok] at hwritten
      obtain ⟨proposed, hproposed, hwritten⟩ := hwritten
      split at hwritten
      · next existing hexisting =>
          split at hwritten
          · next hsupersedes =>
              cases hwritten
              apply Effect.registers credentials hproposed
              · intro found hfound
                rw [hexisting] at hfound
                cases hfound
                exact hsupersedes
              · intro sessionId
                simp only [registryAnswer, Rows.lookup_updateRow_eq]
                by_cases heq : sessionId = credentials.sessionId
                · rw [if_pos heq, if_pos heq, heq, hexisting, Option.map_some]
                · rw [if_neg heq, if_neg heq]
          · cases hwritten
      · next hnone =>
          obtain ⟨-, hwritten⟩ := guard_eq_ok hwritten
          cases hwritten
          apply Effect.registers credentials hproposed
          · intro found hfound
            rw [hnone] at hfound
            cases hfound
          · intro sessionId
            exact Rows.lookup_insert_eq _ _ _ _

theorem Effect.of_extend (registry : StratumRegistry) (extension : StratumSessionExtension)
    (now : ℕ) :
    Effect registry secretVerifier (.extend extension now)
      (registryAnswer registry (registry.extend extension now)).2
      (registryAnswer registry (registry.extend extension now)).1 := by
  cases hwritten : registry.extend extension now with
  | error error => exact .refuses _ error
  | ok after =>
      simp only [extend, bind_eq_ok] at hwritten
      obtain ⟨leaseUuid, hbound, hwritten⟩ := hwritten
      split at hwritten
      · cases hwritten
      · next row hrow =>
          split at hwritten
          · next hextended =>
              cases hwritten
              exact .movesOn extension now hbound hrow hextended rfl
          · cases hwritten

theorem reserve_sessions {registry after : StratumRegistry} {connectionId extranonce1 : String}
    {maybeSessionId : Option WorkSessionId} {now : ℕ}
    (h : registry.reserve deps connectionId extranonce1 maybeSessionId now = .ok after) :
    after.sessions = registry.sessions := by
  simp only [reserve, bind_eq_ok] at h
  obtain ⟨_, -, _, -, h⟩ := h
  split at h
  · cases h
  · obtain ⟨-, h⟩ := guard_eq_ok h
    split at h
    · split at h
      · cases h
        rfl
      · cases h
    · obtain ⟨-, h⟩ := guard_eq_ok h
      obtain ⟨-, h⟩ := guard_eq_ok h
      cases h
      rfl

theorem bindConnection_sessions {registry after : StratumRegistry} {connectionId : String}
    {sessionId : WorkSessionId}
    (h : registry.bindConnection deps connectionId sessionId = .ok after) :
    after.sessions = registry.sessions := by
  obtain ⟨-, h⟩ := guard_eq_ok h
  split at h
  · cases h
  · split at h
    · cases h
    · obtain ⟨-, h⟩ := guard_eq_ok h
      obtain ⟨-, h⟩ := guard_eq_ok h
      cases h
      rfl

theorem releaseUnboundConnection_sessions {registry after : StratumRegistry}
    {connectionId : String} (h : registry.releaseUnboundConnection deps connectionId = .ok after) :
    after.sessions = registry.sessions := by
  obtain ⟨-, h⟩ := guard_eq_ok h
  split at h
  · cases h
  · cases h
    rfl

/-- A call about connections leaves the sessions. -/
theorem Effect.of_sessions {registry : StratumRegistry} {request : RegistryRequest}
    (written : Except StratumV1Error StratumRegistry)
    (hregister : ∀ credentials, request ≠ .register credentials)
    (hextend : ∀ extension now, request ≠ .extend extension now)
    (hsessions : ∀ after, written = .ok after → after.sessions = registry.sessions) :
    Effect registry secretVerifier request (registryAnswer registry written).2
      (registryAnswer registry written).1 := by
  cases written with
  | error error => exact .refuses _ error
  | ok after => exact .keeps (hsessions after rfl) hregister hextend

variable (deps secretVerifier) in
theorem Effect.of_step (registry : StratumRegistry) (request : RegistryRequest) :
    Effect registry secretVerifier request (registryStep deps secretVerifier registry request).2
      (registryStep deps secretVerifier registry request).1 := by
  cases request with
  | register credentials => exact .of_register registry credentials
  | extend extension now => exact .of_extend registry extension now
  | authenticate username secret now =>
      exact .keeps rfl (fun _ heq => by cases heq) fun _ _ heq => by cases heq
  | reserve connectionId extranonce1 maybeSessionId now =>
      exact .of_sessions _ (fun _ heq => by cases heq) (fun _ _ heq => by cases heq)
        fun _ hwritten => reserve_sessions hwritten
  | bindConnection connectionId sessionId =>
      exact .of_sessions _ (fun _ heq => by cases heq) (fun _ _ heq => by cases heq)
        fun _ hwritten => bindConnection_sessions hwritten
  | releaseUnboundConnection connectionId =>
      exact .of_sessions _ (fun _ heq => by cases heq) (fun _ _ heq => by cases heq)
        fun _ hwritten => releaseUnboundConnection_sessions hwritten

/-! ## Registrations move on -/

/-- A registration as it may stand later: issued no earlier, under the same username. -/
structure IssuedAfter (row later : StratumSessionRow) : Prop where
  milliseconds : row.issuedAtUnixMilliseconds ≤ later.issuedAtUnixMilliseconds
  seconds : row.issuedAtUnixSeconds ≤ later.issuedAtUnixSeconds
  username : later.username = row.username

theorem IssuedAfter.of_milliseconds {row later : StratumSessionRow}
    (hmilliseconds : row.issuedAtUnixMilliseconds ≤ later.issuedAtUnixMilliseconds)
    (husername : later.username = row.username) : IssuedAfter row later where
  milliseconds := hmilliseconds
  seconds := by
    rw [← row.secondsMatch, ← later.secondsMatch]
    exact Nat.div_le_div_right hmilliseconds
  username := husername

theorem IssuedAfter.trans {row later last : StratumSessionRow} (hfirst : IssuedAfter row later)
    (hsecond : IssuedAfter later last) : IssuedAfter row last :=
  .of_milliseconds (hfirst.milliseconds.trans hsecond.milliseconds)
    (hsecond.username.trans hfirst.username)

/-- A registration moved on in its lease: a window that ends no earlier, read no earlier, under
the same secret, lease and boot. -/
structure MovedOn (row later : StratumSessionRow) : Prop where
  expires : row.expiresAtUnixSeconds ≤ later.expiresAtUnixSeconds
  last : row.lastMonotonicMilliseconds ≤ later.lastMonotonicMilliseconds
  leaseExpires :
    row.leaseExpiresAtMonotonicMilliseconds ≤ later.leaseExpiresAtMonotonicMilliseconds
  secret : later.secretVerifier = row.secretVerifier
  lease : later.leaseId = row.leaseId
  continuity : later.continuityId = row.continuityId

theorem MovedOn.refl (row : StratumSessionRow) : MovedOn row row where
  expires := le_refl _
  last := le_refl _
  leaseExpires := le_refl _
  secret := rfl
  lease := rfl
  continuity := rfl

theorem MovedOn.of_extended {row : StratumSessionRow} {extension : StratumSessionExtension}
    {leaseUuid : String} {now : ℕ} (h : isExtendedBy row extension leaseUuid now = true) :
    MovedOn row (extendedRow extension row) := by
  obtain ⟨-, -, ⟨-, -, hexpires, hlast, hleaseExpires⟩ | hsame⟩ := isExtendedBy_eq_true h
  · exact ⟨hexpires, hlast, hleaseExpires, rfl, rfl, rfl⟩
  · rw [hsame]
    exact .refl row

theorem IssuedAfter.of_extended {row : StratumSessionRow} {extension : StratumSessionExtension}
    {leaseUuid : String} {now : ℕ} (h : isExtendedBy row extension leaseUuid now = true) :
    IssuedAfter row (extendedRow extension row) := by
  obtain ⟨-, -, ⟨hissued, -⟩ | hsame⟩ := isExtendedBy_eq_true h
  · exact .of_milliseconds hissued.le rfl
  · rw [hsame]
    exact .of_milliseconds (le_refl _) rfl

theorem Effect.issuedAfter {before after : StratumRegistry} {request : RegistryRequest}
    {reply : RegistryReply} (heffect : Effect before secretVerifier request reply after)
    {sessionId : WorkSessionId} {row : StratumSessionRow}
    (hrow : before.sessions.lookup sessionId = some row) :
    ∃ later, after.sessions.lookup sessionId = some later ∧ IssuedAfter row later := by
  have hstays : ∃ later, before.sessions.lookup sessionId = some later ∧ IssuedAfter row later :=
    ⟨row, hrow, .of_milliseconds (le_refl _) rfl⟩
  cases heffect with
  | keeps hsessions =>
      rw [hsessions]
      exact hstays
  | refuses => exact hstays
  | registers credentials hproposed hfree hsessions =>
      rw [hsessions]
      split
      · next heq =>
          obtain ⟨husername, hissued⟩ := supersedes_eq_true (hfree row (heq ▸ hrow))
          refine ⟨_, rfl, .of_milliseconds ?_ husername.symm⟩
          obtain hlater | hsame := hissued
          · exact hlater.le
          · rw [hsame]
      · exact hstays
  | movesOn extension now hbound hfound hextended hsessions =>
      rw [hsessions, Rows.lookup_updateRow_eq]
      split
      · next heq =>
          rw [← heq, hrow] at hfound
          cases hfound
          exact ⟨_, by rw [hrow, Option.map_some], .of_extended hextended⟩
      · exact hstays

theorem issuedAfter_of_continues {history later : List (RegistryRequest × RegistryReply)}
    {registry reached : StratumRegistry}
    (hcontinues : (stratumRegistry deps secretVerifier).Continues history registry later reached)
    {sessionId : WorkSessionId} {row : StratumSessionRow}
    (hrow : registry.sessions.lookup sessionId = some row) :
    ∃ found, reached.sessions.lookup sessionId = some found ∧ IssuedAfter row found := by
  induction hcontinues with
  | refl => exact ⟨row, hrow, .of_milliseconds (le_refl _) rfl⟩
  | @extend _ passed _ request _ ih =>
      obtain ⟨found, hfound, hissued⟩ := ih
      obtain ⟨next, hnext, hlater⟩ :=
        (Effect.of_step deps secretVerifier passed request).issuedAfter hfound
      exact ⟨next, hnext, hissued.trans hlater⟩

/-- Every extension, refused or not, leaves a registration that only moved on. -/
theorem movedOn_extend (registry : StratumRegistry) (extension : StratumSessionExtension)
    (now : ℕ) {row : StratumSessionRow}
    (hrow : registry.sessions.lookup extension.sessionId = some row) :
    ∃ later, (registryStep deps secretVerifier registry (.extend extension now)).1.sessions.lookup
      extension.sessionId = some later ∧ MovedOn row later := by
  have heffect := Effect.of_step deps secretVerifier registry
    (.extend extension now)
  generalize (registryStep deps secretVerifier registry (.extend extension now)).1 = after
    at heffect ⊢
  generalize (registryStep deps secretVerifier registry (.extend extension now)).2 = reply
    at heffect
  cases heffect with
  | keeps _ _ hextend => exact absurd rfl (hextend extension now)
  | refuses => exact ⟨row, hrow, .refl row⟩
  | movesOn _ _ _ hfound hextended hsessions =>
      rw [hrow] at hfound
      cases hfound
      exact ⟨_, by rw [hsessions, Rows.lookup_updateRow, hrow, Option.map_some],
        .of_extended hextended⟩

/-! ## Repeating a call -/

/-- A registration that stands as it was made is made again without any change. -/
theorem register_repeats {registry : StratumRegistry} {credentials : StratumSessionCredentials}
    {proposed : StratumSessionRow}
    (hproposed : proposedRow secretVerifier credentials = .ok proposed)
    (hstands : registry.sessions.lookup credentials.sessionId = some proposed) :
    registryStep deps secretVerifier registry (.register credentials) = (registry, .done) := by
  have hwritten : registry.register secretVerifier credentials = .ok registry := by
    simp only [register, hproposed, hstands]
    show (if supersedes proposed proposed = true then _ else _) = _
    rw [if_pos (supersedes_self proposed), Rows.updateRow_eq_self hstands rfl]
  rw [registryStep, hwritten]
  rfl

/-- An extension that stands as it was made is made again without any change. -/
theorem extend_repeats {registry : StratumRegistry} {extension : StratumSessionExtension}
    {now : ℕ} {leaseUuid : String} {row : StratumSessionRow}
    (hbound : boundLease extension now = .ok leaseUuid) (hlease : row.leaseId = leaseUuid)
    (hcontinuity : row.continuityId = extension.leaseContext.continuityId)
    (hstands : registry.sessions.lookup extension.sessionId = some (extendedRow extension row)) :
    registryStep deps secretVerifier registry (.extend extension now) = (registry, .done) := by
  have hwritten : registry.extend extension now = .ok registry := by
    simp only [extend, hbound, hstands]
    show (if isExtendedBy (extendedRow extension row) extension leaseUuid now = true then _
      else _) = _
    rw [if_pos (isExtendedBy_extendedRow now hlease hcontinuity),
      Rows.updateRow_eq_self hstands rfl]
  rw [registryStep, hwritten]
  rfl

/-! ## Refused calls -/

/-- A registration that is older than the one that stands, or says something else of the same
moment or of another username. -/
def RegisterConflicts (secretVerifier : String → String) (row : StratumSessionRow)
    (credentials : StratumSessionCredentials) : Prop :=
  credentials.issuedAtUnixMilliseconds < row.issuedAtUnixMilliseconds ∨
    credentials.username ≠ row.username ∨
    credentials.issuedAtUnixMilliseconds = row.issuedAtUnixMilliseconds ∧
      proposedRow secretVerifier credentials ≠ .ok row

/-- An extension that is older than the registration that stands, of another lease or boot,
late, shrinking, or that says something else of the same moment. -/
def ExtendConflicts (row : StratumSessionRow) (extension : StratumSessionExtension) (now : ℕ) :
    Prop :=
  extension.issuedAtUnixMilliseconds < row.issuedAtUnixMilliseconds ∨
    castUuid extension.leaseContext.leaseId ≠ some row.leaseId ∨
    extension.leaseContext.continuityId ≠ row.continuityId ∨
    extension.issuedAtUnixMilliseconds = row.issuedAtUnixMilliseconds ∧
      extendedRow extension row ≠ row ∨
    row.issuedAtUnixMilliseconds < extension.issuedAtUnixMilliseconds ∧
      (row.expiresAtUnixSeconds ≤ now ∨
        extension.expiresAtUnixSeconds < row.expiresAtUnixSeconds ∨
        extension.leaseContext.lastMonotonicMilliseconds < row.lastMonotonicMilliseconds ∨
        extension.leaseContext.expiresAtMonotonicMilliseconds <
          row.leaseExpiresAtMonotonicMilliseconds)

theorem boundLease_eq_ok {extension : StratumSessionExtension} {now : ℕ} {leaseUuid : String}
    (h : boundLease extension now = .ok leaseUuid) :
    castUuid extension.leaseContext.leaseId = some leaseUuid := by
  simp only [boundLease, bind_eq_ok] at h
  obtain ⟨_, -, _, -, _, -, _, -, _, -, _, -, h⟩ := h
  split at h
  · cases h
  · next found hfound =>
      split at h
      · cases h
        exact hfound
      · cases h

theorem answer_refused {registry : StratumRegistry}
    (written : Except StratumV1Error StratumRegistry)
    (hdone : ∀ after, written ≠ .ok after) :
    ∃ error, registryAnswer registry written = (registry, .refused error) := by
  cases written with
  | error error => exact ⟨error, rfl⟩
  | ok after => exact absurd rfl (hdone after)

theorem register_conflicts {registry : StratumRegistry}
    {credentials : StratumSessionCredentials} {row : StratumSessionRow}
    (hrow : registry.sessions.lookup credentials.sessionId = some row)
    (hconflicts : RegisterConflicts secretVerifier row credentials) :
    ∃ error, registryStep deps secretVerifier registry (.register credentials) =
      (registry, .refused error) := by
  apply answer_refused
  intro after hwritten
  simp only [register, bind_eq_ok] at hwritten
  obtain ⟨proposed, hproposed, hwritten⟩ := hwritten
  rw [hrow] at hwritten
  obtain ⟨hissuedAt, hname⟩ := proposedRow_issuedAt hproposed
  split at hwritten
  · next existing hexisting =>
      cases hexisting
      split at hwritten
      · next hsupersedes =>
          obtain ⟨husername, hissued⟩ := supersedes_eq_true hsupersedes
          rw [RegisterConflicts, ← hissuedAt, ← hname] at hconflicts
          obtain holder | hother | ⟨hsame, hdiffers⟩ := hconflicts
          · obtain hlater | heq := hissued
            · omega
            · rw [heq] at holder
              omega
          · exact hother husername.symm
          · obtain hlater | heq := hissued
            · omega
            · exact hdiffers (by rw [hproposed, heq])
      · cases hwritten
  · next hnone => cases hnone

theorem extend_conflicts {registry : StratumRegistry} {extension : StratumSessionExtension}
    {now : ℕ} (hconflicts : ∀ row, registry.sessions.lookup extension.sessionId = some row →
      ExtendConflicts row extension now) :
    ∃ error, registryStep deps secretVerifier registry (.extend extension now) =
      (registry, .refused error) := by
  apply answer_refused
  intro after hwritten
  simp only [extend, bind_eq_ok] at hwritten
  obtain ⟨leaseUuid, hbound, hwritten⟩ := hwritten
  split at hwritten
  · cases hwritten
  · next row hrow =>
      split at hwritten
      · next hextended =>
          obtain ⟨hlease, hcontinuity, hmoves⟩ := isExtendedBy_eq_true hextended
          obtain holder | hother | hboot | ⟨hsame, hdiffers⟩ | ⟨hlater, hbackwards⟩ :=
            hconflicts row hrow
          · obtain ⟨hissued, -⟩ | heq := hmoves
            · omega
            · have hissued := congrArg StratumSessionRow.issuedAtUnixMilliseconds heq
              simp only [extendedRow] at hissued
              omega
          · exact hother (by rw [boundLease_eq_ok hbound, hlease])
          · exact hboot hcontinuity.symm
          · obtain ⟨hissued, -⟩ | heq := hmoves
            · omega
            · exact hdiffers heq
          · obtain ⟨-, hlive, hexpires, hlast, hleaseExpires⟩ | heq := hmoves
            · omega
            · have hissued := congrArg StratumSessionRow.issuedAtUnixMilliseconds heq
              simp only [extendedRow] at hissued
              omega
      · cases hwritten

theorem step_refused {registry : StratumRegistry} {request : RegistryRequest}
    {error : StratumV1Error}
    (h : (registryStep deps secretVerifier registry request).2 = .refused error) :
    (registryStep deps secretVerifier registry request).1 = registry := by
  have hanswer : ∀ written : Except StratumV1Error StratumRegistry,
      (registryAnswer registry written).2 = .refused error →
        (registryAnswer registry written).1 = registry := by
    intro written hrefused
    cases written with
    | error _ => rfl
    | ok after => cases hrefused
  cases request with
  | register | extend | reserve | bindConnection | releaseUnboundConnection => exact hanswer _ h
  | authenticate => rfl

/-- The session a call may write. -/
def target : RegistryRequest → Option WorkSessionId
  | .register credentials => some credentials.sessionId
  | .extend extension _ => some extension.sessionId
  | _ => none

theorem step_other {registry : StratumRegistry} {request : RegistryRequest}
    {sessionId : WorkSessionId} (hother : target request ≠ some sessionId) :
    (registryStep deps secretVerifier registry request).1.sessions.lookup sessionId =
      registry.sessions.lookup sessionId := by
  have heffect := Effect.of_step deps secretVerifier registry request
  generalize (registryStep deps secretVerifier registry request).1 = after at heffect ⊢
  generalize (registryStep deps secretVerifier registry request).2 = reply at heffect
  cases heffect with
  | keeps hsessions => rw [hsessions]
  | refuses => rfl
  | registers credentials _ _ hsessions =>
      rw [hsessions, if_neg]
      rintro rfl
      exact hother rfl
  | movesOn extension now _ _ _ hsessions =>
      rw [hsessions, Rows.lookup_updateRow_ne]
      rintro rfl
      exact hother rfl

/-- A registration that was taken is taken again wherever it still stands. -/
theorem register_again {registry reached : StratumRegistry}
    {credentials : StratumSessionCredentials}
    (hdone : (registryStep deps secretVerifier registry (.register credentials)).2 = .done)
    (hstands : reached.sessions.lookup credentials.sessionId =
      (registryStep deps secretVerifier registry (.register credentials)).1.sessions.lookup
        credentials.sessionId) :
    registryStep deps secretVerifier reached (.register credentials) = (reached, .done) := by
  have heffect := Effect.of_step deps secretVerifier registry
    (.register credentials)
  rw [hdone] at heffect
  generalize (registryStep deps secretVerifier registry (.register credentials)).1 = after
    at heffect hstands
  cases heffect with
  | keeps _ hregister => exact absurd rfl (hregister credentials)
  | registers _ hproposed _ hsessions =>
      rw [hsessions, if_pos rfl] at hstands
      exact register_repeats hproposed hstands

/-- An extension that was taken is taken again wherever it still stands. -/
theorem extend_again {registry reached : StratumRegistry} {extension : StratumSessionExtension}
    {now : ℕ}
    (hdone : (registryStep deps secretVerifier registry (.extend extension now)).2 = .done)
    (hstands : reached.sessions.lookup extension.sessionId =
      (registryStep deps secretVerifier registry (.extend extension now)).1.sessions.lookup
        extension.sessionId) :
    registryStep deps secretVerifier reached (.extend extension now) = (reached, .done) := by
  have heffect := Effect.of_step deps secretVerifier registry
    (.extend extension now)
  rw [hdone] at heffect
  generalize (registryStep deps secretVerifier registry (.extend extension now)).1 = after
    at heffect hstands
  cases heffect with
  | keeps _ _ hextend => exact absurd rfl (hextend extension now)
  | movesOn _ _ hbound hrow hextended hsessions =>
      obtain ⟨hlease, hcontinuity, -⟩ := isExtendedBy_eq_true hextended
      rw [hsessions, Rows.lookup_updateRow, hrow, Option.map_some] at hstands
      exact extend_repeats hbound hlease hcontinuity hstands

end StratumRegistry

open StratumRegistry in
/-- Registrations only move on, from every point of every run: a registration is never
replaced by one issued before it; an extension never lowers the expiry, the last reading or
the end of the lease and keeps secret, lease and boot; a call that was taken may be repeated
where it still stands, and changes nothing; an older or conflicting call is refused; and a
refused call leaves the registry, any call every other session. -/
theorem stratumRegistry_movesOn (deps : Dependencies) (secretVerifier : String → String)
    (history : List (RegistryRequest × RegistryReply)) (registry : StratumRegistry) :
    (∀ sessionId row, registry.sessions.lookup sessionId = some row → ∀ later reached,
      (stratumRegistry deps secretVerifier).Continues history registry later reached →
        ∃ found, reached.sessions.lookup sessionId = some found ∧ IssuedAfter row found) ∧
    (∀ extension now row, registry.sessions.lookup extension.sessionId = some row →
      ∃ later, (registryStep deps secretVerifier registry
        (.extend extension now)).1.sessions.lookup extension.sessionId = some later ∧
          MovedOn row later) ∧
    (∀ credentials, (registryStep deps secretVerifier registry (.register credentials)).2 = .done →
      ∀ reached : StratumRegistry, reached.sessions.lookup credentials.sessionId =
        (registryStep deps secretVerifier registry (.register credentials)).1.sessions.lookup
          credentials.sessionId →
        registryStep deps secretVerifier reached (.register credentials) = (reached, .done)) ∧
    (∀ extension now,
      (registryStep deps secretVerifier registry (.extend extension now)).2 = .done →
      ∀ reached : StratumRegistry, reached.sessions.lookup extension.sessionId =
        (registryStep deps secretVerifier registry (.extend extension now)).1.sessions.lookup
          extension.sessionId →
        registryStep deps secretVerifier reached (.extend extension now) = (reached, .done)) ∧
    (∀ credentials row, registry.sessions.lookup credentials.sessionId = some row →
      RegisterConflicts secretVerifier row credentials →
        ∃ error, registryStep deps secretVerifier registry (.register credentials) =
          (registry, .refused error)) ∧
    (∀ extension now, (∀ row, registry.sessions.lookup extension.sessionId = some row →
      ExtendConflicts row extension now) →
        ∃ error, registryStep deps secretVerifier registry (.extend extension now) =
          (registry, .refused error)) ∧
    (∀ request error, (registryStep deps secretVerifier registry request).2 = .refused error →
      (registryStep deps secretVerifier registry request).1 = registry) ∧
    (∀ request sessionId, target request ≠ some sessionId →
      (registryStep deps secretVerifier registry request).1.sessions.lookup sessionId =
        registry.sessions.lookup sessionId) := by
  refine ⟨?_, ?_, ?_, ?_, ?_, ?_, ?_, ?_⟩
  · intro sessionId row hrow later reached hcontinues
    exact issuedAfter_of_continues hcontinues hrow
  · intro extension now row hrow
    exact movedOn_extend registry extension now hrow
  · intro credentials hdone reached hstands
    exact register_again hdone hstands
  · intro extension now hdone reached hstands
    exact extend_again hdone hstands
  · intro credentials row hrow hconflicts
    exact register_conflicts hrow hconflicts
  · intro extension now hconflicts
    exact extend_conflicts hconflicts
  · intro request error hrefused
    exact step_refused hrefused
  · intro request sessionId hother
    exact step_other hother

/-! ## A renewed session -/

/-- A lease of fifteen seconds, last read then. -/
def sampleLeaseContext (last : ℕ) (valid : validLeaseWindow "boot-1" last (last + 5000)
    (last + 15000) = true) : StratumLeaseContext :=
  ⟨"0190f1f0-0000-7000-8000-000000000001", "boot-1", last, last + 5000, last + 15000, valid⟩

theorem validLeaseWindow_sample : validLeaseWindow "boot-1" 0 5000 15000 = true ∧
    validLeaseWindow "boot-1" 5000 10000 20000 = true := by
  decide

def sampleCredentials : StratumSessionCredentials where
  sessionId := ⟨"session_a", validSession_a⟩
  leaseContext := sampleLeaseContext 0 validLeaseWindow_sample.1
  username := "bwg_AAAAAAAAAAAAAAAAAAAAAA"
  secret := "secret"
  issuedAtUnixMilliseconds := 1000000
  expiresAtUnixSeconds := 1015

def sampleExtension : StratumSessionExtension where
  sessionId := ⟨"session_a", validSession_a⟩
  leaseContext := sampleLeaseContext 5000 validLeaseWindow_sample.2
  issuedAtUnixMilliseconds := 1005000
  expiresAtUnixSeconds := 1020

/-- A registry that keeps one verifier for every secret. -/
def sampleRegistry : Machine StratumRegistry RegistryRequest RegistryReply :=
  stratumRegistry (.ofTables [] [] []) fun _ => "AAAAAAAAAAAAAAAAAAAAAAAAAAAAAAAAAAAAAAAAAAA"

/-- The renewal is repeated later, and the registration when it no longer stands. -/
def sampleRenewal : List RegistryRequest :=
  [.register sampleCredentials, .extend sampleExtension 1005, .extend sampleExtension 1006,
    .register sampleCredentials]

open StratumRegistry in
theorem sampleRenewal_movesOn :
    (sampleRegistry.replay sampleRenewal).1.map (·.2) =
      [.refused .conflictingSessionReplay, .done, .done, .done] ∧
    ∃ row later,
      (sampleRegistry.replay (sampleRenewal.take 1)).2.sessions.lookup
        sampleCredentials.sessionId = some row ∧
      (sampleRegistry.replay (sampleRenewal.take 2)).2.sessions.lookup
        sampleCredentials.sessionId = some later ∧
      MovedOn row later ∧ row.expiresAtUnixSeconds = 1015 ∧
        later.expiresAtUnixSeconds = 1020 := by
  obtain ⟨row, hrow, hexpires⟩ : ∃ row,
      (sampleRegistry.replay (sampleRenewal.take 1)).2.sessions.lookup
        sampleCredentials.sessionId = some row ∧ row.expiresAtUnixSeconds = 1015 := ⟨_, rfl, rfl⟩
  obtain ⟨-, hextends, -⟩ := stratumRegistry_movesOn (.ofTables [] [] [])
    (fun _ => "AAAAAAAAAAAAAAAAAAAAAAAAAAAAAAAAAAAAAAAAAAA")
    (sampleRegistry.replay (sampleRenewal.take 1)).1
    (sampleRegistry.replay (sampleRenewal.take 1)).2
  obtain ⟨later, hlater, hmoved⟩ := hextends sampleExtension 1005 row hrow
  have hlast : ((sampleRegistry.replay (sampleRenewal.take 2)).2.sessions.lookup
      sampleCredentials.sessionId).map (·.expiresAtUnixSeconds) = some 1020 := rfl
  have hreached : (sampleRegistry.replay (sampleRenewal.take 2)).2.sessions.lookup
      sampleCredentials.sessionId = some later := hlater
  rw [hreached] at hlast
  exact ⟨rfl, row, later, hrow, hreached, hmoved, hexpires, Option.some.inj hlast⟩

end WorkGate
