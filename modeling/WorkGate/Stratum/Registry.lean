/-
# The Stratum session registry (src/stratum_v1/sessions.rs, migrations/pool_adapter)

The Pool Adapter keeps one registration per Work Session: a verifier of its secret and the
window of the lease it was issued under.  A registration replaces an older one, an
extension moves the window of the same lease on, and both may be repeated.  Connections
reserve their extranonce beside it.
-/

import WorkGate.Authority.Database
import WorkGate.Library.Machine
import WorkGate.Library.Results
import WorkGate.Stratum.Credentials

namespace WorkGate

open WorkGate.Library

/-! ## Credentials and extensions -/

/-- `MAXIMUM_SESSION_CREDENTIAL_SECONDS`. -/
def maximumSessionCredentialSeconds : ℕ := 60

/-- `bounded_session_expiry`. -/
def boundedSessionExpiry (leaseContext : StratumLeaseContext)
    (nowUnixSeconds leaseExpiresAtUnixSeconds challengeExpiresAtUnixSeconds : ℕ) :
    Except StratumV1Error ℕ :=
  let remainingLeaseSeconds := (leaseContext.expiresAtMonotonicMilliseconds -
    leaseContext.lastMonotonicMilliseconds) / 1000
  let expiresAt := min leaseExpiresAtUnixSeconds challengeExpiresAtUnixSeconds
  if expiresAt ≤ nowUnixSeconds ∨ maximumSessionCredentialSeconds < expiresAt - nowUnixSeconds ∨
      remainingLeaseSeconds < expiresAt - nowUnixSeconds then .error .invalidSessionConfig
  else .ok expiresAt

/-- Worker-visible short-lived credentials bound to one opaque Work Session. -/
structure StratumSessionCredentials where
  sessionId : WorkSessionId
  leaseContext : StratumLeaseContext
  username : String
  secret : String
  issuedAtUnixMilliseconds : ℕ
  expiresAtUnixSeconds : ℕ
  deriving DecidableEq

/-- Deterministic issuer of opaque credentials: the keyed digests it takes of what a username
and a secret are bound to. -/
structure StratumCredentialIssuer where
  usernameOf : WorkSessionId → String
  secretOf : WorkSessionId → ℕ → ℕ → String → ℕ → String

/-- `issue_at_milliseconds`. -/
def StratumCredentialIssuer.issueAtMilliseconds (issuer : StratumCredentialIssuer)
    (sessionId : WorkSessionId) (leaseContext : StratumLeaseContext) (nowUnixMilliseconds
    leaseExpiresAtUnixSeconds challengeExpiresAtUnixSeconds : ℕ) :
    Except StratumV1Error StratumSessionCredentials := do
  let expiresAtUnixSeconds ← boundedSessionExpiry leaseContext (nowUnixMilliseconds / 1000)
    leaseExpiresAtUnixSeconds challengeExpiresAtUnixSeconds
  return {
    sessionId := sessionId
    leaseContext := leaseContext
    username := issuer.usernameOf sessionId
    secret := issuer.secretOf sessionId nowUnixMilliseconds expiresAtUnixSeconds
      leaseContext.leaseId leaseContext.lastMonotonicMilliseconds
    issuedAtUnixMilliseconds := nowUnixMilliseconds
    expiresAtUnixSeconds := expiresAtUnixSeconds }

/-- A renewed lease window for registered credentials whose secret stays unchanged. -/
structure StratumSessionExtension where
  sessionId : WorkSessionId
  leaseContext : StratumLeaseContext
  issuedAtUnixMilliseconds : ℕ
  expiresAtUnixSeconds : ℕ
  deriving DecidableEq

/-- `StratumSessionExtension::new`: bounded exactly as a fresh issue would be. -/
def StratumSessionExtension.new (sessionId : WorkSessionId) (leaseContext : StratumLeaseContext)
    (nowUnixMilliseconds leaseExpiresAtUnixSeconds challengeExpiresAtUnixSeconds : ℕ) :
    Except StratumV1Error StratumSessionExtension := do
  let expiresAtUnixSeconds ← boundedSessionExpiry leaseContext (nowUnixMilliseconds / 1000)
    leaseExpiresAtUnixSeconds challengeExpiresAtUnixSeconds
  return ⟨sessionId, leaseContext, nowUnixMilliseconds, expiresAtUnixSeconds⟩

/-! ## The tables -/

/-- `pool_adapter.stratum_sessions`. -/
structure StratumSessionRow where
  username : String
  secretVerifier : String
  issuedAtUnixSeconds : ℕ
  issuedAtUnixMilliseconds : ℕ
  expiresAtUnixSeconds : ℕ
  leaseId : String
  continuityId : String
  lastMonotonicMilliseconds : ℕ
  renewAtMonotonicMilliseconds : ℕ
  leaseExpiresAtMonotonicMilliseconds : ℕ
  /-- `stratum_sessions_issued_at_milliseconds_matches_seconds`. -/
  secondsMatch : issuedAtUnixMilliseconds / 1000 = issuedAtUnixSeconds
  deriving DecidableEq

/-- `pool_adapter.stratum_connections`. -/
structure StratumConnectionRow where
  maybeSessionId : Option WorkSessionId
  extranonce1 : String
  reservedAtUnixSeconds : ℕ
  deriving DecidableEq

/-- The registry's tables. -/
structure StratumRegistry where
  sessions : Rows WorkSessionId StratumSessionRow
  connections : Rows String StratumConnectionRow

/-- The check on usernames. -/
def isStratumUsername (text : String) : Bool :=
  match "bwg_".toList.isPrefixOf? text.toList with
  | none => false
  | some suffix => suffix.length == 22 && suffix.all isOpaqueIdCharacter

/-- The check on verifiers. -/
def isSecretVerifier (text : String) : Bool :=
  text.toList.length == 43 && text.toList.all isOpaqueIdCharacter

namespace StratumRegistry

section

variable (deps : Dependencies) (secretVerifier : String → String)

/-! ## Registering and extending -/

/-- The row a registration proposes, once its parameters are bound and the checks of the table
hold. -/
def proposedRow (credentials : StratumSessionCredentials) :
    Except StratumV1Error StratumSessionRow := do
  let context := credentials.leaseContext
  let _ ← toI64 (credentials.issuedAtUnixMilliseconds / 1000)
  let _ ← toI64 credentials.expiresAtUnixSeconds
  let _ ← toI64 context.lastMonotonicMilliseconds
  let _ ← toI64 context.renewAtMonotonicMilliseconds
  let _ ← toI64 context.expiresAtMonotonicMilliseconds
  let _ ← toI64 credentials.issuedAtUnixMilliseconds
  match castUuid context.leaseId with
  | none => .error .database
  | some leaseUuid =>
    if !storesText context.continuityId || !isStratumUsername credentials.username ||
        !isSecretVerifier (secretVerifier credentials.secret) ||
        credentials.issuedAtUnixMilliseconds / 1000 == 0 ||
        credentials.expiresAtUnixSeconds == 0 then .error .database
    else .ok {
      username := credentials.username
      secretVerifier := secretVerifier credentials.secret
      issuedAtUnixSeconds := credentials.issuedAtUnixMilliseconds / 1000
      issuedAtUnixMilliseconds := credentials.issuedAtUnixMilliseconds
      expiresAtUnixSeconds := credentials.expiresAtUnixSeconds
      leaseId := leaseUuid
      continuityId := context.continuityId
      lastMonotonicMilliseconds := context.lastMonotonicMilliseconds
      renewAtMonotonicMilliseconds := context.renewAtMonotonicMilliseconds
      leaseExpiresAtMonotonicMilliseconds := context.expiresAtMonotonicMilliseconds
      secondsMatch := rfl }

/-- The condition under which a registration writes over the one that stands. -/
def supersedes (existing proposed : StratumSessionRow) : Bool :=
  existing.username == proposed.username &&
    (decide (existing.issuedAtUnixMilliseconds < proposed.issuedAtUnixMilliseconds) ||
      proposed.issuedAtUnixMilliseconds == existing.issuedAtUnixMilliseconds &&
        existing.secretVerifier == proposed.secretVerifier &&
        existing.expiresAtUnixSeconds == proposed.expiresAtUnixSeconds &&
        existing.leaseId == proposed.leaseId &&
        existing.continuityId == proposed.continuityId &&
        existing.lastMonotonicMilliseconds == proposed.lastMonotonicMilliseconds &&
        existing.renewAtMonotonicMilliseconds == proposed.renewAtMonotonicMilliseconds &&
        existing.leaseExpiresAtMonotonicMilliseconds ==
          proposed.leaseExpiresAtMonotonicMilliseconds)

/-- `register`. -/
def register (registry : StratumRegistry) (credentials : StratumSessionCredentials) :
    Except StratumV1Error StratumRegistry := do
  let proposed ← proposedRow secretVerifier credentials
  match registry.sessions.lookup credentials.sessionId with
  | some existing =>
      if supersedes existing proposed then
        .ok { registry with
          sessions := registry.sessions.updateRow credentials.sessionId fun _ => proposed }
      else .error .conflictingSessionReplay
  | none =>
      if registry.sessions.entries.any fun entry => entry.2.username == credentials.username then
        .error .conflictingSessionReplay
      else .ok { registry with
        sessions := registry.sessions.insert credentials.sessionId proposed }

/-- The condition under which an extension moves a registration on, or repeats what it says. -/
def isExtendedBy (row : StratumSessionRow) (extension : StratumSessionExtension)
    (leaseUuid : String) (nowUnixSeconds : ℕ) : Bool :=
  let context := extension.leaseContext
  row.leaseId == leaseUuid && row.continuityId == context.continuityId &&
    (decide (row.issuedAtUnixMilliseconds < extension.issuedAtUnixMilliseconds) &&
        decide (nowUnixSeconds < row.expiresAtUnixSeconds) &&
        decide (row.expiresAtUnixSeconds ≤ extension.expiresAtUnixSeconds) &&
        decide (row.lastMonotonicMilliseconds ≤ context.lastMonotonicMilliseconds) &&
        decide (row.leaseExpiresAtMonotonicMilliseconds ≤
          context.expiresAtMonotonicMilliseconds) ||
      row.issuedAtUnixMilliseconds == extension.issuedAtUnixMilliseconds &&
        row.expiresAtUnixSeconds == extension.expiresAtUnixSeconds &&
        row.lastMonotonicMilliseconds == context.lastMonotonicMilliseconds &&
        row.renewAtMonotonicMilliseconds == context.renewAtMonotonicMilliseconds &&
        row.leaseExpiresAtMonotonicMilliseconds == context.expiresAtMonotonicMilliseconds)

/-- The row an extension leaves. -/
def extendedRow (extension : StratumSessionExtension) (row : StratumSessionRow) :
    StratumSessionRow :=
  { row with
    issuedAtUnixSeconds := extension.issuedAtUnixMilliseconds / 1000
    issuedAtUnixMilliseconds := extension.issuedAtUnixMilliseconds
    expiresAtUnixSeconds := extension.expiresAtUnixSeconds
    lastMonotonicMilliseconds := extension.leaseContext.lastMonotonicMilliseconds
    renewAtMonotonicMilliseconds := extension.leaseContext.renewAtMonotonicMilliseconds
    leaseExpiresAtMonotonicMilliseconds := extension.leaseContext.expiresAtMonotonicMilliseconds
    secondsMatch := rfl }

/-- The UUID of an extension's lease, once its parameters are bound. -/
def boundLease (extension : StratumSessionExtension) (nowUnixSeconds : ℕ) :
    Except StratumV1Error String := do
  let context := extension.leaseContext
  let _ ← toI64 extension.issuedAtUnixMilliseconds
  let _ ← toI64 extension.expiresAtUnixSeconds
  let _ ← toI64 context.lastMonotonicMilliseconds
  let _ ← toI64 context.renewAtMonotonicMilliseconds
  let _ ← toI64 context.expiresAtMonotonicMilliseconds
  let _ ← toI64 nowUnixSeconds
  match castUuid context.leaseId with
  | none => .error .database
  | some leaseUuid => if storesText context.continuityId then .ok leaseUuid else .error .database

/-- `extend`. -/
def extend (registry : StratumRegistry) (extension : StratumSessionExtension)
    (nowUnixSeconds : ℕ) : Except StratumV1Error StratumRegistry := do
  let leaseUuid ← boundLease extension nowUnixSeconds
  match registry.sessions.lookup extension.sessionId with
  | none => .error .unextendableSession
  | some row =>
      if isExtendedBy row extension leaseUuid nowUnixSeconds then
        .ok { registry with
          sessions := registry.sessions.updateRow extension.sessionId (extendedRow extension) }
      else .error .unextendableSession

/-! ## Authentication and connections -/

/-- `authenticate`. -/
def authenticate (registry : StratumRegistry) (username secret : String) (nowUnixSeconds : ℕ) :
    Except StratumV1Error (Option AuthenticatedStratumSession) :=
  match registry.sessions.entries.find? fun entry => entry.2.username == username with
  | none => .ok none
  | some ⟨sessionId, row⟩ =>
      if row.expiresAtUnixSeconds ≤ nowUnixSeconds ∨
          secretVerifier secret ≠ row.secretVerifier then .ok none
      else do
        let leaseContext ← StratumLeaseContext.new deps row.leaseId row.continuityId
          row.lastMonotonicMilliseconds row.renewAtMonotonicMilliseconds
          row.leaseExpiresAtMonotonicMilliseconds
        return some ⟨sessionId, leaseContext, row.issuedAtUnixMilliseconds,
          row.expiresAtUnixSeconds⟩

/-- `canonical_extranonce`. -/
def canonicalExtranonce (connectionId extranonce1 : String) : Except StratumV1Error String :=
  if !deps.parsesUuid connectionId then .error .invalidSessionConfig
  else if extranonce1.isEmpty || decide (64 < extranonce1.utf8ByteSize) ||
      extranonce1.utf8ByteSize % 2 != 0 ||
      !extranonce1.toList.all (fun character => character.isDigit ||
        decide ('a' ≤ character ∧ character ≤ 'f') ||
        decide ('A' ≤ character ∧ character ≤ 'F')) then .error .invalidExtranonce
  else .ok (extranonce1.map Char.toLower)

/-- `reserve_extranonce` for a session, `reserve_connection` for none yet. -/
def reserve (registry : StratumRegistry) (connectionId extranonce1 : String)
    (maybeSessionId : Option WorkSessionId) (nowUnixSeconds : ℕ) :
    Except StratumV1Error StratumRegistry := do
  let canonical ← canonicalExtranonce deps connectionId extranonce1
  let reservedAt ← toI64 nowUnixSeconds
  match castUuid connectionId with
  | none => .error .database
  | some connectionUuid =>
    if reservedAt == 0 then .error .database
    else match registry.connections.lookup connectionUuid with
      | some existing =>
          if existing = ⟨maybeSessionId, canonical, reservedAt⟩ then .ok registry
          else .error .extranonceCollision
      | none =>
          if registry.connections.entries.any fun entry => entry.2.extranonce1 == canonical then
            .error .extranonceCollision
          else if maybeSessionId.any fun sessionId => decide (sessionId ∉ registry.sessions) then
            .error .database
          else .ok { registry with
            connections := registry.connections.insert connectionUuid
              ⟨maybeSessionId, canonical, reservedAt⟩ }

/-- `bind_connection`. -/
def bindConnection (registry : StratumRegistry) (connectionId : String)
    (sessionId : WorkSessionId) : Except StratumV1Error StratumRegistry :=
  if !deps.parsesUuid connectionId then .error .invalidSessionConfig
  else match castUuid connectionId with
    | none => .error .database
    | some connectionUuid =>
      match registry.connections.lookup connectionUuid with
      | none => .error .extranonceCollision
      | some connection =>
          if connection.maybeSessionId ≠ none ∧ connection.maybeSessionId ≠ some sessionId then
            .error .extranonceCollision
          else if sessionId ∉ registry.sessions then .error .database
          else .ok { registry with
            connections := registry.connections.updateRow connectionUuid fun row =>
              { row with maybeSessionId := some sessionId } }

/-- `release_unbound_connection`. -/
def releaseUnboundConnection (registry : StratumRegistry) (connectionId : String) :
    Except StratumV1Error StratumRegistry :=
  if !deps.parsesUuid connectionId then .error .invalidSessionConfig
  else match castUuid connectionId with
    | none => .error .database
    | some connectionUuid =>
        .ok { registry with
          connections := registry.connections.keepRows fun key row =>
            !(key == connectionUuid && row.maybeSessionId == none) }

end

end StratumRegistry

/-! ## The registry as a machine -/

/-- The calls of the registry. -/
inductive RegistryRequest
  | register (credentials : StratumSessionCredentials)
  | extend (extension : StratumSessionExtension) (nowUnixSeconds : ℕ)
  | authenticate (username secret : String) (nowUnixSeconds : ℕ)
  | reserve (connectionId extranonce1 : String) (maybeSessionId : Option WorkSessionId)
      (nowUnixSeconds : ℕ)
  | bindConnection (connectionId : String) (sessionId : WorkSessionId)
  | releaseUnboundConnection (connectionId : String)

inductive RegistryReply
  | refused (error : StratumV1Error)
  | done
  | authenticated (maybeSession : Option AuthenticatedStratumSession)

/-- Every call is one statement, and a refused one writes nothing. -/
def registryAnswer (registry : StratumRegistry) (written : Except StratumV1Error StratumRegistry) :
    StratumRegistry × RegistryReply :=
  match written with
  | .ok after => (after, .done)
  | .error error => (registry, .refused error)

/-- One call. -/
def registryStep (deps : Dependencies) (secretVerifier : String → String)
    (registry : StratumRegistry) : RegistryRequest → StratumRegistry × RegistryReply
  | .register credentials => registryAnswer registry (registry.register secretVerifier credentials)
  | .extend extension now => registryAnswer registry (registry.extend extension now)
  | .authenticate username secret now =>
      (registry, match registry.authenticate deps secretVerifier username secret now with
        | .ok maybeSession => .authenticated maybeSession
        | .error error => .refused error)
  | .reserve connectionId extranonce1 maybeSessionId now =>
      registryAnswer registry (registry.reserve deps connectionId extranonce1 maybeSessionId now)
  | .bindConnection connectionId sessionId =>
      registryAnswer registry (registry.bindConnection deps connectionId sessionId)
  | .releaseUnboundConnection connectionId =>
      registryAnswer registry (registry.releaseUnboundConnection deps connectionId)

/-- The session registry: any call may come at any time. -/
def stratumRegistry (deps : Dependencies) (secretVerifier : String → String) :
    Machine StratumRegistry RegistryRequest RegistryReply where
  init := ⟨∅, ∅⟩
  admits := fun _ _ _ => True
  step := registryStep deps secretVerifier

end WorkGate
