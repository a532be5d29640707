/-
# The clocks of credentials (src/stratum_v1/credentials.rs)

Credentials end at a second of the wall clock, and the lease behind them at a millisecond of the
Worker's own clock.  A live session moves the reading of the second clock by what has passed on
the first.  While the credentials last, that reading stays inside the lease.
-/

import WorkGate.Stratum.Registry

namespace WorkGate

open WorkGate.Library

/-! ## Configurations -/

/-- `checked_mul(1_000)`. -/
def secondsToMilliseconds (seconds : ℕ) : Except StratumV1Error ℕ :=
  if seconds * 1000 < 2 ^ 64 then .ok (seconds * 1000) else .error .invalidSessionConfig

/-- `StratumSessionConfig::new`. -/
def StratumSessionConfig.new (sessionId : WorkSessionId) (leaseContext : StratumLeaseContext)
    (username secret : String) (now leaseExpiresAt challengeExpiresAt : ℕ) :
    Except StratumV1Error StratumSessionConfig := do
  if username.isEmpty || secret.isEmpty then .error .invalidSessionConfig
  else do
    let issuedAt ← secondsToMilliseconds now
    let expiresAt ← boundedSessionExpiry leaseContext now leaseExpiresAt challengeExpiresAt
    .ok {
      sessionId
      leaseContext
      username
      secret
      upstreamUsername := username
      upstreamSecret := secret
      issuedAtUnixMilliseconds := issuedAt
      expiresAtUnixSeconds := expiresAt }

/-! ## The window -/

/-- An expiry inside every bound, before which the lease can be read at any time. -/
structure ClocksInRange (leaseContext : StratumLeaseContext)
    (issuedAt expiresAt leaseExpiresAt challengeExpiresAt : ℕ) : Prop where
  le_lease : expiresAt ≤ leaseExpiresAt
  le_challenge : expiresAt ≤ challengeExpiresAt
  le_issue : expiresAt * 1000 ≤ issuedAt + 60 * 1000
  advances : ∀ now, issuedAt ≤ now → now / 1000 < expiresAt →
    ∃ advanced, leaseContext.advancedByWallClock issuedAt now = .ok advanced ∧
      leaseContext.lastMonotonicMilliseconds ≤ advanced.lastMonotonicMilliseconds ∧
      advanced.lastMonotonicMilliseconds < leaseContext.expiresAtMonotonicMilliseconds

/-- A reading inside the lease is taken. -/
theorem StratumLeaseContext.exists_advanced {leaseContext : StratumLeaseContext}
    {issuedAt now : ℕ} (hlater : issuedAt ≤ now)
    (hword : leaseContext.expiresAtMonotonicMilliseconds < 2 ^ 64)
    (hinside : leaseContext.lastMonotonicMilliseconds + (now - issuedAt) <
      leaseContext.expiresAtMonotonicMilliseconds) :
    ∃ advanced, leaseContext.advancedByWallClock issuedAt now = .ok advanced := by
  rw [advancedByWallClock, if_neg (Nat.not_lt.mpr hlater)]
  dsimp only
  rw [if_neg (by omega), dif_pos hinside]
  exact ⟨_, rfl⟩

/-- What the bounds on the seconds say of the milliseconds: rounding the issue down and the lease
down leaves room for what was cut off. -/
theorem clocksInRange_of_boundedSessionExpiry {leaseContext : StratumLeaseContext}
    {issuedAt leaseExpiresAt challengeExpiresAt expiresAt : ℕ}
    (hword : leaseContext.expiresAtMonotonicMilliseconds < 2 ^ 64)
    (h : boundedSessionExpiry leaseContext (issuedAt / 1000) leaseExpiresAt challengeExpiresAt =
      .ok expiresAt) :
    ClocksInRange leaseContext issuedAt expiresAt leaseExpiresAt challengeExpiresAt := by
  rw [boundedSessionExpiry] at h
  obtain ⟨hbounds, hexpiry⟩ := guard_eq_ok h
  rw [maximumSessionCredentialSeconds, Except.ok.inj hexpiry] at hbounds
  have hmin : expiresAt = min leaseExpiresAt challengeExpiresAt := (Except.ok.inj hexpiry).symm
  have hlast := leaseContext.last_lt_expiresAt
  refine ⟨by omega, by omega, by omega, ?_⟩
  intro now hlater hnow
  have hinside : leaseContext.lastMonotonicMilliseconds + (now - issuedAt) <
      leaseContext.expiresAtMonotonicMilliseconds := by omega
  obtain ⟨advanced, hadvanced⟩ := StratumLeaseContext.exists_advanced hlater hword hinside
  have hrange := StratumLeaseContext.advancedByWallClock_eq_ok hadvanced
  exact ⟨advanced, hadvanced, hrange.1, hrange.2.1⟩

/-- Issued credentials, an extension and a configuration have their clocks in range; the end of a
lease is a `u64`. -/
theorem credentialClocks_inRange {leaseContext : StratumLeaseContext}
    {leaseExpiresAt challengeExpiresAt : ℕ}
    (hword : leaseContext.expiresAtMonotonicMilliseconds < 2 ^ 64) :
    (∀ (issuer : StratumCredentialIssuer) (sessionId : WorkSessionId) (now : ℕ)
        (credentials : StratumSessionCredentials),
      issuer.issueAtMilliseconds sessionId leaseContext now leaseExpiresAt challengeExpiresAt =
        .ok credentials →
      credentials.leaseContext = leaseContext ∧ ClocksInRange leaseContext
        credentials.issuedAtUnixMilliseconds credentials.expiresAtUnixSeconds leaseExpiresAt
        challengeExpiresAt) ∧
    (∀ (sessionId : WorkSessionId) (now : ℕ) (extension : StratumSessionExtension),
      StratumSessionExtension.new sessionId leaseContext now leaseExpiresAt challengeExpiresAt =
        .ok extension →
      extension.leaseContext = leaseContext ∧ ClocksInRange leaseContext
        extension.issuedAtUnixMilliseconds extension.expiresAtUnixSeconds leaseExpiresAt
        challengeExpiresAt) ∧
    ∀ (sessionId : WorkSessionId) (username secret : String) (now : ℕ)
        (config : StratumSessionConfig),
      StratumSessionConfig.new sessionId leaseContext username secret now leaseExpiresAt
        challengeExpiresAt = .ok config →
      config.leaseContext = leaseContext ∧ ClocksInRange leaseContext
        config.issuedAtUnixMilliseconds config.expiresAtUnixSeconds leaseExpiresAt
        challengeExpiresAt := by
  refine ⟨?credentials, ?extension, ?config⟩
  case credentials =>
    intro issuer sessionId now credentials h
    obtain ⟨expiresAt, hexpiry, hcredentials⟩ := bind_eq_ok.mp h
    cases hcredentials
    exact ⟨rfl, clocksInRange_of_boundedSessionExpiry hword hexpiry⟩
  case extension =>
    intro sessionId now extension h
    obtain ⟨expiresAt, hexpiry, hextension⟩ := bind_eq_ok.mp h
    cases hextension
    exact ⟨rfl, clocksInRange_of_boundedSessionExpiry hword hexpiry⟩
  case config =>
    intro sessionId username secret now config h
    rw [StratumSessionConfig.new] at h
    obtain ⟨-, h⟩ := guard_eq_ok h
    obtain ⟨issuedAt, hissued, h⟩ := bind_eq_ok.mp h
    obtain ⟨expiresAt, hexpiry, hconfig⟩ := bind_eq_ok.mp h
    cases hconfig
    rw [secondsToMilliseconds] at hissued
    split at hissued
    · cases hissued
      have hseconds : now * 1000 / 1000 = now := Nat.mul_div_cancel now (by decide)
      rw [← hseconds] at hexpiry
      exact ⟨rfl, clocksInRange_of_boundedSessionExpiry hword hexpiry⟩
    · cases hissued

/-- A lease of just under 61 seconds, granted half a second into the tenth second. -/
def shortLease : StratumLeaseContext :=
  ⟨"3f0c1a52-6d0e-4b7a-9a41-2f5d8c7e9b10", "boot-1", 1500, 20000, 62499, by decide⟩

def shortSession : WorkSessionId := ⟨"session_1", validSession_1⟩

theorem shortLease_inRange :
    ClocksInRange shortLease 10500 70 70 90 ∧ ClocksInRange shortLease 10500 70 90 70 ∧
      ClocksInRange shortLease 10000 70 70 70 := by
  have hword : shortLease.expiresAtMonotonicMilliseconds < 2 ^ 64 := by decide
  refine ⟨?_, ?_, ?_⟩
  · exact ((@credentialClocks_inRange shortLease 70 90 hword).1 ⟨fun _ => "bwg_1", fun _ _ _ _ _ => "secret"⟩
      shortSession 10500 _ rfl).2
  · exact ((@credentialClocks_inRange shortLease 90 70 hword).2.1 shortSession 10500 _ rfl).2
  · exact ((@credentialClocks_inRange shortLease 70 70 hword).2.2 shortSession "worker" "secret" 10 _ rfl).2

end WorkGate
