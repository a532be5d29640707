/-
# Trusted consent over whole runs

What a request captured may be old when it uses it, but the columns it captured never
change once a ceremony was initialized.  So every request under way still knows the start
and the deadline of the ceremony it works on, and that is what the writers that check no
deadline themselves rely on.
-/

import WorkGate.Authority.CeremonyMoves
import WorkGate.Authority.Consent

namespace WorkGate

open WorkGate.Library

variable {config : ConsentConfig}

namespace CeremonyTable

/-- A ceremony that was initialized, with its start and its deadline. -/
def Stands (table : CeremonyTable) (ceremonyId : TrustedConsentCeremonyId)
    (createdAt expiresAt : ℕ) : Prop :=
  ∃ row, table.rows.lookup ceremonyId.text = some row ∧ row.status ≠ .starting ∧
    row.createdAtUnixSeconds = createdAt ∧ row.expiresAtUnixSeconds = expiresAt

/-- A verified ceremony with its receipt. -/
def Receipted (table : CeremonyTable) (key compactReceipt : String) : Prop :=
  ∃ row, table.rows.lookup key = some row ∧ row.status = .verified ∧
    row.trustedConsentReceipt = some compactReceipt

/-- What a terminal ceremony keeps: everything, except that a verified one may still get its
receipt. -/
def KeepsTerminal (before after : CeremonyTable) : Prop :=
  ∀ key row, before.rows.lookup key = some row →
    (row.status = .failed → after.rows.lookup key = some row) ∧
    (row.status = .verified → ∃ kept, after.rows.lookup key = some kept ∧
      kept.status = .verified ∧ kept.verifiedAtUnixSeconds = row.verifiedAtUnixSeconds ∧
      (row.trustedConsentReceipt ≠ none → kept = row))

/-- No two ceremonies confirm the same terms. -/
def OneCeremonyPerTerms (table : CeremonyTable) : Prop :=
  ∀ key row other otherRow, table.rows.lookup key = some row →
    table.rows.lookup other = some otherRow → row.terms = otherRow.terms → key = other

/-- Every row is read back. -/
def Readable (parseUrl : String → Option Url) (table : CeremonyTable) : Prop :=
  ∀ key row, table.rows.lookup key = some row →
    ∃ record, row.record parseUrl key = .ok record

variable {parseUrl : String → Option Url} {challenges : Rows ChallengeId ChallengeRow}
  {completion : Option CeremonyCompletion} {before after table : CeremonyTable}

/-- The unique constraint. -/
theorem oneCeremonyPerTerms (table : CeremonyTable) : table.OneCeremonyPerTerms := by
  intro key row other otherRow hrow hother hterms
  have hmem := Rows.mem_entries_iff.mpr hrow
  have hmemOther := Rows.mem_entries_iff.mpr hother
  have hsame := List.inj_on_of_nodup_map table.unique hmem hmemOther hterms
  exact congrArg Sigma.fst hsame

theorem checked_of_lookup {key : String} {row : TrustedConsentRow}
    (hrow : table.rows.lookup key = some row) : row.satisfiesChecks key = true :=
  table.checked ⟨key, row⟩ (Rows.mem_entries_iff.mpr hrow)

theorem Sound.readable (hsound : table.Sound parseUrl) : table.Readable parseUrl := by
  intro key row hrow
  exact TrustedConsentRow.exists_record (hsound key row hrow) (checked_of_lookup hrow)

theorem stands_of_shows {key : String} {row : TrustedConsentRow}
    {record : TrustedConsentCeremonyRecord parseUrl} {ceremonyId : TrustedConsentCeremonyId}
    (hrow : table.rows.lookup ceremonyId.text = some row)
    (hshows : TrustedConsentRow.Shows key row record) (hstatus : record.status ≠ .starting) :
    table.Stands ceremonyId record.ceremony.createdAtUnixSeconds
      record.ceremony.expiresAtUnixSeconds :=
  ⟨row, hrow, hshows.status ▸ hstatus, hshows.createdAt.symm, hshows.expiresAt.symm⟩

end CeremonyTable

namespace CeremonyMoves

open CeremonyTable

variable {parseUrl : String → Option Url} {challenges : Rows ChallengeId ChallengeRow}
  {completion : Option CeremonyCompletion} {before after : CeremonyTable}

theorem stands (hmoves : CeremonyMoves parseUrl challenges completion before after)
    {ceremonyId : TrustedConsentCeremonyId} {createdAt expiresAt : ℕ}
    (hstands : before.Stands ceremonyId createdAt expiresAt) :
    after.Stands ceremonyId createdAt expiresAt := by
  obtain ⟨row, hrow, hstatus, hcreated, hexpires⟩ := hstands
  have hmove := hmoves ceremonyId.text
  rw [hrow] at hmove
  generalize hafter : after.rows.lookup ceremonyId.text = maybeRow at hmove
  cases hmove with
  | keeps => exact ⟨row, hafter, hstatus, hcreated, hexpires⟩
  | deletes hstarting => exact absurd hstarting hstatus
  | initializes hstarting creationOptions registrationState => exact absurd hstarting hstatus
  | claims hpending owner hlease => exact ⟨_, hafter, by simp [TrustedConsentRow.claimed],
      hcreated, hexpires⟩
  | verifies => exact ⟨_, hafter, by simp [TrustedConsentRow.verifiedAt], hcreated, hexpires⟩
  | fails => exact ⟨_, hafter, by simp [TrustedConsentRow.failedAt], hcreated, hexpires⟩
  | receives => exact ⟨_, hafter, hstatus, hcreated, hexpires⟩

/-- One call keeps terminal ceremonies. -/
theorem keepsTerminal (hmoves : CeremonyMoves parseUrl challenges completion before after) :
    before.KeepsTerminal after := by
  intro key row hrow
  have hmove := hmoves key
  rw [hrow] at hmove
  generalize hafter : after.rows.lookup key = maybeRow at hmove
  cases hmove with
  | keeps => exact ⟨fun _ => rfl, fun hverified => ⟨row, rfl, hverified, rfl, fun _ => rfl⟩⟩
  | deletes hstarting => exact ⟨by simp [hstarting], by simp [hstarting]⟩
  | initializes hstarting creationOptions registrationState =>
      exact ⟨by simp [hstarting], by simp [hstarting]⟩
  | claims hpending owner hlease => exact ⟨by simp [hpending], by simp [hpending]⟩
  | verifies _ _ hverifying => exact ⟨by simp [hverifying], by simp [hverifying]⟩
  | fails hopen hcreated =>
      rcases hopen with hpending | hverifying
      · exact ⟨by simp [hpending], by simp [hpending]⟩
      · exact ⟨by simp [hverifying], by simp [hverifying]⟩
  | receives hverified hnone compactReceipt issuedAt expiresAt =>
      refine ⟨by simp [hverified], ?_⟩
      intro _
      exact ⟨_, rfl, hverified, rfl, fun hreceipt => absurd hnone hreceipt⟩

end CeremonyMoves

namespace CeremonyTable

variable {before middle after table : CeremonyTable}

theorem KeepsTerminal.refl : table.KeepsTerminal table := by
  intro key row hrow
  exact ⟨fun _ => hrow, fun hverified => ⟨row, hrow, hverified, rfl, fun _ => rfl⟩⟩

theorem KeepsTerminal.trans (first : before.KeepsTerminal middle)
    (second : middle.KeepsTerminal after) : before.KeepsTerminal after := by
  intro key row hrow
  obtain ⟨hfailed, hverified⟩ := first key row hrow
  refine ⟨?_, ?_⟩
  · intro hstatus
    exact (second key row (hfailed hstatus)).1 hstatus
  · intro hstatus
    obtain ⟨kept, hkept, hkeptStatus, hinstant, hsame⟩ := hverified hstatus
    obtain ⟨last, hlast, hlastStatus, hlastInstant, hlastSame⟩ :=
      (second key kept hkept).2 hkeptStatus
    refine ⟨last, hlast, hlastStatus, hlastInstant.trans hinstant, ?_⟩
    intro hreceipt
    have hmiddle := hsame hreceipt
    subst hmiddle
    exact hlastSame hreceipt

/-- A receipt stays. -/
theorem Receipted.keeps {key compactReceipt : String} (hkeeps : before.KeepsTerminal after)
    (hreceipt : before.Receipted key compactReceipt) : after.Receipted key compactReceipt := by
  obtain ⟨row, hrow, hverified, hsome⟩ := hreceipt
  obtain ⟨kept, hkept, hstatus, -, hsame⟩ := (hkeeps key row hrow).2 hverified
  have hrowKept := hsame (by simp [hsome])
  subst hrowKept
  exact ⟨kept, hkept, hstatus, hsome⟩

/-- A receipt stands on a verified ceremony only. -/
theorem receipted_of_lookup {key compactReceipt : String} {row : TrustedConsentRow}
    (hrow : table.rows.lookup key = some row)
    (hreceipt : row.trustedConsentReceipt = some compactReceipt) :
    table.Receipted key compactReceipt := by
  have hchecks := checked_of_lookup hrow
  simp only [TrustedConsentRow.satisfiesChecks, TrustedConsentRow.receiptCheck, hreceipt,
    Bool.and_eq_true, decide_eq_true_eq] at hchecks
  exact ⟨row, hrow, hchecks.2.1.1.1, hreceipt⟩

theorem receipted_of_maybeReceipt {ceremonyId : TrustedConsentCeremonyId}
    {compactReceipt : String} (h : table.maybeReceipt ceremonyId = some compactReceipt) :
    table.Receipted ceremonyId.text compactReceipt := by
  rw [maybeReceipt, Option.bind_eq_some_iff] at h
  obtain ⟨row, hrow, h⟩ := h
  split at h
  · next hverified => exact ⟨row, hrow, hverified, h⟩
  · cases h

theorem maybeReceipt_of_receipted {ceremonyId : TrustedConsentCeremonyId}
    {compactReceipt : String} (h : table.Receipted ceremonyId.text compactReceipt) :
    table.maybeReceipt ceremonyId = some compactReceipt := by
  obtain ⟨row, hrow, hverified, hreceipt⟩ := h
  simp [maybeReceipt, hrow, hverified, hreceipt]

/-- What `persist_receipt` answers is the receipt the ceremony has. -/
theorem receipted_of_persistReceipt {ceremonyId : TrustedConsentCeremonyId}
    {compactReceipt persisted : String} {issuedAt expiresAt : ℕ}
    (h : (table.persistReceipt ceremonyId compactReceipt issuedAt expiresAt).2 =
      .ok persisted) :
    (table.persistReceipt ceremonyId compactReceipt issuedAt expiresAt).1.Receipted
      ceremonyId.text persisted := by
  unfold persistReceipt at h ⊢
  split at h
  · cases h
  · cases h
  · next issued expires _ _ =>
      simp only at h ⊢
      split at h
      · cases h
      · next written row hwritten =>
          rcases updateWhere_eq_ok hwritten with ⟨-, hnone, -⟩ | ⟨found, hfound, -, hsome, hrows⟩
          · cases hnone
          · cases hsome
            cases h
            have hlookup : written.rows.lookup ceremonyId.text =
                some (found.receipted compactReceipt issued expires) := by
              rw [hrows, Rows.lookup_updateRow, hfound, Option.map_some]
            refine receipted_of_lookup hlookup ?_
            simp only [TrustedConsentRow.receipted]
            cases found.trustedConsentReceipt with
            | none => rfl
            | some receipt => rfl
      · split at h
        · next receipt hreceipt =>
            cases h
            exact receipted_of_maybeReceipt hreceipt
        · cases h

/-- A claim answers with the ceremony it claimed. -/
theorem stands_of_claimed {parseUrl : String → Option Url}
    {ceremonyId : TrustedConsentCeremonyId} {owner : TrustedConsentOperationOwner}
    {now leaseExpiresAt : ℕ} {record : TrustedConsentCeremonyRecord parseUrl}
    (h : (table.claimVerification parseUrl ceremonyId owner now leaseExpiresAt).2 =
      .ok (.claimed record)) :
    (table.claimVerification parseUrl ceremonyId owner now leaseExpiresAt).1.Stands ceremonyId
      record.ceremony.createdAtUnixSeconds record.ceremony.expiresAtUnixSeconds := by
  unfold claimVerification at h ⊢
  split at h
  · cases h
  · simp only at h ⊢
    split at h
    · cases h
    · cases h
    · split at h
      · cases h
      · next lease _ =>
        split at h
        · cases h
        · next claimed row hclaimed =>
            obtain ⟨found, hfound, hsame⟩ := map_eq_ok.mp h
            cases hsame
            have hshows := TrustedConsentRow.shows_of_record hfound
            rcases updateWhere_eq_ok hclaimed with ⟨-, hnone, -⟩ | ⟨prior, hprior, -, hsome, hrows⟩
            · cases hnone
            · cases hsome
              have hlookup : claimed.rows.lookup ceremonyId.text =
                  some (prior.claimed owner lease) := by
                rw [hrows, Rows.lookup_updateRow, hprior, Option.map_some]
              refine stands_of_shows hlookup hshows ?_
              rw [hshows.status]
              simp [TrustedConsentRow.claimed]
        · next unclaimed hunclaimed =>
            unfold claimedElsewhere at h
            split at h
            · cases h
            · cases h
            · cases h
            · cases h

end CeremonyTable

/-! ## Requests under way -/

section Requests

variable {parseUrl : String → Option Url} {challenges : Rows ChallengeId ChallengeRow}
  {completion : Option CeremonyCompletion} {before after table : CeremonyTable} {clock : ℕ}

/-- What a request under way still knows of its ceremony and of the clock. -/
def ConsentProgress.Sound (table : CeremonyTable) (clock : ℕ) : ConsentProgress parseUrl → Prop
  | .finishRetire call | .finishCeremony call => call.now ≤ clock
  | .finishLifecycle call ceremony => call.now ≤ clock ∧
      table.Stands call.ceremonyId ceremony.createdAtUnixSeconds ceremony.expiresAtUnixSeconds
  | .finishClaim call _ leaseExpiresAt => call.now ≤ clock ∧ call.now < leaseExpiresAt ∧
      ∃ createdAt expiresAt, table.Stands call.ceremonyId createdAt expiresAt ∧
        createdAt ≤ call.now
  | .finishVerifier call ceremony _ _ _ => ceremony.createdAtUnixSeconds ≤ clock ∧
      table.Stands call.ceremonyId ceremony.createdAtUnixSeconds ceremony.expiresAtUnixSeconds
  | .finishFail call _ failedAt _ => ∃ createdAt expiresAt,
      table.Stands call.ceremonyId createdAt expiresAt ∧ createdAt ≤ failedAt
  | .finishAccepts call _ _ completedAt | .finishComplete call _ completedAt =>
      completedAt ≤ clock ∧ ∃ createdAt expiresAt,
        table.Stands call.ceremonyId createdAt expiresAt ∧ createdAt ≤ completedAt ∧
          completedAt < expiresAt
  | _ => True

/-- A receipt that was answered is the receipt of its ceremony. -/
def AnswerSound (table : CeremonyTable) :
    Except AuthorityApplicationError ConsentResponse → Prop
  | .ok (.finished response) =>
      table.Receipted response.ceremonyId response.trustedConsentReceipt
  | _ => True

/-- What a step comes to is sound. -/
def ConsentOutcome.Sound (table : CeremonyTable) (clock : ℕ) : ConsentOutcome parseUrl → Prop
  | .goesOn progress => progress.Sound table clock
  | .answers answer => AnswerSound table answer

/-- What a request knows stays true while others move the table and the clock goes on. -/
theorem ConsentProgress.Sound.later {later : ℕ} {progress : ConsentProgress parseUrl}
    (hsound : progress.Sound before clock)
    (hmoves : CeremonyMoves parseUrl challenges completion before after)
    (hclock : clock ≤ later) : progress.Sound after later := by
  cases progress with
  | finishRetire call => exact hsound.trans hclock
  | finishCeremony call => exact hsound.trans hclock
  | finishLifecycle call ceremony => exact ⟨hsound.1.trans hclock, hmoves.stands hsound.2⟩
  | finishClaim call owner leaseExpiresAt =>
      obtain ⟨hnow, hlease, createdAt, expiresAt, hstands, hcreated⟩ := hsound
      exact ⟨hnow.trans hclock, hlease, createdAt, expiresAt, hmoves.stands hstands, hcreated⟩
  | finishVerifier call ceremony registrationState owner leaseExpiresAt =>
      exact ⟨hsound.1.trans hclock, hmoves.stands hsound.2⟩
  | finishFail call owner failedAt error =>
      obtain ⟨createdAt, expiresAt, hstands, hcreated⟩ := hsound
      exact ⟨createdAt, expiresAt, hmoves.stands hstands, hcreated⟩
  | finishAccepts call reason owner completedAt =>
      obtain ⟨hcompleted, createdAt, expiresAt, hstands, hwindow⟩ := hsound
      exact ⟨hcompleted.trans hclock, createdAt, expiresAt, hmoves.stands hstands, hwindow⟩
  | finishComplete call owner completedAt =>
      obtain ⟨hcompleted, createdAt, expiresAt, hstands, hwindow⟩ := hsound
      exact ⟨hcompleted.trans hclock, createdAt, expiresAt, hmoves.stands hstands, hwindow⟩
  | beginRetire => trivial
  | beginChallenge => trivial
  | beginLifecycle => trivial
  | beginConfirmation => trivial
  | beginExisting => trivial
  | beginReserve => trivial
  | beginVerifier => trivial
  | beginAbandon => trivial
  | beginInitialize => trivial
  | finishReceipt => trivial
  | finishPersist => trivial

/-- A start and a deadline that stand are those of the row. -/
theorem CeremonyTable.Stands.unique {ceremonyId : TrustedConsentCeremonyId}
    {createdAt expiresAt : ℕ} (hstands : table.Stands ceremonyId createdAt expiresAt)
    {row : TrustedConsentRow} (hrow : table.rows.lookup ceremonyId.text = some row) :
    row.createdAtUnixSeconds = createdAt ∧ row.expiresAtUnixSeconds = expiresAt := by
  obtain ⟨found, hfound, -, hcreated, hexpires⟩ := hstands
  rw [hrow] at hfound
  cases hfound
  exact ⟨hcreated, hexpires⟩

end Requests

/-- The completion a step of a request runs. -/
def ConsentProgress.completion {parseUrl : String → Option Url} :
    ConsentProgress parseUrl → Option CeremonyCompletion
  | .finishComplete call owner completedAt => some ⟨call.ceremonyId, owner, completedAt⟩
  | _ => none

namespace ConsentState

variable (state : ConsentState config.parseUrl)

/-- The completion an event runs. -/
def completion : ConsentEvent config.parseUrl → Option CeremonyCompletion
  | .proceed requestId _ => (state.requests.lookup requestId).bind ConsentProgress.completion
  | _ => none

variable {state} {world : ConsentWorld config.parseUrl}
  {progress : ConsentProgress config.parseUrl}

/-- What one step of a request does to the ceremonies. -/
theorem moves_of_proceedWith (world : ConsentWorld config.parseUrl)
    (hsound : state.ceremonies.Sound config.parseUrl)
    (hprogress : progress.Sound state.ceremonies state.clock) :
    CeremonyMoves config.parseUrl state.authority.challenges progress.completion
      state.ceremonies (state.proceedWith world progress).1.ceremonies := by
  cases progress with
  | beginRetire call => exact CeremonyTable.moves_retireExpired hsound
  | beginChallenge call => exact .refl
  | beginLifecycle call challenge reason => exact .refl
  | beginConfirmation call challenge => exact .refl
  | beginExisting call challenge binding => exact .refl
  | beginReserve ceremony owner leaseExpiresAt => exact CeremonyTable.moves_reserve
  | beginVerifier ceremony owner => exact .refl
  | beginAbandon ceremony owner error => exact CeremonyTable.moves_abandon
  | beginInitialize ceremony owner started initializedAt =>
      exact CeremonyTable.moves_initializeCeremony
  | finishRetire call => exact CeremonyTable.moves_retireExpired hsound
  | finishCeremony call => exact .refl
  | finishLifecycle call ceremony => exact .refl
  | finishClaim call owner leaseExpiresAt =>
      obtain ⟨-, hlease, createdAt, expiresAt, hstands, hcreated⟩ := hprogress
      refine CeremonyTable.moves_claimVerification hsound ?_
      intro row hrow
      rw [(hstands.unique hrow).1]
      exact hcreated.trans_lt hlease
  | finishVerifier call ceremony registrationState owner leaseExpiresAt => exact .refl
  | finishFail call owner failedAt error =>
      obtain ⟨createdAt, expiresAt, hstands, hcreated⟩ := hprogress
      refine CeremonyTable.moves_fail ?_
      intro row hrow
      rw [(hstands.unique hrow).1]
      exact hcreated
  | finishAccepts call reason owner completedAt => exact .refl
  | finishComplete call owner completedAt =>
      obtain ⟨-, createdAt, expiresAt, hstands, hcreated, hexpires⟩ := hprogress
      refine CeremonyTable.moves_complete ?_
      intro row hrow
      rw [(hstands.unique hrow).1, (hstands.unique hrow).2]
      exact ⟨hcreated, hexpires⟩
  | finishReceipt ceremony => exact .refl
  | finishPersist ceremony compactReceipt issuedAt => exact CeremonyTable.moves_persistReceipt

/-! ### Outcomes -/

section Outcomes

variable {table : CeremonyTable} {clock : ℕ}

theorem sound_proceeds {α : Type} {decision : Except AuthorityApplicationError α}
    {next : α → ConsentOutcome config.parseUrl}
    (hnext : ∀ value, decision = .ok value → (next value).Sound table clock) :
    (ConsentOutcome.proceeds decision next).Sound table clock := by
  unfold ConsentOutcome.proceeds
  split
  · trivial
  · next value => exact hnext value rfl

theorem sound_callCeremonies {α : Type} {result : CeremonyResult α}
    {next : α → ConsentOutcome config.parseUrl}
    (hnext : ∀ value, result.2 = .ok value → (next value).Sound result.1 clock) :
    (state.callCeremonies result next).2.Sound
      (state.callCeremonies result next).1.ceremonies clock := by
  obtain ⟨after, answer⟩ := result
  cases answer with
  | error error => trivial
  | ok value => exact hnext value rfl

theorem sound_ensureChallengeAcceptsConsent {challengeId : ChallengeId} {now : ℕ}
    {reason : TrustedConsentReason} {next : Bool → ConsentOutcome config.parseUrl}
    (hnext : ∀ accepts, (next accepts).Sound state.ceremonies clock) :
    (state.ensureChallengeAcceptsConsent challengeId now reason next).2.Sound
      (state.ensureChallengeAcceptsConsent challengeId now reason next).1.ceremonies clock := by
  unfold ensureChallengeAcceptsConsent
  simp only
  split
  · trivial
  · exact hnext _

theorem sound_finishResponse {ceremony : TrustedConsentCeremony config.parseUrl} {now : ℕ} :
    (finishResponse ceremony now).Sound table clock := by
  unfold finishResponse
  split
  · trivial
  · trivial

theorem sound_matchBinding {call : BeginCall} {challenge : ConsentChallenge}
    {binding : TrustedConsentBinding config.parseUrl} :
    (matchBinding call challenge binding).Sound table clock := by
  unfold matchBinding
  split
  · trivial
  · trivial

theorem sound_beginResponse {record : TrustedConsentCeremonyRecord config.parseUrl} :
    AnswerSound table (beginResponse record) := by
  cases record with
  | starting => trivial
  | pending => trivial
  | verifying => trivial
  | verified => trivial
  | failed => trivial

theorem sound_finishRecord {call : FinishCall}
    {record : TrustedConsentCeremonyRecord config.parseUrl} (hnow : call.now ≤ clock)
    (hstands : record.status ≠ .starting → table.Stands call.ceremonyId
      record.ceremony.createdAtUnixSeconds record.ceremony.expiresAtUnixSeconds) :
    (finishRecord call record).Sound table clock := by
  unfold finishRecord
  split
  · trivial
  · cases record with
    | starting ceremony => trivial
    | pending ceremony creationOptions registrationState =>
        exact ⟨hnow, hstands (by simp [TrustedConsentCeremonyRecord.status])⟩
    | verifying ceremony creationOptions registrationState =>
        exact ⟨hnow, hstands (by simp [TrustedConsentCeremonyRecord.status])⟩
    | verified ceremony => exact sound_finishResponse
    | failed ceremony => trivial

theorem sound_finishAccepted {call : FinishCall}
    {ceremony : TrustedConsentCeremony config.parseUrl} {owner : TrustedConsentOperationOwner}
    (hnow : call.now ≤ clock) (hstands : table.Stands call.ceremonyId
      ceremony.createdAtUnixSeconds ceremony.expiresAtUnixSeconds) :
    (finishAccepted call ceremony owner).Sound table clock := by
  unfold finishAccepted
  split
  · trivial
  · next verified hverified =>
      obtain ⟨hcreated, -, -⟩ := TrustedConsentCeremony.verify_eq_ok hverified
      split
      · trivial
      · next leaseExpiresAt hlease =>
          unfold checkedDeadline at hlease
          split at hlease
          · cases hlease
            exact ⟨hnow, by simp [trustedConsentVerificationLeaseSeconds], _, _, hstands, hcreated⟩
          · cases hlease

theorem sound_finishVerified {call : FinishCall}
    {ceremony : TrustedConsentCeremony config.parseUrl} {owner : TrustedConsentOperationOwner}
    {leaseExpiresAt : ℕ} {answer : Except TrustedConsentError VerifiedWebauthn}
    (hcreated : ceremony.createdAtUnixSeconds ≤ clock) (hstands : table.Stands call.ceremonyId
      ceremony.createdAtUnixSeconds ceremony.expiresAtUnixSeconds) :
    (finishVerified call ceremony owner leaseExpiresAt clock answer).Sound table clock := by
  have hfails : ∃ createdAt expiresAt, table.Stands call.ceremonyId createdAt expiresAt ∧
      createdAt ≤ clock := ⟨_, _, hstands, hcreated⟩
  unfold finishVerified
  split
  · exact hfails
  · split
    · exact hfails
    · split
      · exact hfails
      · split
        · exact hfails
        · next verified hverified =>
            obtain ⟨-, hexpires, -⟩ := TrustedConsentCeremony.verify_eq_ok hverified
            exact ⟨le_rfl, _, _, hstands, hcreated, hexpires⟩

end Outcomes

/-- One step of a request comes to something sound. -/
theorem sound_of_proceedWith (world : ConsentWorld config.parseUrl)
    (hsound : state.ceremonies.Sound config.parseUrl)
    (hprogress : progress.Sound state.ceremonies state.clock) :
    (state.proceedWith world progress).2.Sound (state.proceedWith world progress).1.ceremonies
      state.clock := by
  have hmoves := moves_of_proceedWith world hsound hprogress
  cases progress with
  | beginRetire call => exact sound_callCeremonies fun _ _ => trivial
  | beginChallenge call =>
      simp only [proceedWith]
      split
      · trivial
      · refine sound_proceeds fun reason _ => ?_
        split
        · trivial
        · trivial
  | beginLifecycle call challenge reason =>
      refine sound_ensureChallengeAcceptsConsent fun accepts => ?_
      split
      · trivial
      · split
        · exact sound_proceeds fun _ _ => sound_matchBinding
        · trivial
  | beginConfirmation call challenge => exact sound_proceeds fun _ _ => sound_matchBinding
  | beginExisting call challenge binding =>
      simp only [proceedWith]
      split
      · trivial
      · exact sound_beginResponse
      · exact sound_proceeds fun _ _ => trivial
  | beginReserve ceremony owner leaseExpiresAt =>
      refine sound_callCeremonies fun reservation _ => ?_
      cases reservation with
      | claimed => trivial
      | existing existing => exact sound_beginResponse
      | inProgress => trivial
  | beginVerifier ceremony owner =>
      simp only [proceedWith]
      split
      · trivial
      · trivial
  | beginAbandon ceremony owner error => trivial
  | beginInitialize ceremony owner started initializedAt =>
      exact sound_callCeremonies fun _ _ => sound_beginResponse
  | finishRetire call => exact sound_callCeremonies fun _ _ => hprogress
  | finishCeremony call =>
      simp only [proceedWith]
      split
      · trivial
      · next record hrecord =>
          refine sound_finishRecord hprogress fun hstatus => ?_
          unfold CeremonyTable.byId at hrecord
          split at hrecord
          · cases hrecord
          · next row hrow =>
              exact CeremonyTable.stands_of_shows hrow
                (TrustedConsentRow.shows_of_record hrecord) hstatus
  | finishLifecycle call ceremony =>
      refine sound_ensureChallengeAcceptsConsent fun accepts => ?_
      split
      · trivial
      · exact sound_finishAccepted hprogress.1 hprogress.2
  | finishClaim call owner leaseExpiresAt =>
      refine sound_callCeremonies fun claim hclaim => ?_
      unfold finishClaimed
      split
      · next ceremony creationOptions registrationState =>
          have hstands := CeremonyTable.stands_of_claimed hclaim
          -- The ceremony claimed is the one whose start the request captured.
          obtain ⟨hnow, -, createdAt, expiresAt, hcaptured, hcreated⟩ := hprogress
          obtain ⟨row, hrow, -, hsame, -⟩ := hstands
          have hkept := (hmoves.stands hcaptured).unique hrow
          refine ⟨?_, CeremonyTable.stands_of_claimed hclaim⟩
          exact (hsame.symm.trans hkept.1).le.trans (hcreated.trans hnow)
      · trivial
      · exact sound_finishResponse
      · trivial
      · trivial
  | finishVerifier call ceremony registrationState owner leaseExpiresAt =>
      exact sound_finishVerified hprogress.1 hprogress.2
  | finishFail call owner failedAt error => exact sound_callCeremonies fun _ _ => trivial
  | finishAccepts call reason owner completedAt =>
      refine sound_ensureChallengeAcceptsConsent fun accepts => ?_
      split
      · obtain ⟨-, createdAt, expiresAt, hstands, hcreated, -⟩ := hprogress
        exact ⟨createdAt, expiresAt, hstands, hcreated⟩
      · exact hprogress
  | finishComplete call owner completedAt =>
      exact sound_callCeremonies fun _ _ => sound_finishResponse
  | finishReceipt ceremony =>
      simp only [proceedWith]
      split
      · next compactReceipt hreceipt => exact CeremonyTable.receipted_of_maybeReceipt hreceipt
      · unfold finishSigned
        split
        · trivial
        · trivial
        · trivial
  | finishPersist ceremony compactReceipt issuedAt =>
      exact sound_callCeremonies fun _ hpersisted =>
        CeremonyTable.receipted_of_persistReceipt hpersisted

end ConsentState

namespace ConsentState

variable {state : ConsentState config.parseUrl}

/-- The invariant: rows the reader accepts, and requests that know their ceremony. -/
structure Sound (state : ConsentState config.parseUrl) : Prop where
  ceremonies : state.ceremonies.Sound config.parseUrl
  requests : ∀ requestId progress, state.requests.lookup requestId = some progress →
    progress.Sound state.ceremonies state.clock

/-- What one event does to the ceremonies. -/
theorem moves_of_step (hsound : state.Sound) (event : ConsentEvent config.parseUrl) :
    CeremonyMoves config.parseUrl state.authority.challenges (state.completion event)
      state.ceremonies (consentStep config state event).1.ceremonies := by
  cases event with
  | tick seconds => exact .refl
  | authority request => exact .refl
  | beginRequest requestId challengeId request => exact .refl
  | finishRequest requestId challengeId ceremonyId credential => exact .refl
  | retireExpired lockedReservations lockedCeremonies =>
      exact CeremonyTable.moves_retireExpired hsound.ceremonies
  | proceed requestId world =>
      simp only [consentStep, completion]
      split
      · exact .refl
      · next progress hprogress =>
          rw [hprogress, Option.bind_some]
          have hmoves := moves_of_proceedWith world hsound.ceremonies
            (hsound.requests requestId progress hprogress)
          unfold settle
          split
          · exact hmoves
          · exact hmoves

/-- A request that stands somewhere new, among the others. -/
theorem Sound.enter (hsound : state.Sound) (requestId : ℕ)
    {progress : ConsentProgress config.parseUrl}
    (hprogress : progress.Sound state.ceremonies state.clock) :
    (state.enter requestId progress).Sound where
  ceremonies := hsound.ceremonies
  requests := by
    intro other found hfound
    rw [ConsentState.enter, Rows.lookup_insert_eq] at hfound
    split at hfound
    · cases hfound
      exact hprogress
    · exact hsound.requests other found hfound

/-- A request that left, and the others. -/
theorem Sound.leave (hsound : state.Sound) (requestId : ℕ) :
    ConsentState.Sound { state with requests := state.requests.erase requestId } where
  ceremonies := hsound.ceremonies
  requests := by
    intro other found hfound
    rw [Rows.lookup_erase_eq] at hfound
    split at hfound
    · cases hfound
    · exact hsound.requests other found hfound

/-- What a call leaves is sound, when every request keeps what it knows. -/
theorem Sound.moved {after : ConsentState config.parseUrl}
    {challenges : Rows ChallengeId ChallengeRow} {completion : Option CeremonyCompletion}
    (hsound : state.Sound) (hmoves : CeremonyMoves config.parseUrl challenges completion
      state.ceremonies after.ceremonies) (hrequests : after.requests = state.requests)
    (hclock : state.clock ≤ after.clock) : after.Sound where
  ceremonies := hmoves.sound hsound.ceremonies
  requests := by
    intro requestId progress hprogress
    rw [hrequests] at hprogress
    exact (hsound.requests requestId progress hprogress).later hmoves hclock

/-- Requests are settled apart from their steps, and no step reads the clock forward. -/
theorem frame_of_proceedWith (world : ConsentWorld config.parseUrl)
    (progress : ConsentProgress config.parseUrl) :
    (state.proceedWith world progress).1.requests = state.requests ∧
      (state.proceedWith world progress).1.clock = state.clock := by
  cases progress <;> exact ⟨rfl, rfl⟩

/-- Every event keeps the invariant. -/
theorem Sound.step (hsound : state.Sound) (event : ConsentEvent config.parseUrl) :
    (consentStep config state event).1.Sound := by
  cases event with
  | tick seconds =>
      exact hsound.moved (moves_of_step hsound (.tick seconds)) rfl (by simp [consentStep])
  | authority request => exact hsound.moved (moves_of_step hsound (.authority request)) rfl le_rfl
  | beginRequest requestId challengeId request => exact hsound.enter requestId trivial
  | finishRequest requestId challengeId ceremonyId credential =>
      exact hsound.enter requestId le_rfl
  | retireExpired lockedReservations lockedCeremonies =>
      exact hsound.moved
        (moves_of_step hsound (.retireExpired lockedReservations lockedCeremonies)) rfl le_rfl
  | proceed requestId world =>
      simp only [consentStep]
      split
      · exact hsound
      · next progress hprogress =>
          have hstands := hsound.requests requestId progress hprogress
          obtain ⟨hrequests, hclock⟩ :
              (state.proceedWith world progress).1.requests = state.requests ∧
                (state.proceedWith world progress).1.clock = state.clock :=
            frame_of_proceedWith world progress
          have hmoved : (state.proceedWith world progress).1.Sound :=
            hsound.moved (moves_of_proceedWith world hsound.ceremonies hstands) hrequests hclock.ge
          have houtcome := sound_of_proceedWith world hsound.ceremonies hstands
          unfold settle
          split
          · next next hnext =>
              rw [hnext, ← hclock] at houtcome
              exact hmoved.enter requestId houtcome
          · exact hmoved.leave requestId

end ConsentState

theorem consentAuthority_sound {history : List (ConsentEvent config.parseUrl × ConsentReply)}
    {state : ConsentState config.parseUrl} (hrun : (consentAuthority config).Run history state) :
    state.Sound := by
  refine Machine.Run.invariant (P := fun _ s => s.Sound) ?_ ?_ hrun
  · refine ⟨?_, ?_⟩
    · intro key row hrow
      cases hrow
    · intro requestId progress hprogress
      cases hprogress
  · intro _ s event _ hsound
    exact hsound.step event

end WorkGate
