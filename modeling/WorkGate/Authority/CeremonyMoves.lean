/-
# What a repository call does to one ceremony

Every call on the table of ceremonies changes each row in one of a few ways: it reserves,
deletes, initializes, claims, verifies or fails a ceremony, or writes its receipt.  The
deadlines the reader checks again are part of what a move says, because some statements do
not check them: whoever calls those has to know them already.
-/

import WorkGate.Authority.Ceremonies

namespace WorkGate

open WorkGate.Library

variable {parseUrl : String → Option Url}

/-- A verification being completed: by whom, and at which reading of the clock. -/
structure CeremonyCompletion where
  ceremonyId : TrustedConsentCeremonyId
  owner : TrustedConsentOperationOwner
  completedAt : ℕ
  deriving DecidableEq

/-- What one call may do to the row of one ceremony. -/
inductive CeremonyMove (parseUrl : String → Option Url)
    (challenges : Rows ChallengeId ChallengeRow) (completion : Option CeremonyCompletion)
    (key : String) : Option TrustedConsentRow → Option TrustedConsentRow → Prop
  | keeps {maybeRow : Option TrustedConsentRow} :
      CeremonyMove parseUrl challenges completion key maybeRow maybeRow
  | reserves {ceremony : TrustedConsentCeremony parseUrl}
      (hkey : ceremony.ceremonyId.text = key) (owner : TrustedConsentOperationOwner)
      (leaseExpiresAt : ℕ) :
      CeremonyMove parseUrl challenges completion key none
        (some (ceremony.reservedRow owner leaseExpiresAt))
  | deletes {row : TrustedConsentRow} (hstarting : row.status = .starting) :
      CeremonyMove parseUrl challenges completion key (some row) none
  | initializes {row : TrustedConsentRow} (hstarting : row.status = .starting)
      (creationOptions registrationState : String) :
      CeremonyMove parseUrl challenges completion key (some row)
        (some (row.initialized creationOptions registrationState))
  | claims {row : TrustedConsentRow} (hpending : row.status = .pending)
      (owner : TrustedConsentOperationOwner) {leaseExpiresAt : ℕ}
      (hlease : row.createdAtUnixSeconds < leaseExpiresAt) :
      CeremonyMove parseUrl challenges completion key (some row)
        (some (row.claimed owner leaseExpiresAt))
  | verifies {row : TrustedConsentRow} {completed : CeremonyCompletion} {leaseExpiresAt : ℕ}
      (hcompletion : completion = some completed) (hkey : completed.ceremonyId.text = key)
      (hverifying : row.status = .verifying)
      (howner : row.operationOwner = some completed.owner)
      (hlease : row.operationLeaseExpiresAtUnixSeconds = some leaseExpiresAt)
      (hunexpired : completed.completedAt < leaseExpiresAt)
      (hawaits : challengeAwaitsConsent challenges row.challengeId row.reason
        completed.completedAt = true)
      (hcreated : row.createdAtUnixSeconds ≤ completed.completedAt)
      (hexpires : completed.completedAt < row.expiresAtUnixSeconds) :
      CeremonyMove parseUrl challenges completion key (some row)
        (some (row.verifiedAt completed.completedAt))
  | fails {row : TrustedConsentRow} (hopen : row.status = .pending ∨ row.status = .verifying)
      {instant : ℕ} (hcreated : row.createdAtUnixSeconds ≤ instant) :
      CeremonyMove parseUrl challenges completion key (some row) (some (row.failedAt instant))
  | receives {row : TrustedConsentRow} (hverified : row.status = .verified)
      (hnone : row.trustedConsentReceipt = none) (compactReceipt : String)
      (issuedAt expiresAt : ℕ) :
      CeremonyMove parseUrl challenges completion key (some row)
        (some (row.receipted compactReceipt issuedAt expiresAt))

/-- A call moves every row. -/
def CeremonyMoves (parseUrl : String → Option Url) (challenges : Rows ChallengeId ChallengeRow)
    (completion : Option CeremonyCompletion) (before after : CeremonyTable) : Prop :=
  ∀ key, CeremonyMove parseUrl challenges completion key (before.rows.lookup key)
    (after.rows.lookup key)

theorem CeremonyMoves.refl {challenges : Rows ChallengeId ChallengeRow}
    {completion : Option CeremonyCompletion} {table : CeremonyTable} :
    CeremonyMoves parseUrl challenges completion table table := fun _ => .keeps

/-! ## What the reader needs of a row -/

/-- A row the reader accepts in every status it can reach. -/
structure CeremonyRowSound (parseUrl : String → Option Url) (key : String)
    (row : TrustedConsentRow) : Prop where
  /-- The columns that never change are those of a ceremony. -/
  reads : ∃ ceremony, row.pendingCeremony parseUrl key = .ok ceremony
  /-- A lease ends after the ceremony began. -/
  leased : row.status = .verifying → ∀ leaseExpiresAt,
    row.operationLeaseExpiresAtUnixSeconds = some leaseExpiresAt →
      row.createdAtUnixSeconds < leaseExpiresAt
  /-- A ceremony is verified between its start and its deadline. -/
  verified : row.status = .verified → ∀ instant, row.verifiedAtUnixSeconds = some instant →
    row.createdAtUnixSeconds ≤ instant ∧ instant < row.expiresAtUnixSeconds
  /-- A ceremony fails after it began. -/
  failed : row.status = .failed → ∀ instant, row.failedAtUnixSeconds = some instant →
    row.createdAtUnixSeconds ≤ instant

/-- Before a ceremony is claimed, its deadlines are all there is. -/
theorem CeremonyRowSound.of_reads {key : String} {row : TrustedConsentRow}
    (hreads : ∃ ceremony, row.pendingCeremony parseUrl key = .ok ceremony)
    (hstatus : row.status = .starting ∨ row.status = .pending) :
    CeremonyRowSound parseUrl key row where
  reads := hreads
  leased := by
    intro hverifying
    simp [hverifying] at hstatus
  verified := by
    intro hverified
    simp [hverified] at hstatus
  failed := by
    intro hfailed
    simp [hfailed] at hstatus

theorem TrustedConsentBinding.tryFrom_input (binding : TrustedConsentBinding parseUrl)
    {input : TrustedConsentBindingInput}
    (hinput : input = ⟨binding.challengeId, binding.disclosureDigestSha256,
      binding.poolOfferSetSignatureSha256, binding.reason.asStr, binding.authorityOrigin,
      binding.challengeExpiresAtUnixSeconds⟩) :
    TrustedConsentBinding.tryFrom parseUrl input = .ok binding := by
  subst hinput
  unfold TrustedConsentBinding.tryFrom
  split
  · next error herror =>
      rw [binding.valid] at herror
      cases herror
  · next reason hreason =>
      have hsame := hreason
      rw [binding.valid] at hsame
      cases hsame
      rfl

theorem TrustedConsentCeremonyId.tryFrom_text (ceremonyId : TrustedConsentCeremonyId) :
    TrustedConsentCeremonyId.tryFrom ceremonyId.text = .ok ceremonyId := by
  rw [tryFrom, dif_pos ceremonyId.valid]

theorem TrustedConsentCeremonyId.tryFrom_eq_ok {value : String}
    {ceremonyId : TrustedConsentCeremonyId} (h : tryFrom value = .ok ceremonyId) :
    ceremonyId.text = value := by
  unfold tryFrom at h
  split at h
  · cases h
    rfl
  · cases h

namespace TrustedConsentCeremony

theorem pending_eq_ok {ceremonyId : TrustedConsentCeremonyId}
    {binding : TrustedConsentBinding parseUrl} {createdAt expiresAt : ℕ}
    {ceremony : TrustedConsentCeremony parseUrl}
    (h : pending ceremonyId binding createdAt expiresAt = .ok ceremony) :
    ceremony.ceremonyId = ceremonyId ∧ ceremony.binding = binding ∧
      ceremony.status = .pending ∧ ceremony.createdAtUnixSeconds = createdAt ∧
      ceremony.expiresAtUnixSeconds = expiresAt := by
  unfold pending at h
  split at h
  · cases h
  · cases h
    exact ⟨rfl, rfl, rfl, rfl, rfl⟩

/-- The columns of a ceremony no transition changes. -/
structure SameTerms (ceremony other : TrustedConsentCeremony parseUrl) : Prop where
  ceremonyId : other.ceremonyId = ceremony.ceremonyId
  binding : other.binding = ceremony.binding
  createdAt : other.createdAtUnixSeconds = ceremony.createdAtUnixSeconds
  expiresAt : other.expiresAtUnixSeconds = ceremony.expiresAtUnixSeconds

theorem verify_eq_ok {ceremony verified : TrustedConsentCeremony parseUrl} {now : ℕ}
    (h : ceremony.verify now = .ok verified) :
    ceremony.createdAtUnixSeconds ≤ now ∧ now < ceremony.expiresAtUnixSeconds ∧
      ceremony.SameTerms verified := by
  unfold verify at h
  split at h
  · cases h
  · split at h
    · cases h
    · next htime =>
        cases h
        exact ⟨by omega, by omega, rfl, rfl, rfl, rfl⟩

theorem exists_verify {ceremony : TrustedConsentCeremony parseUrl} {now : ℕ}
    (hpending : ceremony.status = .pending) (hcreated : ceremony.createdAtUnixSeconds ≤ now)
    (hexpires : now < ceremony.expiresAtUnixSeconds) :
    ∃ verified, ceremony.verify now = .ok verified := by
  unfold verify
  rw [if_neg (by simp [hpending]), dif_neg (by omega)]
  exact ⟨_, rfl⟩

theorem exists_fail {ceremony : TrustedConsentCeremony parseUrl} {now : ℕ}
    (hpending : ceremony.status = .pending) (hcreated : ceremony.createdAtUnixSeconds ≤ now) :
    ∃ failed, ceremony.fail now = .ok failed := by
  unfold fail
  rw [if_neg (by simp [hpending]), if_neg (by omega)]
  exact ⟨_, rfl⟩

theorem fail_eq_ok {ceremony failed : TrustedConsentCeremony parseUrl} {now : ℕ}
    (h : ceremony.fail now = .ok failed) : ceremony.SameTerms failed := by
  unfold fail at h
  obtain ⟨-, h⟩ := guard_eq_ok h
  obtain ⟨-, h⟩ := guard_eq_ok h
  cases h
  exact ⟨rfl, rfl, rfl, rfl⟩

end TrustedConsentCeremony

namespace TrustedConsentRow

/-- The columns a ceremony was read from. -/
theorem pendingCeremony_eq_ok {key : String} {row : TrustedConsentRow}
    {ceremony : TrustedConsentCeremony parseUrl}
    (h : row.pendingCeremony parseUrl key = .ok ceremony) :
    ceremony.ceremonyId.text = key ∧ ceremony.status = .pending ∧
      ceremony.createdAtUnixSeconds = row.createdAtUnixSeconds ∧
      ceremony.expiresAtUnixSeconds = row.expiresAtUnixSeconds ∧
      ceremony.binding.challengeId = row.challengeId ∧
      ceremony.binding.challengeExpiresAtUnixSeconds = row.challengeExpiresAtUnixSeconds := by
  rw [pendingCeremony] at h
  obtain ⟨binding, hbinding, h⟩ := bind_eq_ok.mp h
  obtain ⟨ceremonyId, hid, h⟩ := bind_eq_ok.mp h
  obtain ⟨hsameId, hsameBinding, hstatus, hcreated, hexpires⟩ :=
    TrustedConsentCeremony.pending_eq_ok (mapError_eq_ok.mp h)
  have htext := TrustedConsentCeremonyId.tryFrom_eq_ok (mapError_eq_ok.mp hid)
  have hinput := mapError_eq_ok.mp hbinding
  unfold TrustedConsentBinding.tryFrom at hinput
  split at hinput
  · cases hinput
  · cases hinput
    rw [hsameId, hsameBinding]
    exact ⟨htext, hstatus, hcreated, hexpires, rfl, rfl⟩

/-- What a ceremony reserves is read back as the ceremony. -/
theorem pendingCeremony_reservedRow (ceremony : TrustedConsentCeremony parseUrl)
    (owner : TrustedConsentOperationOwner) (leaseExpiresAt : ℕ) :
    ∃ read, (ceremony.reservedRow owner leaseExpiresAt).pendingCeremony parseUrl
      ceremony.ceremonyId.text = .ok read := by
  have hordered := ceremony.ordered
  have hbounded := ceremony.bounded
  have hcreated := ceremony.created
  have hbinding : TrustedConsentBinding.tryFrom parseUrl
      (ceremony.reservedRow owner leaseExpiresAt).bindingInput = .ok ceremony.binding :=
    ceremony.binding.tryFrom_input rfl
  have hpending : ∃ read, TrustedConsentCeremony.pending ceremony.ceremonyId ceremony.binding
      ceremony.createdAtUnixSeconds ceremony.expiresAtUnixSeconds = .ok read := by
    rw [TrustedConsentCeremony.pending, dif_neg (by omega)]
    exact ⟨_, rfl⟩
  obtain ⟨read, hread⟩ := hpending
  refine ⟨read, ?_⟩
  rw [pendingCeremony]
  apply bind_eq_ok.mpr
  refine ⟨ceremony.binding, mapError_eq_ok.mpr hbinding, ?_⟩
  apply bind_eq_ok.mpr
  refine ⟨ceremony.ceremonyId, mapError_eq_ok.mpr ceremony.ceremonyId.tryFrom_text, ?_⟩
  exact mapError_eq_ok.mpr hread

/-- What a reader sees of a row: its key, the columns that never change, and its status. -/
structure Shows (key : String) (row : TrustedConsentRow)
    (record : TrustedConsentCeremonyRecord parseUrl) : Prop where
  key : record.ceremony.ceremonyId.text = key
  createdAt : record.ceremony.createdAtUnixSeconds = row.createdAtUnixSeconds
  expiresAt : record.ceremony.expiresAtUnixSeconds = row.expiresAtUnixSeconds
  challengeId : record.ceremony.binding.challengeId = row.challengeId
  challengeExpiresAt : record.ceremony.binding.challengeExpiresAtUnixSeconds =
    row.challengeExpiresAtUnixSeconds
  status : record.status = row.status

/-- A ceremony in the terms of the one the row was read as. -/
theorem Shows.of_sameTerms {key : String} {row : TrustedConsentRow}
    {record : TrustedConsentCeremonyRecord parseUrl} {ceremony : TrustedConsentCeremony parseUrl}
    (hceremony : row.pendingCeremony parseUrl key = .ok ceremony)
    (hsame : ceremony.SameTerms record.ceremony) (hstatus : record.status = row.status) :
    Shows key row record := by
  obtain ⟨hkey, -, hcreated, hexpires, hchallenge, hdeadline⟩ := pendingCeremony_eq_ok hceremony
  refine ⟨?_, ?_, ?_, ?_, ?_, hstatus⟩
  · rw [hsame.ceremonyId, hkey]
  · rw [hsame.createdAt, hcreated]
  · rw [hsame.expiresAt, hexpires]
  · rw [hsame.binding, hchallenge]
  · rw [hsame.binding, hdeadline]

theorem shows_of_record {key : String} {row : TrustedConsentRow}
    {found : TrustedConsentCeremonyRecord parseUrl} (h : row.record parseUrl key = .ok found) :
    Shows key row found := by
  unfold record at h
  split at h
  · cases h
  · next ceremony hceremony =>
      split at h
      · next hstatus =>
          split at h
          · cases h
            exact .of_sameTerms hceremony ⟨rfl, rfl, rfl, rfl⟩ hstatus.symm
          · cases h
      · next hstatus =>
          split at h
          · cases h
            exact .of_sameTerms hceremony ⟨rfl, rfl, rfl, rfl⟩ hstatus.symm
          · cases h
      · next hstatus =>
          split at h
          · cases h
            exact .of_sameTerms hceremony ⟨rfl, rfl, rfl, rfl⟩ hstatus.symm
          · cases h
      · next hstatus =>
          obtain ⟨-, h⟩ := guard_eq_ok h
          split at h
          · cases h
          · obtain ⟨verified, hverified, rfl⟩ := map_eq_ok.mp h
            obtain ⟨-, -, hsame⟩ :=
              TrustedConsentCeremony.verify_eq_ok (mapError_eq_ok.mp hverified)
            exact .of_sameTerms hceremony hsame hstatus.symm
      · next hstatus =>
          obtain ⟨-, h⟩ := guard_eq_ok h
          split at h
          · cases h
          · obtain ⟨failed, hfailed, rfl⟩ := map_eq_ok.mp h
            have hsame := TrustedConsentCeremony.fail_eq_ok (mapError_eq_ok.mp hfailed)
            exact .of_sameTerms hceremony hsame hstatus.symm

/-- A sound row that satisfies the table's checks is read back. -/
theorem exists_record {key : String} {row : TrustedConsentRow}
    (hsound : CeremonyRowSound parseUrl key row) (hchecks : row.satisfiesChecks key = true) :
    ∃ record, row.record parseUrl key = .ok record := by
  obtain ⟨ceremony, hceremony⟩ := hsound.reads
  obtain ⟨-, hpending, hcreated, hexpires, -, -⟩ := pendingCeremony_eq_ok hceremony
  have hstatus : row.statusCheck = true := by
    simp only [satisfiesChecks, Bool.and_eq_true] at hchecks
    exact hchecks.1.2
  simp only [record, hceremony]
  unfold statusCheck at hstatus
  cases hcase : row.status with
  | starting =>
      simp only [hcase, Bool.and_eq_true] at hstatus
      simp [hstatus.1.2, hstatus.2]
  | pending =>
      simp only [hcase, Bool.and_eq_true, Option.isSome_iff_exists] at hstatus
      obtain ⟨⟨-, creationOptions, hoptions⟩, registrationState, hregistration⟩ := hstatus
      simp [hoptions, hregistration]
  | verifying =>
      simp only [hcase, Bool.and_eq_true, Option.isSome_iff_exists] at hstatus
      obtain ⟨⟨-, creationOptions, hoptions⟩, registrationState, hregistration⟩ := hstatus
      simp [hoptions, hregistration]
  | verified =>
      simp only [hcase, Bool.and_eq_true, Option.isSome_iff_exists, Option.isNone_iff_eq_none]
        at hstatus
      obtain ⟨⟨⟨⟨⟨⟨instant, hinstant⟩, -⟩, -⟩, -⟩, hoptions⟩, hregistration⟩ := hstatus
      obtain ⟨hafter, hbefore⟩ := hsound.verified hcase instant hinstant
      obtain ⟨verified, hverified⟩ := TrustedConsentCeremony.exists_verify hpending
        (hcreated.trans_le hafter) (hbefore.trans_eq hexpires.symm)
      simp [hoptions, hregistration, hinstant, hverified, invalidPersisted, Except.mapError,
        Except.map]
  | failed =>
      simp only [hcase, Bool.and_eq_true, Option.isSome_iff_exists, Option.isNone_iff_eq_none]
        at hstatus
      obtain ⟨⟨⟨⟨⟨-, instant, hinstant⟩, -⟩, -⟩, hoptions⟩, hregistration⟩ := hstatus
      obtain ⟨failed, hfailed⟩ := TrustedConsentCeremony.exists_fail hpending
        (hcreated.trans_le (hsound.failed hcase instant hinstant))
      simp [hoptions, hregistration, hinstant, hfailed, invalidPersisted, Except.mapError,
        Except.map]

end TrustedConsentRow

/-- Every row of the table is sound. -/
def CeremonyTable.Sound (parseUrl : String → Option Url) (table : CeremonyTable) : Prop :=
  ∀ key row, table.rows.lookup key = some row → CeremonyRowSound parseUrl key row

/-- Moves keep rows sound. -/
theorem CeremonyMoves.sound {challenges : Rows ChallengeId ChallengeRow}
    {completion : Option CeremonyCompletion} {before after : CeremonyTable}
    (hmoves : CeremonyMoves parseUrl challenges completion before after)
    (hsound : before.Sound parseUrl) : after.Sound parseUrl := by
  intro key row hrow
  have hbefore := hsound key
  have hmove := hmoves key
  rw [hrow] at hmove
  generalize before.rows.lookup key = maybeRow at hmove hbefore
  cases hmove with
  | keeps => exact hbefore row rfl
  | @reserves ceremony hkey owner leaseExpiresAt =>
      subst hkey
      exact .of_reads (TrustedConsentRow.pendingCeremony_reservedRow ceremony owner leaseExpiresAt)
        (.inl rfl)
  | @initializes found hstarting creationOptions registrationState =>
      exact .of_reads (hbefore found rfl).reads (.inr rfl)
  | @claims found hpending owner leaseExpiresAt hlease =>
      refine ⟨(hbefore found rfl).reads, ?_, ?_, ?_⟩
      · intro _ lease hsame
        cases hsame
        exact hlease
      · intro hstatus
        cases hstatus
      · intro hstatus
        cases hstatus
  | @verifies found completed leaseExpiresAt _ _ _ _ _ _ _ hcreated hexpires =>
      refine ⟨(hbefore found rfl).reads, ?_, ?_, ?_⟩
      · intro hstatus
        cases hstatus
      · intro _ instant hsame
        cases hsame
        exact ⟨hcreated, hexpires⟩
      · intro hstatus
        cases hstatus
  | @fails found hopen instant hcreated =>
      refine ⟨(hbefore found rfl).reads, ?_, ?_, ?_⟩
      · intro hstatus
        cases hstatus
      · intro hstatus
        cases hstatus
      · intro _ failedAt hsame
        cases hsame
        exact hcreated
  | @receives found hverified hnone compactReceipt issuedAt expiresAt =>
      have hfound := hbefore found rfl
      exact ⟨hfound.reads, hfound.leased, hfound.verified, hfound.failed⟩

/-! ## The calls, row by row -/

namespace CeremonyTable

variable {challenges : Rows ChallengeId ChallengeRow} {completion : Option CeremonyCompletion}
  {table written : CeremonyTable} {ceremonyId : TrustedConsentCeremonyId}
  {owner : TrustedConsentOperationOwner}

theorem rows_of_write {rows : Rows String TrustedConsentRow} (h : write rows = .ok written) :
    written.rows = rows := by
  unfold write at h
  split at h
  · cases h
    rfl
  · cases h

/-- Only reservations may be deleted. -/
theorem moves_deleteRows {dropped : String → TrustedConsentRow → Bool}
    (hstarting : ∀ key row, table.rows.lookup key = some row → dropped key row = true →
      row.status = .starting) :
    CeremonyMoves parseUrl challenges completion table (table.deleteRows dropped) := by
  intro key
  rw [deleteRows, Rows.lookup_keepRows]
  cases hrow : table.rows.lookup key with
  | none => exact .keeps
  | some row =>
      cases hdropped : dropped key row with
      | true =>
          simp only [Option.filter, hdropped, Bool.not_true, Bool.false_eq_true, if_false]
          exact .deletes (hstarting key row hrow hdropped)
      | false =>
          simp only [Option.filter, hdropped, Bool.not_false, if_true]
          exact .keeps

/-- Everything a guarded update can do. -/
theorem updateWhere_eq_ok {key : String} {guard : TrustedConsentRow → Bool}
    {update : TrustedConsentRow → TrustedConsentRow} {maybeRow : Option TrustedConsentRow}
    (h : table.updateWhere key guard update = .ok (written, maybeRow)) :
    (written = table ∧ maybeRow = none ∧
      ∀ row, table.rows.lookup key = some row → guard row = false) ∨
    ∃ row, table.rows.lookup key = some row ∧ guard row = true ∧ maybeRow = some (update row) ∧
      written.rows = table.rows.updateRow key update := by
  unfold updateWhere at h
  split at h
  · next hnone =>
      cases h
      refine .inl ⟨rfl, rfl, ?_⟩
      intro row hrow
      rw [hnone] at hrow
      cases hrow
  · next row hrow =>
      split at h
      · next hguard =>
          cases hwrite : write (table.rows.updateRow key update) with
          | error error =>
              rw [hwrite] at h
              cases h
          | ok after =>
              rw [hwrite] at h
              cases h
              exact .inr ⟨row, hrow, hguard, rfl, rows_of_write hwrite⟩
      · next hguard =>
          cases h
          refine .inl ⟨rfl, rfl, ?_⟩
          intro found hfound
          rw [hrow] at hfound
          cases hfound
          simpa using hguard

/-- An update moves the row it writes, and no other. -/
theorem moves_of_updateRow {key : String} {row : TrustedConsentRow}
    {update : TrustedConsentRow → TrustedConsentRow} (hrow : table.rows.lookup key = some row)
    (hwritten : written.rows = table.rows.updateRow key update)
    (hmove : CeremonyMove parseUrl challenges completion key (some row) (some (update row))) :
    CeremonyMoves parseUrl challenges completion table written := by
  intro other
  rw [hwritten, Rows.lookup_updateRow_eq]
  by_cases hother : other = key
  · subst hother
    rw [if_pos rfl, hrow]
    exact hmove
  · rw [if_neg hother]
    exact .keeps

/-- A guarded update moves a row as its guard lets it. -/
theorem moves_updateWhere {key : String} {guard : TrustedConsentRow → Bool}
    {update : TrustedConsentRow → TrustedConsentRow} {maybeRow : Option TrustedConsentRow}
    (h : table.updateWhere key guard update = .ok (written, maybeRow))
    (hmove : ∀ row, table.rows.lookup key = some row → guard row = true →
      CeremonyMove parseUrl challenges completion key (some row) (some (update row))) :
    CeremonyMoves parseUrl challenges completion table written := by
  rcases updateWhere_eq_ok h with ⟨rfl, -, -⟩ | ⟨row, hrow, hguard, -, hwritten⟩
  · exact .refl
  · exact moves_of_updateRow hrow hwritten (hmove row hrow hguard)

theorem mem_dueFirst {deadline : TrustedConsentRow → Option ℕ} {now : ℕ} {locked : List String}
    {key : String}
    (h : ((table.dueFirst deadline now locked).map (·.1)).contains key = true) :
    ∃ row instant, table.rows.lookup key = some row ∧ deadline row = some instant ∧
      instant ≤ now := by
  rw [List.contains_iff_mem, List.mem_map] at h
  obtain ⟨entry, hentry, rfl⟩ := h
  have hdue := List.mem_of_mem_take hentry
  rw [List.mem_insertionSort, List.mem_filter, Bool.and_eq_true, Option.any_eq_true] at hdue
  obtain ⟨hmem, ⟨instant, hdeadline, hnow⟩, -⟩ := hdue
  exact ⟨entry.2, instant, Rows.mem_entries_iff.mp hmem, hdeadline, of_decide_eq_true hnow⟩

/-- A sound row is due after it was created, and only while somebody waits for it. -/
theorem fails_of_due {key : String} {row : TrustedConsentRow} {instant : ℕ}
    (hsound : CeremonyRowSound parseUrl key row) (hdeadline : row.failureDeadline = some instant) :
    (row.status = .pending ∨ row.status = .verifying) ∧ row.createdAtUnixSeconds < instant := by
  unfold TrustedConsentRow.failureDeadline at hdeadline
  split at hdeadline
  · next hpending =>
      cases hdeadline
      obtain ⟨ceremony, hceremony⟩ := hsound.reads
      obtain ⟨-, -, hcreated, hexpires, -, -⟩ :=
        TrustedConsentRow.pendingCeremony_eq_ok hceremony
      have hordered := ceremony.ordered
      rw [hcreated, hexpires] at hordered
      exact ⟨.inl hpending, hordered⟩
  · split at hdeadline
    · next hverifying =>
        exact ⟨.inr hverifying, hsound.leased hverifying instant hdeadline⟩
    · cases hdeadline

theorem moves_retireExpired {now : ℕ} {lockedReservations lockedCeremonies : List String}
    (hsound : table.Sound parseUrl) : CeremonyMoves parseUrl challenges completion table
      (table.retireExpired now lockedReservations lockedCeremonies).1 := by
  unfold retireExpired
  split
  · exact .refl
  · next instant _ =>
      generalize hreservations :
        (table.dueFirst TrustedConsentRow.reservationDeadline instant lockedReservations).map
          (·.1) = reservations
      have hstarting : ∀ key row, table.rows.lookup key = some row →
          reservations.contains key = true → row.status = .starting := by
        intro key row hrow hmem
        rw [← hreservations] at hmem
        obtain ⟨found, deadline, hfound, hdeadline, -⟩ := mem_dueFirst hmem
        rw [hrow] at hfound
        cases hfound
        unfold TrustedConsentRow.reservationDeadline at hdeadline
        split at hdeadline
        · assumption
        · cases hdeadline
      have hdeleted : CeremonyMoves parseUrl challenges completion table
          (table.deleteRows fun key _ => reservations.contains key) := moves_deleteRows hstarting
      simp only
      split
      · exact hdeleted
      · next failed hfailed =>
          -- A row that was kept is the row found, so its own deadline is the one that passed.
          have hsoundDeleted := hdeleted.sound hsound
          intro key
          rw [rows_of_write hfailed, Rows.lookup_mapRows]
          have hmove := hdeleted key
          generalize hleft : (table.deleteRows fun key _ => reservations.contains key) =
            deleted at *
          cases hrow : deleted.rows.lookup key with
          | none =>
              rw [hrow] at hmove
              exact hmove
          | some row =>
              have hkept : table.rows.lookup key = some row := by
                rw [← hleft, deleteRows, Rows.lookup_keepRows, Option.filter_eq_some_iff] at hrow
                exact hrow.1
              rw [hkept, Option.map_some]
              split
              · next hdue =>
                  obtain ⟨found, deadline, hfound, hdeadline, hpassed⟩ := mem_dueFirst hdue
                  rw [hrow] at hfound
                  cases hfound
                  obtain ⟨hopen, hcreated⟩ := fails_of_due (hsoundDeleted key row hrow) hdeadline
                  exact .fails hopen (hcreated.le.trans hpassed)
              · exact .keeps

theorem moves_reserve {ceremony : TrustedConsentCeremony parseUrl} {leaseExpiresAt : ℕ} :
    CeremonyMoves parseUrl challenges completion table
      (table.reserve challenges ceremony owner leaseExpiresAt).1 := by
  unfold reserve
  simp only
  split
  · split
    · split
      · exact .refl
      · next hfresh =>
          split
          · exact .refl
          · next written hwritten =>
              intro key
              rw [rows_of_write hwritten, Rows.lookup_insert_eq]
              by_cases hkey : key = ceremony.ceremonyId.text
              · rw [if_pos hkey, hkey, AList.lookup_eq_none.mpr hfresh]
                exact .reserves rfl owner _
              · rw [if_neg hkey]
                exact .keeps
    · exact .refl
  · exact .refl
  · exact .refl
  · exact .refl
  · exact .refl

theorem moves_abandon :
    CeremonyMoves parseUrl challenges completion table (table.abandon ceremonyId owner) := by
  apply moves_deleteRows
  intro key row _ hdropped
  simp only [Bool.and_eq_true, decide_eq_true_eq] at hdropped
  exact hdropped.1.2

theorem moves_initializeCeremony {creationOptions registrationState : String}
    {initializedAt : ℕ} : CeremonyMoves parseUrl challenges completion table
      (table.initializeCeremony parseUrl challenges ceremonyId owner creationOptions
        registrationState initializedAt).1 := by
  unfold initializeCeremony
  split
  · exact .refl
  · simp only
    split
    · exact .refl
    · next written row hwritten =>
        refine moves_updateWhere hwritten ?_
        intro found _ hguard
        simp only [Bool.and_eq_true, decide_eq_true_eq] at hguard
        exact .initializes hguard.1.1.1.1 creationOptions registrationState
    · next found hfound =>
        rcases updateWhere_eq_ok hfound with ⟨rfl, -, -⟩ | ⟨row, -, -, hrow, -⟩
        · exact moves_abandon
        · cases hrow

/-- The owner of a verification may give it up once it began. -/
theorem moves_failVerification {instant : ℕ} {maybeRow : Option TrustedConsentRow}
    (h : table.failVerification ceremonyId owner instant = .ok (written, maybeRow))
    (hcreated : ∀ row, table.rows.lookup ceremonyId.text = some row →
      row.createdAtUnixSeconds ≤ instant) :
    CeremonyMoves parseUrl challenges completion table written := by
  refine moves_updateWhere h ?_
  intro row hrow hguard
  simp only [Bool.and_eq_true, decide_eq_true_eq] at hguard
  exact .fails (.inr hguard.1) (hcreated row hrow)

theorem moves_fail {failedAt : ℕ}
    (hcreated : ∀ row, table.rows.lookup ceremonyId.text = some row →
      row.createdAtUnixSeconds ≤ failedAt) :
    CeremonyMoves parseUrl challenges completion table
      (table.fail parseUrl ceremonyId owner failedAt).1 := by
  unfold fail
  split
  · exact .refl
  · next instant hinstant =>
      obtain ⟨rfl, -⟩ := unixSecondsToI64_eq_ok hinstant
      split
      · exact .refl
      · next failed row hfailed => exact moves_failVerification hfailed hcreated
      · next found hfound => exact moves_failVerification hfound hcreated

theorem moves_complete {verifiedAt : ℕ}
    (htimes : ∀ row, table.rows.lookup ceremonyId.text = some row →
      row.createdAtUnixSeconds ≤ verifiedAt ∧ verifiedAt < row.expiresAtUnixSeconds) :
    CeremonyMoves parseUrl challenges (some ⟨ceremonyId, owner, verifiedAt⟩) table
      (table.complete parseUrl challenges ceremonyId owner verifiedAt).1 := by
  unfold complete
  split
  · exact .refl
  · next instant hinstant =>
      obtain ⟨rfl, -⟩ := unixSecondsToI64_eq_ok hinstant
      simp only
      split
      · exact .refl
      · next written row hwritten =>
          refine moves_updateWhere hwritten ?_
          intro found hfound hguard
          simp only [Bool.and_eq_true, decide_eq_true_eq, Option.any_eq_true] at hguard
          obtain ⟨⟨⟨hverifying, howner⟩, lease, hlease, hunexpired⟩, hawaits⟩ := hguard
          obtain ⟨hcreated, hexpires⟩ := htimes found hfound
          exact .verifies rfl rfl hverifying howner hlease hunexpired hawaits hcreated hexpires
      · next found hfound =>
          rcases updateWhere_eq_ok hfound with ⟨rfl, -, -⟩ | ⟨row, -, -, hrow, -⟩
          · split
            · exact .refl
            · next failed maybeRow hfailed =>
                exact moves_failVerification hfailed fun row hrow => (htimes row hrow).1
          · cases hrow

theorem moves_claimVerification {now leaseExpiresAt : ℕ} (hsound : table.Sound parseUrl)
    (hlease : ∀ row, table.rows.lookup ceremonyId.text = some row →
      row.createdAtUnixSeconds < leaseExpiresAt) :
    CeremonyMoves parseUrl challenges completion table
      (table.claimVerification parseUrl ceremonyId owner now leaseExpiresAt).1 := by
  unfold claimVerification
  split
  · exact .refl
  · next instant hinstant =>
      simp only
      split
      · exact .refl
      · next failed row hfailed =>
          refine moves_updateWhere hfailed ?_
          intro found hfound hguard
          simp only [Bool.and_eq_true, decide_eq_true_eq, Option.any_eq_true] at hguard
          obtain ⟨hverifying, lease, hfoundLease, hoverdue⟩ := hguard
          have hcreated := (hsound _ found hfound).leased hverifying lease hfoundLease
          exact .fails (.inr hverifying) (hcreated.le.trans hoverdue)
      · next found hfound =>
          rcases updateWhere_eq_ok hfound with ⟨rfl, -, -⟩ | ⟨row, -, -, hrow, -⟩
          · split
            · exact .refl
            · next lease hconverted =>
                obtain ⟨rfl, -⟩ := unixSecondsToI64_eq_ok hconverted
                have hclaims : ∀ row, found.rows.lookup ceremonyId.text = some row →
                    decide (row.status = .pending) = true →
                    CeremonyMove parseUrl challenges completion ceremonyId.text (some row)
                      (some (row.claimed owner lease)) := by
                  intro row hrow hguard
                  exact .claims (of_decide_eq_true hguard) owner (hlease row hrow)
                split
                · exact .refl
                · next claimed row hclaimed => exact moves_updateWhere hclaimed hclaims
                · next unclaimed hunclaimed => exact moves_updateWhere hunclaimed hclaims
          · cases hrow

theorem moves_persistReceipt {compactReceipt : String} {issuedAt expiresAt : ℕ} :
    CeremonyMoves parseUrl challenges completion table
      (table.persistReceipt ceremonyId compactReceipt issuedAt expiresAt).1 := by
  unfold persistReceipt
  split
  · exact .refl
  · exact .refl
  · next issued expires _ _ =>
      have hreceives : ∀ row : TrustedConsentRow, (decide (row.status = .verified) &&
          (row.trustedConsentReceipt.isNone ||
            decide (row.trustedConsentReceipt = some compactReceipt) &&
              decide (row.receiptIssuedAtUnixSeconds = some issued) &&
              decide (row.receiptExpiresAtUnixSeconds = some expires))) = true →
          CeremonyMove parseUrl challenges completion ceremonyId.text (some row)
            (some (row.receipted compactReceipt issued expires)) := by
        intro row hguard
        simp only [Bool.and_eq_true, Bool.or_eq_true, decide_eq_true_eq] at hguard
        obtain ⟨hverified, hnone | ⟨⟨hreceipt, hissued⟩, hexpires⟩⟩ := hguard
        · exact .receives hverified (Option.isNone_iff_eq_none.mp hnone) compactReceipt issued
            expires
        · have hsame : row.receipted compactReceipt issued expires = row := by
            cases row
            simp only at hreceipt hissued hexpires
            simp [TrustedConsentRow.receipted, hreceipt, hissued, hexpires]
          rw [hsame]
          exact .keeps
      simp only
      split
      · exact .refl
      · next written row hwritten =>
          exact moves_updateWhere hwritten fun row _ hguard => hreceives row hguard
      · next found hfound =>
          have hmoves : CeremonyMoves parseUrl challenges completion table found :=
            moves_updateWhere hfound fun row _ hguard => hreceives row hguard
          split
          · exact hmoves
          · exact hmoves

end CeremonyTable

end WorkGate
