/-
# The pool selection of a challenge

A claimant may propose one choice after another, but consents once.  From then on the
choice is fixed, and every session of the challenge, the first one and each replacement,
mines under exactly that choice.
-/

import WorkGate.Authority.Coupling

namespace WorkGate

open WorkGate.Library

namespace AuthorityDatabase

/-- The consented choice of a challenge is kept. -/
def KeepsConsented (db after : AuthorityDatabase) : Prop :=
  ∀ challengeId selection, db.poolSelections.lookup challengeId = some selection →
    selection.status = .consented →
      ∃ later, after.poolSelections.lookup challengeId = some later ∧
        later.status = .consented ∧ later.poolOfferId = selection.poolOfferId ∧
        later.payoutCommitment = selection.payoutCommitment

/-- Every session carries the choice its challenge consented to. -/
def CarriesConsented (db : AuthorityDatabase) : Prop :=
  ∀ sessionId row, db.sessions.lookup sessionId = some row →
    ∃ selection, db.poolSelections.lookup row.challengeId = some selection ∧
      selection.status = .consented ∧ row.poolOfferId = selection.poolOfferId ∧
      row.payoutCommitment = selection.payoutCommitment

theorem KeepsConsented.of_eq {db after : AuthorityDatabase}
    (h : after.poolSelections = db.poolSelections) : KeepsConsented db after :=
  fun _ selection hselection hconsented =>
    ⟨selection, by rw [h, hselection], hconsented, rfl, rfl⟩

theorem KeepsConsented.trans {db after later : AuthorityDatabase}
    (hfirst : KeepsConsented db after) (hsecond : KeepsConsented after later) :
    KeepsConsented db later := by
  intro challengeId selection hselection hconsented
  obtain ⟨kept, hkept, hstatus, hoffer, hpayout⟩ :=
    hfirst challengeId selection hselection hconsented
  obtain ⟨last, hlast, hlastStatus, hlastOffer, hlastPayout⟩ :=
    hsecond challengeId kept hkept hstatus
  exact ⟨last, hlast, hlastStatus, hlastOffer.trans hoffer, hlastPayout.trans hpayout⟩

/-- A write to the selection of a challenge whose selection is only proposed. -/
theorem KeepsConsented.of_proposed {db after : AuthorityDatabase} {challengeId : ChallengeId}
    {selection : SelectionRow}
    (hfree : ∀ old, db.poolSelections.lookup challengeId = some old → old.status = .proposed)
    (hselections : ∀ other, after.poolSelections.lookup other =
      if other = challengeId then some selection else db.poolSelections.lookup other) :
    KeepsConsented db after := by
  intro other found hfound hconsented
  rw [hselections other]
  split
  · next heq =>
      subst heq
      rw [hfree found hfound] at hconsented
      cases hconsented
  · exact ⟨found, hfound, hconsented, rfl, rfl⟩

/-- No transaction touches a consented choice. -/
theorem keepsConsented_effect {db after : AuthorityDatabase} (heffect : SessionEffect db after) :
    KeepsConsented db after := by
  cases heffect with
  | keeps hsessions hselections hwork => exact .of_eq hselections
  | proposes challengeId selection hfree hproposed hselections hsessions hchallenges =>
      exact .of_proposed hfree hselections
  | consents selection hold hproposed hconsented hoffer hpayout hselections hsessions
      hchallenges =>
      apply KeepsConsented.of_proposed _ hselections
      intro old hfound
      rw [hold, Option.some.injEq] at hfound
      rw [← hfound]
      exact hproposed
  | closes hsessions hselections hothers hkept => exact .of_eq hselections
  | pauses reason => exact .of_eq rfl
  | registers registered hfresh hready hchallenge hopen hunder hsets hselections hchallenges =>
      exact .of_eq hselections
  | leases leaseId continuityId maybeCeremonyId hfound hstart hlast hrenew hactive hsets
      hselections hwork => exact .of_eq hselections
  | writes hfound hwrite hsets hselections hchallenges => exact .of_eq hselections

/-- A session with the columns of one that carries the consented choice carries it too. -/
theorem CarriesConsented.of_same {db after : AuthorityDatabase} (hinv : CarriesConsented db)
    (hkeeps : KeepsConsented db after) {sessionId : WorkSessionId} {old row : SessionRow}
    (hold : db.sessions.lookup sessionId = some old) (hchallenge : row.challengeId =
      old.challengeId) (hoffer : row.poolOfferId = old.poolOfferId)
    (hpayout : row.payoutCommitment = old.payoutCommitment) :
    ∃ selection, after.poolSelections.lookup row.challengeId = some selection ∧
      selection.status = .consented ∧ row.poolOfferId = selection.poolOfferId ∧
      row.payoutCommitment = selection.payoutCommitment := by
  obtain ⟨selection, hselection, hconsented, holdOffer, holdPayout⟩ := hinv sessionId old hold
  obtain ⟨later, hlater, hstatus, hlaterOffer, hlaterPayout⟩ :=
    hkeeps _ selection hselection hconsented
  refine ⟨later, by rw [hchallenge, hlater], hstatus, ?_, ?_⟩
  · rw [hoffer, holdOffer, hlaterOffer]
  · rw [hpayout, holdPayout, hlaterPayout]

/-- A write leaves the choice a session carries alone. -/
theorem SessionWrite.selection_eq {row written : SessionRow} (hwrite : SessionWrite row written) :
    written.challengeId = row.challengeId ∧ written.poolOfferId = row.poolOfferId ∧
      written.payoutCommitment = row.payoutCommitment := by
  cases hwrite with
  | stop reason hstate => exact ⟨rfl, rfl, rfl⟩
  | renew hstate hlast hrenew => exact ⟨rfl, rfl, rfl⟩
  | restore hstate => exact ⟨rfl, rfl, rfl⟩
  | fail => exact ⟨rfl, rfl, rfl⟩
  | reconfirm => exact ⟨rfl, rfl, rfl⟩

theorem carriesConsented_effect {db after : AuthorityDatabase} (hinv : CarriesConsented db)
    (heffect : SessionEffect db after) : CarriesConsented after := by
  have hkeeps := keepsConsented_effect heffect
  intro sessionId row hrow
  cases heffect with
  | keeps hsessions hselections hwork =>
      rw [hsessions] at hrow
      exact hinv.of_same hkeeps hrow rfl rfl rfl
  | proposes challengeId selection hfree hproposed hselections hsessions hchallenges =>
      rw [hsessions] at hrow
      exact hinv.of_same hkeeps hrow rfl rfl rfl
  | consents selection hold hproposed hconsented hoffer hpayout hselections hsessions
      hchallenges =>
      rw [hsessions] at hrow
      exact hinv.of_same hkeeps hrow rfl rfl rfl
  | closes hsessions hselections hothers hkept =>
      rw [hsessions, lookup_stopSessions, Option.map_eq_some_iff] at hrow
      obtain ⟨old, hold, rfl⟩ := hrow
      apply hinv.of_same hkeeps hold <;> split <;> rfl
  | pauses reason =>
      rw [lookup_stopSessions, Option.map_eq_some_iff] at hrow
      obtain ⟨old, hold, rfl⟩ := hrow
      apply hinv.of_same hkeeps hold <;> split <;> rfl
  | registers registered hfresh hready hchallenge hopen hunder hsets hselections hchallenges =>
      rw [hsets sessionId] at hrow
      split at hrow
      · cases hrow
        rcases hunder with ⟨selection, hselection, hconsented, hoffer, hpayout⟩ |
          ⟨replacedId, replaced, hreplaced, hsame, hoffer, hpayout⟩
        · exact ⟨selection, by rw [hselections, hselection], hconsented, hoffer, hpayout⟩
        · exact hinv.of_same hkeeps hreplaced hsame hoffer hpayout
      · exact hinv.of_same hkeeps hrow rfl rfl rfl
  | leases leaseId continuityId maybeCeremonyId hfound hstart hlast hrenew hactive hsets
      hselections hwork =>
      rw [hsets sessionId] at hrow
      split at hrow
      · cases hrow
        exact hinv.of_same hkeeps hfound rfl rfl rfl
      · exact hinv.of_same hkeeps hrow rfl rfl rfl
  | writes hfound hwrite hsets hselections hchallenges =>
      rw [hsets sessionId] at hrow
      split at hrow
      · cases hrow
        obtain ⟨hsame, hoffer, hpayout⟩ := hwrite.selection_eq
        exact hinv.of_same hkeeps hfound hsame hoffer hpayout
      · exact hinv.of_same hkeeps hrow rfl rfl rfl

theorem carriesConsented_of_run {history : List (AuthorityRequest × AuthorityReply)}
    {db : AuthorityDatabase} (hrun : authorityStore.Run history db) : CarriesConsented db := by
  refine Machine.Run.invariant_of
    (Q := fun _ reached => AccountingInvariant reached ∧ ClosedWhenSatisfied reached)
    (P := fun _ reached => CarriesConsented reached)
    (fun _ _ hreached => ⟨accountingInvariant_of_run hreached, closedWhenSatisfied_of_run hreached⟩)
    ?_ ?_ hrun
  · intro sessionId row hrow
    simp [authorityStore, AuthorityDatabase.empty] at hrow
  · rintro _ _ request - ⟨haccounting, hclosed⟩ hinv
    exact carriesConsented_effect hinv (.of_step haccounting hclosed request)

/-- Along a continued run a consented choice stays. -/
theorem keepsConsented_of_continues {history later : List (AuthorityRequest × AuthorityReply)}
    {db reached : AuthorityDatabase} (hrun : authorityStore.Run history db)
    (hcontinues : authorityStore.Continues history db later reached) :
    KeepsConsented db reached := by
  induction hcontinues with
  | refl => exact .of_eq rfl
  | extend prior request hadmits ih =>
      exact ih.trans (keepsConsented_effect (sessionEffect_of_run (hrun.trans prior) request))

/-- What a confirmation that succeeds found, and what it leaves. -/
theorem confirmPoolSelection_eq_ok {db after : AuthorityDatabase} {challengeId : ChallengeId}
    {payoutCommitment : String} {now : ℕ} {selection : PoolSelectionCommitment}
    (h : db.confirmPoolSelection challengeId payoutCommitment now = (after, .ok selection)) :
    ∃ row, db.poolSelections.lookup challengeId = some row ∧
      row.payoutCommitment = payoutCommitment ∧
      selection = ⟨row.poolOfferId, row.payoutCommitment⟩ ∧
      ∃ later, after.poolSelections.lookup challengeId = some later ∧
        later.status = .consented ∧ later.poolOfferId = row.poolOfferId ∧
        later.payoutCommitment = row.payoutCommitment := by
  simp only [confirmPoolSelection] at h
  split at h
  · cases h
  · split at h
    · cases h
    · next existing hexisting =>
        split at h
        · cases h
        · next hsame =>
            rw [ne_eq, not_not] at hsame
            split at h
            · next hconsented =>
                cases h
                exact ⟨existing, hexisting, hsame, rfl, existing, hexisting, hconsented, rfl, rfl⟩
            · split at h
              · cases h
              · cases h
                refine ⟨existing, hexisting, hsame, rfl, ?_⟩
                rw [Rows.lookup_updateRow, hexisting, Option.map_some]
                exact ⟨_, rfl, rfl, rfl, rfl⟩

end AuthorityDatabase

/-- The pool selection of a challenge is stable: every session carries exactly the consented
choice of its challenge, a confirmation succeeds only for the choice that stands, and a
consented choice stays for the rest of the run. -/
theorem authorityStore_selectionStable {history : List (AuthorityRequest × AuthorityReply)}
    {db : AuthorityDatabase} (hrun : authorityStore.Run history db) :
    db.CarriesConsented ∧
    (∀ challengeId payoutCommitment now after selection,
      db.confirmPoolSelection challengeId payoutCommitment now = (after, .ok selection) →
        ∃ row, db.poolSelections.lookup challengeId = some row ∧
          row.payoutCommitment = payoutCommitment ∧
          selection = ⟨row.poolOfferId, row.payoutCommitment⟩ ∧
          ∃ later, after.poolSelections.lookup challengeId = some later ∧
            later.status = .consented ∧ later.poolOfferId = row.poolOfferId ∧
            later.payoutCommitment = row.payoutCommitment) ∧
    (∀ later reached, authorityStore.Continues history db later reached →
      db.KeepsConsented reached) := by
  refine ⟨AuthorityDatabase.carriesConsented_of_run hrun, ?_, ?_⟩
  · intro challengeId payoutCommitment now after selection hconfirmed
    exact AuthorityDatabase.confirmPoolSelection_eq_ok hconfirmed
  · intro later reached hcontinues
    exact AuthorityDatabase.keepsConsented_of_continues hrun hcontinues

/-- The session of the single share challenge, interrupted and then replaced. -/
def replacedSessionRequests : List AuthorityRequest :=
  singleShareRequests.take 5 ++
    [.interruptWorkSession ⟨"session_a", validSession_a⟩ .reboot,
      .replaceWorkSession ⟨"session_a", validSession_a⟩ ⟨"session_b", validSession_b⟩ 6]

theorem replacedSessionRequests_selectionStable :
    ∃ row selection, (authorityStore.replay replacedSessionRequests).2.sessions.lookup
        ⟨"session_b", by decide⟩ = some row ∧
      (authorityStore.replay replacedSessionRequests).2.poolSelections.lookup row.challengeId =
        some selection ∧ selection.status = .consented ∧
      row.poolOfferId = selection.poolOfferId ∧
      row.payoutCommitment = selection.payoutCommitment := by
  have hrun := Machine.run_replay (M := authorityStore) replacedSessionRequests
    (Machine.admitsAll_of_forall (fun _ _ _ => trivial) _ _)
  obtain ⟨row, hrow⟩ : ∃ row, (authorityStore.replay replacedSessionRequests).2.sessions.lookup
      ⟨"session_b", by decide⟩ = some row := by
    apply Option.isSome_iff_exists.mp
    decide +kernel
  obtain ⟨selection, hselection⟩ := (authorityStore_selectionStable hrun).1 _ row hrow
  exact ⟨row, selection, hrow, hselection⟩

end WorkGate
