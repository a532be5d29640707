/-
# Redeeming a Gate Pass (src/redemption.rs, src/reference_application.rs)

The service checks what the signatures bind and hands the redemption to its store.  A
pass is consumed once, an action is redeemed once, and an account is created once for it,
whatever the workers do in between; a redemption that is refused leaves no trace.
-/

import WorkGate.Lifecycle
import WorkGate.Relying.Effects

namespace WorkGate

open WorkGate.Library

/-! ## The binding of a redemption -/

/-- The failures of a redemption before it reaches the store. -/
inductive RedemptionError
  | wrongIssuer
  | wrongAudience
  | wrongActionReference
  | wrongClaimantKey
  | wrongDpopRequest
  | staleDpopProof
  | expiredGatePass
  deriving DecidableEq, Repr

/-- What the signature of a Gate Pass binds. -/
structure GatePass where
  issuer : String
  passId : String
  audience : String
  actionReference : String
  claimantJkt : String
  protectedActionType : String
  actionPolicy : String
  issuedAt : ℕ
  expiresAt : ℕ

/-- What the signature of a DPoP proof binds. -/
structure DpopProof where
  proofId : String
  claimantJkt : String
  httpMethod : String
  httpUri : String
  issuedAt : ℕ

/-- The service's own configuration. -/
structure ReferenceConfig where
  trustedIssuer : String
  relyingServiceAudience : String
  redemptionUrl : String
  outcomeLookupWindowSeconds : ℕ

/-- `validate_redemption_binding`. -/
def validateRedemptionBinding (config : ReferenceConfig) (expectedActionReference : String)
    (now : ℕ) (gatePass : GatePass) (dpop : DpopProof) : Except RedemptionError Unit :=
  if gatePass.issuer ≠ config.trustedIssuer then .error .wrongIssuer
  else if gatePass.audience ≠ config.relyingServiceAudience then .error .wrongAudience
  else if gatePass.actionReference ≠ expectedActionReference then .error .wrongActionReference
  else if dpop.claimantJkt ≠ gatePass.claimantJkt then .error .wrongClaimantKey
  else if dpop.httpMethod ≠ "POST" ∨ dpop.httpUri ≠ config.redemptionUrl then
    .error .wrongDpopRequest
  else if requestProofIsFresh now dpop.issuedAt dpopFreshnessSeconds = false then
    .error .staleDpopProof
  else if signedArtifactIsTimeValid now gatePass.issuedAt gatePass.expiresAt = false then
    .error .expiredGatePass
  else .ok ()

/-- The failures of the service's `redeem`. -/
inductive ReferenceApplicationError
  | invalidRedemptionBinding
  | timeOverflow
  | persistence (error : ReferencePersistenceError)
  deriving DecidableEq, Repr

/-- What the service hands its store, once the binding holds. -/
def validatedRedemption (config : ReferenceConfig) (expectedActionReference : String) (now : ℕ)
    (gatePass : GatePass) (dpop : DpopProof) :
    Except ReferenceApplicationError ValidatedRedemption :=
  match validateRedemptionBinding config expectedActionReference now gatePass dpop with
  | .error _ => .error .invalidRedemptionBinding
  | .ok () =>
      if 2 ^ 64 ≤ dpop.issuedAt + dpopAcceptanceWindowSeconds then .error .timeOverflow
      else .ok {
        issuer := gatePass.issuer
        passId := gatePass.passId
        audience := gatePass.audience
        actionReference := gatePass.actionReference
        claimantJkt := gatePass.claimantJkt
        protectedActionType := gatePass.protectedActionType
        actionPolicy := gatePass.actionPolicy
        dpopProofId := dpop.proofId
        acceptedAtUnixSeconds := now
        gatePassExpiresAtUnixSeconds := gatePass.expiresAt
        dpopExpiresAtUnixSeconds := dpop.issuedAt + dpopAcceptanceWindowSeconds
        outcomeLookupWindowSeconds := config.outcomeLookupWindowSeconds }

/-- The service's `redeem`. -/
def serviceRedeem (config : ReferenceConfig) (db : RelyingDatabase)
    (expectedActionReference : String) (now : ℕ) (gatePass : GatePass) (dpop : DpopProof)
    (redemptionId : String) :
    RelyingDatabase × Except ReferenceApplicationError RedemptionRecord :=
  match validatedRedemption config expectedActionReference now gatePass dpop with
  | .error error => (db, .error error)
  | .ok redemption =>
      let (after, result) := db.transaction (db.redeem redemption redemptionId)
      (after, result.mapError .persistence)

/-- A pass that validates is one the trusted issuer issued to this service for this action,
still valid, and presented by its own claimant. -/
theorem validateRedemptionBinding_eq_ok {config : ReferenceConfig}
    {expectedActionReference : String} {now : ℕ} {gatePass : GatePass} {dpop : DpopProof}
    (h : validateRedemptionBinding config expectedActionReference now gatePass dpop = .ok ()) :
    gatePass.issuer = config.trustedIssuer ∧
      gatePass.audience = config.relyingServiceAudience ∧
      gatePass.actionReference = expectedActionReference ∧
      dpop.claimantJkt = gatePass.claimantJkt ∧
      dpop.httpMethod = "POST" ∧ dpop.httpUri = config.redemptionUrl ∧
      requestProofIsFresh now dpop.issuedAt dpopFreshnessSeconds = true ∧
      signedArtifactIsTimeValid now gatePass.issuedAt gatePass.expiresAt = true := by
  simp only [validateRedemptionBinding] at h
  obtain ⟨hissuer, h⟩ := guard_eq_ok h
  obtain ⟨haudience, h⟩ := guard_eq_ok h
  obtain ⟨hreference, h⟩ := guard_eq_ok h
  obtain ⟨hclaimant, h⟩ := guard_eq_ok h
  obtain ⟨hrequest, h⟩ := guard_eq_ok h
  obtain ⟨hfresh, h⟩ := guard_eq_ok h
  obtain ⟨hvalid, -⟩ := guard_eq_ok h
  rw [ne_eq, not_not] at hissuer haudience hreference hclaimant
  rw [not_or, not_ne_iff, not_ne_iff] at hrequest
  rw [Bool.not_eq_false] at hfresh hvalid
  exact ⟨hissuer, haudience, hreference, hclaimant, hrequest.1, hrequest.2, hfresh, hvalid⟩

/-! ## Unique redemptions -/

namespace RelyingDatabase

/-- An action has one redemption, and an Action Reference one account. -/
structure UniqueActions (db : RelyingDatabase) : Prop where
  redemptions : ∀ first second row other, db.redemptions.lookup first = some row →
    db.redemptions.lookup second = some other → row.audience = other.audience →
      row.actionReference = other.actionReference → first = second
  accounts : ∀ first second actionReference, db.accounts.lookup first = some actionReference →
    db.accounts.lookup second = some actionReference → first = second

theorem ne_of_redemptionForAction_eq_none {db : RelyingDatabase}
    {audience actionReference redemptionId : String} {row : RedemptionRow}
    (h : db.redemptionForAction audience actionReference = none)
    (hrow : db.redemptions.lookup redemptionId = some row) (haudience : row.audience = audience) :
    row.actionReference ≠ actionReference := by
  rw [redemptionForAction, Option.map_eq_none_iff, List.find?_eq_none] at h
  have hentry := h ⟨redemptionId, row⟩ (Rows.mem_entries_iff.mpr hrow)
  simpa [haudience] using hentry

theorem ne_of_accountFor_eq_none {db : RelyingDatabase} {actionReference accountId : String}
    (h : db.accountFor actionReference = none) :
    db.accounts.lookup accountId ≠ some actionReference := by
  intro hrow
  rw [accountFor, Option.map_eq_none_iff, List.find?_eq_none] at h
  have hentry := h ⟨accountId, actionReference⟩ (Rows.mem_entries_iff.mpr hrow)
  simp at hentry

theorem UniqueActions.of_eq {db after : RelyingDatabase} (hunique : UniqueActions db)
    (hredemptions : after.redemptions = db.redemptions) (haccounts : after.accounts = db.accounts) :
    UniqueActions after where
  redemptions := by
    rw [hredemptions]
    exact hunique.redemptions
  accounts := by
    rw [haccounts]
    exact hunique.accounts

/-- A redemption of an action that had none. -/
theorem UniqueActions.insert {db after : RelyingDatabase} (hunique : UniqueActions db)
    {redemptionId : String} {created : RedemptionRow}
    (hunlinked : db.redemptionForAction created.audience created.actionReference = none)
    (hredemptions : after.redemptions = db.redemptions.insert redemptionId created)
    (haccounts : after.accounts = db.accounts) : UniqueActions after where
  redemptions := by
    intro first second row other hrow hother haudience hreference
    rw [hredemptions, Rows.lookup_insert_eq] at hrow hother
    split at hrow
    · next hfirst =>
        cases hrow
        split at hother
        · next hsecond => rw [hfirst, hsecond]
        · exact absurd hreference.symm
            (ne_of_redemptionForAction_eq_none hunlinked hother haudience.symm)
    · split at hother
      · cases hother
        exact absurd hreference (ne_of_redemptionForAction_eq_none hunlinked hrow haudience)
      · exact hunique.redemptions first second row other hrow hother haudience hreference
  accounts := by
    rw [haccounts]
    exact hunique.accounts

/-- An account an Action Reference takes. -/
theorem UniqueActions.takes {db after : RelyingDatabase} (hunique : UniqueActions db)
    {actionReference accountId account : String}
    (hredemptions : after.redemptions = db.redemptions)
    (htakes : TakesAccount db after actionReference accountId account) : UniqueActions after := by
  obtain ⟨-, haccounts⟩ | ⟨hnone, -, -, haccounts⟩ := htakes
  · exact hunique.of_eq hredemptions haccounts
  · refine ⟨hredemptions ▸ hunique.redemptions, ?_⟩
    intro first second reference hfirst hsecond
    rw [haccounts, Rows.lookup_insert_eq] at hfirst hsecond
    split at hfirst
    · next hid =>
        cases hfirst
        split at hsecond
        · next hother => rw [hid, hother]
        · exact absurd hsecond (ne_of_accountFor_eq_none hnone)
    · split at hsecond
      · cases hsecond
        exact absurd hfirst (ne_of_accountFor_eq_none hnone)
      · exact hunique.accounts first second reference hfirst hsecond

theorem UniqueActions.effect {db after : RelyingDatabase} {request : RelyingRequest}
    {reply : RelyingReply} (hunique : UniqueActions db)
    (heffect : Effect db request reply after) : UniqueActions after := by
  cases heffect with
  | refuses => exact hunique
  | registers _ hredemptions hexecution | proves _ _ _ hredemptions hexecution =>
      exact hunique.of_eq hredemptions.redemptions hexecution.accounts
  | links _ _ _ _ _ hredemptions _ hexecution =>
      exact hunique.of_eq hredemptions hexecution.accounts
  | creates redemption redemptionId _ hunlinked _ _ _ _ _ haudience hreference hredemptions _ _ _ _
      haccounts =>
      rw [← haudience, ← hreference] at hunlinked
      exact hunique.insert hunlinked hredemptions haccounts
  | settles | claims => exact hunique.of_eq rfl rfl
  | completes _ _ _ _ _ _ _ hredemptions _ _ htakes =>
      exact hunique.takes hredemptions.redemptions htakes
  | fails _ _ _ _ _ _ hredemptions haccounts | retries _ _ _ _ _ hredemptions haccounts =>
      exact hunique.of_eq hredemptions.redemptions haccounts

theorem uniqueActions_of_run {history : List (RelyingRequest × RelyingReply)}
    {db : RelyingDatabase} (hrun : relyingStore.Run history db) : UniqueActions db := by
  refine Machine.Run.invariant (P := fun _ reached => UniqueActions reached) ?_ ?_ hrun
  · constructor
    · intro first second row other hrow
      simp [relyingStore, empty] at hrow
    · intro first second reference hrow
      simp [relyingStore, empty] at hrow
  · intro _ reached request _ hunique
    exact hunique.effect (Effect.of_step reached request)

/-! ## What redemptions wrote stays -/

/-- Redemptions and consumptions are never rewritten or deleted. -/
structure KeepsRedeemed (db after : RelyingDatabase) : Prop where
  redemptions : ∀ redemptionId row, db.redemptions.lookup redemptionId = some row →
    after.redemptions.lookup redemptionId = some row
  passConsumptions : ∀ pass row, db.passConsumptions.lookup pass = some row →
    after.passConsumptions.lookup pass = some row

theorem KeepsRedeemed.of_eq {db after : RelyingDatabase} (hkeeps : KeepsRedemptions db after) :
    KeepsRedeemed db after where
  redemptions := by
    intro redemptionId row hrow
    rw [hkeeps.redemptions, hrow]
  passConsumptions := by
    intro pass row hrow
    rw [hkeeps.passConsumptions, hrow]

theorem KeepsRedeemed.trans {db after later : RelyingDatabase} (hfirst : KeepsRedeemed db after)
    (hsecond : KeepsRedeemed after later) : KeepsRedeemed db later where
  redemptions := fun redemptionId row hrow =>
    hsecond.redemptions redemptionId row (hfirst.redemptions redemptionId row hrow)
  passConsumptions := fun pass row hrow =>
    hsecond.passConsumptions pass row (hfirst.passConsumptions pass row hrow)

/-- A row inserted under a new key leaves the others. -/
theorem lookup_insert_of_lookup {κ ρ : Type} [DecidableEq κ] {rows : Rows κ ρ} {key other : κ}
    {row found : ρ} (hfresh : key ∉ rows) (hfound : rows.lookup other = some found) :
    (rows.insert key row).lookup other = some found := by
  rw [AList.lookup_insert_ne, hfound]
  intro heq
  exact hfresh (heq ▸ Rows.mem_of_lookup hfound)

theorem keepsRedeemed_effect {db after : RelyingDatabase} {request : RelyingRequest}
    {reply : RelyingReply} (heffect : Effect db request reply after) : KeepsRedeemed db after := by
  cases heffect with
  | refuses | settles | claims => exact .of_eq ⟨rfl, rfl⟩
  | registers _ hredemptions _ | proves _ _ _ hredemptions _ => exact .of_eq hredemptions
  | links _ _ hfresh _ _ hredemptions hconsumed =>
      constructor
      · intro redemptionId row hrow
        rw [hredemptions, hrow]
      · intro pass row hrow
        rw [hconsumed]
        exact lookup_insert_of_lookup hfresh hrow
  | creates _ _ hfresh _ hnew _ _ _ _ _ _ hredemptions hconsumed =>
      constructor
      · intro other row hrow
        rw [hredemptions]
        exact lookup_insert_of_lookup hnew hrow
      · intro pass row hrow
        rw [hconsumed]
        exact lookup_insert_of_lookup hfresh hrow
  | completes _ _ _ _ _ _ _ hredemptions
  | fails _ _ _ _ _ _ hredemptions
  | retries _ _ _ _ _ hredemptions => exact .of_eq hredemptions

theorem keepsRedeemed_of_continues {history later : List (RelyingRequest × RelyingReply)}
    {db reached : RelyingDatabase}
    (hcontinues : relyingStore.Continues history db later reached) : KeepsRedeemed db reached := by
  induction hcontinues with
  | refl => exact .of_eq ⟨rfl, rfl⟩
  | extend _ request _ ih => exact ih.trans (keepsRedeemed_effect (Effect.of_step _ request))

/-! ## Redeemed once, created once -/

/-- Whether a transaction redeems a pass. -/
def redeemsPass (issuer passId : String) (db : RelyingDatabase) (request : RelyingRequest)
    (_ : RelyingDatabase) : Bool :=
  match request, (relyingStep db request).2 with
  | .redeem redemption _, .redeemed _ =>
      redemption.issuer == issuer && redemption.passId == passId
  | _, _ => false

/-- Whether a redemption is of an action. -/
def isRedemptionOf (db : RelyingDatabase) (audience actionReference redemptionId : String) :
    Bool :=
  match db.redemptions.lookup redemptionId with
  | none => false
  | some row => row.audience == audience && row.actionReference == actionReference

/-- Whether a transaction creates an account for an action. -/
def createsAccount (audience actionReference : String) (db : RelyingDatabase)
    (request : RelyingRequest) (after : RelyingDatabase) : Bool :=
  match request with
  | .completeAccountCreation _ action _ _ _ =>
      db.isRedemptionOf audience actionReference action.redemptionId &&
        decide (after.accounts ≠ db.accounts)
  | _ => false

/-- Some redemption of an action has completed. -/
def HasCompleted (audience actionReference : String) (db : RelyingDatabase) : Prop :=
  ∃ redemptionId row intent, db.redemptions.lookup redemptionId = some row ∧
    row.audience = audience ∧ row.actionReference = actionReference ∧
    db.intents.lookup redemptionId = some intent ∧ intent.status = .completed

/-- The passes that are consumed count the redemptions of each. -/
theorem redeemsPass_step (issuer passId : String) (db : RelyingDatabase)
    (request : RelyingRequest) :
    (if (issuer, passId) ∈ (relyingStep db request).1.passConsumptions then 1 else 0) =
      (if (issuer, passId) ∈ db.passConsumptions then 1 else 0) +
        if redeemsPass issuer passId db request (relyingStep db request).1 then 1 else 0 := by
  have heffect := Effect.of_step db request
  have hinsert : ∀ {redemption : ValidatedRedemption} {row : PassConsumptionRow}
      {after : RelyingDatabase},
      (redemption.issuer, redemption.passId) ∉ db.passConsumptions →
      after.passConsumptions =
        db.passConsumptions.insert (redemption.issuer, redemption.passId) row →
      (if (issuer, passId) ∈ after.passConsumptions then 1 else 0) =
        (if (issuer, passId) ∈ db.passConsumptions then 1 else 0) +
          if (redemption.issuer == issuer && redemption.passId == passId) = true
            then 1 else 0 := by
    intro redemption row after hfresh hafter
    rw [hafter]
    by_cases hsame : redemption.issuer = issuer ∧ redemption.passId = passId
    · obtain ⟨rfl, rfl⟩ := hsame
      simp [hfresh]
    · have hne : ¬ (issuer = redemption.issuer ∧ passId = redemption.passId) := by
        rintro ⟨rfl, rfl⟩
        exact hsame ⟨rfl, rfl⟩
      simp [hne, hsame]
  unfold redeemsPass
  generalize (relyingStep db request).1 = after at heffect ⊢
  generalize (relyingStep db request).2 = reply at heffect ⊢
  cases heffect with
  | refuses => cases request <;> simp
  | registers _ hredemptions | proves _ _ _ hredemptions =>
      simp [hredemptions.passConsumptions]
  | links _ _ hfresh _ _ _ hconsumed => exact hinsert hfresh hconsumed
  | creates _ _ hfresh _ _ _ _ _ _ _ _ _ hconsumed => exact hinsert hfresh hconsumed
  | settles | claims => rfl
  | completes _ _ _ _ _ _ _ hredemptions => simp [hredemptions.passConsumptions]
  | fails _ _ _ _ _ _ hredemptions => simp [hredemptions.passConsumptions]
  | retries _ _ _ _ _ hredemptions => simp [hredemptions.passConsumptions]

theorem HasCompleted.effect {audience actionReference : String} {db after : RelyingDatabase}
    {request : RelyingRequest} {reply : RelyingReply}
    (hcompleted : HasCompleted audience actionReference db)
    (heffect : Effect db request reply after) : HasCompleted audience actionReference after := by
  obtain ⟨redemptionId, row, intent, hrow, haudience, hreference, hintent, hstatus⟩ := hcompleted
  exact ⟨redemptionId, row, intent, (keepsRedeemed_effect heffect).redemptions _ _ hrow, haudience,
    hreference, heffect.keeps_settled hintent (.inl hstatus), hstatus⟩

/-- An account is created for an action none of whose redemptions had completed, and then one
has. -/
theorem createsAccount_step {audience actionReference : String} {db : RelyingDatabase}
    {request : RelyingRequest} (hunique : UniqueActions db)
    (hcreates : createsAccount audience actionReference db request (relyingStep db request).1 =
      true) :
    ¬ HasCompleted audience actionReference db ∧
      HasCompleted audience actionReference (relyingStep db request).1 := by
  have heffect := Effect.of_step db request
  generalize (relyingStep db request).1 = after at heffect hcreates ⊢
  generalize (relyingStep db request).2 = reply at heffect
  cases heffect with
  | refuses error =>
      unfold createsAccount at hcreates
      split at hcreates
      · simp at hcreates
      · cases hcreates
  | completes workerId action _ clock _ hlease _ hredemptions _ _ _ hintents =>
      rw [createsAccount, Bool.and_eq_true, isRedemptionOf] at hcreates
      obtain ⟨hkey, -⟩ := hcreates
      split at hkey
      · cases hkey
      · next row hrow =>
          rw [Bool.and_eq_true, beq_iff_eq, beq_iff_eq] at hkey
          obtain ⟨found, -, hfound, hprocessing, -⟩ := holdsLease_eq_true hlease
          constructor
          · rintro ⟨other, otherRow, intent, hother, haudience, hreference, hintent, hstatus⟩
            have hsame := hunique.redemptions _ _ _ _ hrow hother (hkey.1.trans haudience.symm)
              (hkey.2.trans hreference.symm)
            rw [← hsame, hfound] at hintent
            cases hintent
            rw [hprocessing] at hstatus
            cases hstatus
          · refine ⟨action.redemptionId, row, releasedIntent .completed found, ?_, hkey.1, hkey.2,
              ?_, rfl⟩
            · rw [hredemptions.redemptions, hrow]
            · rw [hintents, Rows.lookup_updateRow, hfound, Option.map_some]
  | registers | proves | links | creates | settles | claims | fails | retries => cases hcreates

theorem countP_redemptions_le_one {db : RelyingDatabase} (hunique : UniqueActions db)
    (audience actionReference : String) :
    (db.redemptions.entries.countP fun entry => entry.2.audience == audience &&
      entry.2.actionReference == actionReference) ≤ 1 := by
  apply Rows.countP_entries_le_one
  intro first second hfirst hsecond hkey hother
  rw [Bool.and_eq_true, beq_iff_eq, beq_iff_eq] at hkey hother
  exact hunique.redemptions _ _ _ _ (Rows.mem_entries_iff.mp hfirst)
    (Rows.mem_entries_iff.mp hsecond) (hkey.1.trans hother.1.symm) (hkey.2.trans hother.2.symm)

theorem countP_accounts_le_one {db : RelyingDatabase} (hunique : UniqueActions db)
    (actionReference : String) :
    (db.accounts.entries.countP fun entry => entry.2 == actionReference) ≤ 1 := by
  apply Rows.countP_entries_le_one
  rintro ⟨first, reference⟩ ⟨second, other⟩ hfirst hsecond hkey hother
  rw [beq_iff_eq] at hkey hother
  subst hkey hother
  exact hunique.accounts first second _ (Rows.mem_entries_iff.mp hfirst)
    (Rows.mem_entries_iff.mp hsecond)

/-- A redemption that is refused leaves every table as it was. -/
theorem redeem_refused {db : RelyingDatabase} {redemption : ValidatedRedemption}
    {redemptionId : String} {error : ReferencePersistenceError}
    (h : (relyingStep db (.redeem redemption redemptionId)).2 = .refused error) :
    (relyingStep db (.redeem redemption redemptionId)).1 = db := by
  have heffect := Effect.of_step db (.redeem redemption redemptionId)
  rw [h] at heffect
  generalize (relyingStep db (.redeem redemption redemptionId)).1 = after at heffect ⊢
  cases heffect
  rfl

/-- A consumed pass is refused. -/
theorem redeem_consumed {db : RelyingDatabase} {redemption : ValidatedRedemption}
    (redemptionId : String)
    (hconsumed : (redemption.issuer, redemption.passId) ∈ db.passConsumptions) :
    ∃ error, relyingStep db (.redeem redemption redemptionId) = (db, .refused error) := by
  have heffect := Effect.of_step db (.redeem redemption redemptionId)
  have hpair : ((relyingStep db (.redeem redemption redemptionId)).1,
    (relyingStep db (.redeem redemption redemptionId)).2) =
      relyingStep db (.redeem redemption redemptionId) := rfl
  rw [← hpair]
  generalize (relyingStep db (.redeem redemption redemptionId)).1 = after at heffect ⊢
  generalize (relyingStep db (.redeem redemption redemptionId)).2 = reply at heffect ⊢
  cases heffect with
  | refuses _ error => exact ⟨error, rfl⟩
  | links _ _ hfresh => exact absurd hconsumed hfresh
  | creates _ _ hfresh => exact absurd hconsumed hfresh

end RelyingDatabase

open RelyingDatabase in
/-- Redemptions are unique and atomic.  In every run, whatever the workers do: a pass is
redeemed at most once, and the redemption it was consumed by stays the same; an action has at
most one redemption and at most one account is created for it, nor has an Action Reference
two accounts; a refused redemption leaves every table as it was; and redeeming a pass again
is refused. -/
theorem relyingStore_redeemsOnce {history : List (RelyingRequest × RelyingReply)}
    {db : RelyingDatabase} (hrun : relyingStore.Run history db) :
    (∀ issuer passId, relyingStore.countSteps (redeemsPass issuer passId) history =
      if (issuer, passId) ∈ db.passConsumptions then 1 else 0) ∧
    (∀ pass row, db.passConsumptions.lookup pass = some row →
      ∀ later reached, relyingStore.Continues history db later reached →
        reached.passConsumptions.lookup pass = some row) ∧
    (∀ audience actionReference,
      (db.redemptions.entries.countP fun entry => entry.2.audience == audience &&
        entry.2.actionReference == actionReference) ≤ 1) ∧
    (∀ audience actionReference,
      relyingStore.countSteps (createsAccount audience actionReference) history ≤ 1) ∧
    (∀ actionReference,
      (db.accounts.entries.countP fun entry => entry.2 == actionReference) ≤ 1) ∧
    (∀ redemption redemptionId error,
      (relyingStep db (.redeem redemption redemptionId)).2 = .refused error →
        (relyingStep db (.redeem redemption redemptionId)).1 = db) ∧
    (∀ (redemption : ValidatedRedemption) redemptionId,
      (redemption.issuer, redemption.passId) ∈ db.passConsumptions →
        ∃ error, relyingStep db (.redeem redemption redemptionId) = (db, .refused error)) := by
  have hunique := uniqueActions_of_run hrun
  refine ⟨?_, ?_, countP_redemptions_le_one hunique, ?_, countP_accounts_le_one hunique, ?_, ?_⟩
  · intro issuer passId
    exact Machine.Run.countSteps_eq (M := relyingStore) _
      (fun reached => if (issuer, passId) ∈ reached.passConsumptions then 1 else 0) rfl
      (fun reached request => redeemsPass_step issuer passId reached request) hrun
  · intro pass row hrow later reached hcontinues
    exact (keepsRedeemed_of_continues hcontinues).passConsumptions pass row hrow
  · intro audience actionReference
    refine Machine.Run.countSteps_le_one (M := relyingStore) _
      (HasCompleted audience actionReference) ?_ ?_ hrun
    · intro _ reached request hreached hcreates
      exact createsAccount_step (uniqueActions_of_run hreached) hcreates
    · intro _ reached request _ hcompleted
      exact hcompleted.effect (Effect.of_step reached request)
  · intro redemption redemptionId error hrefused
    exact redeem_refused hrefused
  · intro redemption redemptionId hconsumed
    exact redeem_consumed redemptionId hconsumed

/-- A pass for an action, accepted at a given time. -/
def exampleRedemption (passId dpopProofId : String) (acceptedAt : ℕ) : ValidatedRedemption where
  issuer := "https://authority.example"
  passId := passId
  audience := "https://relying.example"
  actionReference := "action_01"
  claimantJkt := "claimant_key_01"
  protectedActionType := "account_creation"
  actionPolicy := "account-creation-standard-v1"
  dpopProofId := dpopProofId
  acceptedAtUnixSeconds := acceptedAt
  gatePassExpiresAtUnixSeconds := 200
  dpopExpiresAtUnixSeconds := 160
  outcomeLookupWindowSeconds := 600

/-- The action of those passes. -/
def exampleProtectedAction : NewProtectedAction where
  audience := "https://relying.example"
  actionReference := "action_01"
  claimantJkt := "claimant_key_01"
  protectedActionType := "account_creation"
  actionPolicy := "account-creation-standard-v1"
  executionTimeoutSeconds := 300
  maximumAttempts := 3
  retryableErrorClasses := ["transient"]
  createdAtUnixSeconds := 90

/-- An action redeemed by one pass, executed, and redeemed by a second pass. -/
def redeemedTwiceRequests : List RelyingRequest :=
  [.insertProtectedAction exampleProtectedAction,
    .redeem (exampleRedemption "pass_a" "proof_a" 100) "redemption_a",
    .maybeClaimAction "worker_a" 100 130 [] "attempt_a",
    .completeAccountCreation "worker_a" ⟨"redemption_a", "action_01", 1, ["transient"]⟩ 101 101
      "account_a",
    .redeem (exampleRedemption "pass_b" "proof_b" 110) "redemption_b"]

theorem redeemedTwiceRequests_redeemsOnce :
    (relyingStore.replay redeemedTwiceRequests).2.passConsumptions.lookup
        ("https://authority.example", "pass_b") = some ⟨"redemption_a", 110, 200⟩ ∧
      relyingStore.countSteps (RelyingDatabase.redeemsPass "https://authority.example" "pass_a")
        (relyingStore.replay redeemedTwiceRequests).1 = 1 := by
  have hrun := Machine.run_replay (M := relyingStore) redeemedTwiceRequests
    (Machine.admitsAll_of_forall (fun _ _ _ => trivial) _ _)
  refine ⟨by decide +kernel, ?_⟩
  rw [(relyingStore_redeemsOnce hrun).1]
  decide +kernel

end WorkGate
