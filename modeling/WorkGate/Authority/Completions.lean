/-
# Completing an issuance in two statements (src/authority_persistence/postgres/accounting.rs)

`complete_issuance` is one transaction of two writes that matter: `complete_issuance.sql`
tests the claim and keeps the intent's row locked until the commit, and
`mark_challenge_issued.sql` then writes the challenge without asking for its state.  The
challenge's row is free in between, and `terminalize_expired` locks no other, so the
challenge can expire between the two.  `IssuanceSystem` runs them as steps of their own
among the store's other transactions.
-/

import WorkGate.Authority.Expiry

namespace WorkGate

open WorkGate.Library

namespace AuthorityDatabase

/-- What `complete_issuance.sql` answers: the tests of `complete_issuance`, and what it writes
stays unseen until the commit. -/
def fenceIssuance (db : AuthorityDatabase) (workerId : String) (completed : CompletedIssuance)
    (clock : ℕ) : Except AuthorityPersistenceError Unit :=
  match unixSecondsToI64 completed.issuedAt, unixSecondsToI64 completed.expiresAt with
  | .error error, _ => .error error
  | _, .error error => .error error
  | .ok issuedAt, .ok expiresAt =>
    if !db.holdsClaim completed.challengeId workerId clock then .error .lostSigningLease
    else if issuedAt = 0 ∨ expiresAt ≤ issuedAt then .error .database
    else .ok ()

theorem fenceIssuance_eq_ok {db : AuthorityDatabase} {workerId : String}
    {completed : CompletedIssuance} {clock : ℕ}
    (h : db.fenceIssuance workerId completed clock = .ok ()) :
    db.holdsClaim completed.challengeId workerId clock = true := by
  simp only [fenceIssuance] at h
  split at h
  · cases h
  · cases h
  · split at h
    · cases h
    · next hholds => simpa using hholds

/-- The tests read the intent of the challenge and nothing else. -/
theorem fenceIssuance_congr {db after : AuthorityDatabase} {completed : CompletedIssuance}
    (h : after.intents.lookup completed.challengeId = db.intents.lookup completed.challengeId)
    (workerId : String) (clock : ℕ) :
    after.fenceIssuance workerId completed clock = db.fenceIssuance workerId completed clock := by
  have hholds : after.holdsClaim completed.challengeId workerId clock =
      db.holdsClaim completed.challengeId workerId clock := by
    rw [holdsClaim, holdsClaim, h]
  simp only [fenceIssuance, hholds]

/-- With nothing in between, the two statements are the transaction. -/
theorem completeIssuance_eq (db : AuthorityDatabase) (workerId : String)
    (completed : CompletedIssuance) (clock : ℕ) :
    db.completeIssuance workerId completed clock =
      match db.fenceIssuance workerId completed clock with
      | .error error => rollback db error
      | .ok () => commit (db.issuePass completed) () := by
  simp only [completeIssuance, fenceIssuance]
  cases hissued : unixSecondsToI64 completed.issuedAt with
  | error error => rfl
  | ok issuedAt =>
      cases hexpires : unixSecondsToI64 completed.expiresAt with
      | error error => rfl
      | ok expiresAt =>
          obtain ⟨rfl, -⟩ := unixSecondsToI64_eq_ok hissued
          obtain ⟨rfl, -⟩ := unixSecondsToI64_eq_ok hexpires
          simp only
          split
          · rfl
          · split
            · rfl
            · rfl

/-- Committed at its second statement, a completion is the transaction run then at the instant
of its first. -/
theorem authorityStep_completeIssuance {db : AuthorityDatabase} {workerId : String}
    {completed : CompletedIssuance} {clock : ℕ}
    (h : db.fenceIssuance workerId completed clock = .ok ()) :
    authorityStep db (.completeIssuance workerId completed clock) =
      (db.issuePass completed, .done) := by
  simp only [authorityStep, answer, completeIssuance_eq, h]
  rfl

end AuthorityDatabase

/-! ## The system -/

/-- A completion whose first statement has run, at the database's `clock`. -/
structure Completion where
  workerId : String
  completed : AuthorityDatabase.CompletedIssuance
  clock : ℕ

/-- The committed tables, and the completions that hold the intent of a challenge. -/
structure IssuanceSystem where
  store : AuthorityDatabase
  fenced : Rows ChallengeId Completion

inductive IssuanceRequest
  | transaction (request : AuthorityRequest)
  | fenceIssuance (workerId : String) (completed : AuthorityDatabase.CompletedIssuance)
      (clock : ℕ)
  /-- The remaining statements of a completion, and its commit. -/
  | markChallengeIssued (challengeId : ChallengeId)
  /-- A completion that is rolled back instead. -/
  | abandonIssuance (challengeId : ChallengeId)

def IssuanceRequest.maybeNow : IssuanceRequest → Option ℕ
  | .transaction request => request.maybeNow
  | .fenceIssuance _ _ clock => some clock
  | _ => none

/-- The latest instant at which anything in the history ran. -/
def latestTime : List (IssuanceRequest × AuthorityReply) → ℕ
  | [] => 0
  | (request, _) :: earlier => max (request.maybeNow.getD 0) (latestTime earlier)

namespace IssuanceSystem

/-- Whether no completion keeps a transaction waiting.  `fail_expired_issuance` waits for the
rows it has to fail, and `claim_issuance` skips the locked ones. -/
def Unblocked (system : IssuanceSystem) : AuthorityRequest → Prop
  | .completeIssuance _ _ _ => False
  | .maybeClaimIssuance _ now _ locked => ∀ challengeId ∈ system.fenced.keys,
      challengeId ∈ locked ∧ system.store.issuanceExpired challengeId now = false
  | _ => True

/-- What may come next.  A second completion waits for the first to end. -/
def Admits (system : IssuanceSystem) : IssuanceRequest → Prop
  | .transaction request => system.Unblocked request
  | .fenceIssuance _ completed _ => completed.challengeId ∉ system.fenced
  | .markChallengeIssued challengeId => challengeId ∈ system.fenced
  | .abandonIssuance challengeId => challengeId ∈ system.fenced

instance decidableUnblocked (system : IssuanceSystem) :
    (request : AuthorityRequest) → Decidable (system.Unblocked request)
  | .completeIssuance _ _ _ => isFalse id
  | .maybeClaimIssuance _ now _ locked =>
      inferInstanceAs (Decidable (∀ challengeId ∈ system.fenced.keys,
        challengeId ∈ locked ∧ system.store.issuanceExpired challengeId now = false))
  | .insertChallenge _ | .proposePoolSelection _ _ _ _ | .confirmPoolSelection _ _ _
  | .insertWorkSession _ _ _ | .replaceWorkSession _ _ _
  | .releaseMaterialPoolOfferReplacement _ _ _ | .challengeLifecycle _ _ | .pauseChallenge _ _ _
  | .cancelChallenge _ _ | .startWorkLease _ | .renewWorkLease _ | .interruptWorkSession _ _
  | .confirmWorkSessionRestored _ | .failWorkSession _ | .consumeIssuanceProof _ _ _ _
  | .consentTables _ _ | .acceptWork _ _ _ _ _ => isTrue trivial

instance decidableAdmits (system : IssuanceSystem) :
    (request : IssuanceRequest) → Decidable (system.Admits request)
  | .transaction request => decidableUnblocked system request
  | .fenceIssuance _ completed _ =>
      inferInstanceAs (Decidable (completed.challengeId ∉ system.fenced))
  | .markChallengeIssued challengeId =>
      inferInstanceAs (Decidable (challengeId ∈ system.fenced))
  | .abandonIssuance challengeId => inferInstanceAs (Decidable (challengeId ∈ system.fenced))

def step (system : IssuanceSystem) : IssuanceRequest → IssuanceSystem × AuthorityReply
  | .transaction request =>
      ({ system with store := (authorityStep system.store request).1 },
        (authorityStep system.store request).2)
  | .fenceIssuance workerId completed clock =>
      match system.store.fenceIssuance workerId completed clock with
      | .error error => (system, .refused error)
      | .ok () =>
          ({ system with
            fenced := system.fenced.insert completed.challengeId ⟨workerId, completed, clock⟩ },
            .done)
  | .markChallengeIssued challengeId =>
      match system.fenced.lookup challengeId with
      | none => (system, .refused .lostSigningLease)
      | some completion =>
          ({ store := system.store.issuePass completion.completed
             fenced := system.fenced.erase challengeId }, .done)
  | .abandonIssuance challengeId =>
      ({ system with fenced := system.fenced.erase challengeId }, .done)

end IssuanceSystem

/-- The store's transactions, the statements of its completions among them, where the clock,
the application's and the database's, never goes back. -/
def issuanceSystem : Machine IssuanceSystem IssuanceRequest AuthorityReply where
  init := ⟨AuthorityDatabase.empty, ∅⟩
  admits := fun history system request => system.Admits request ∧
    ∀ now, request.maybeNow = some now → latestTime history ≤ now
  step := IssuanceSystem.step

instance decidableIssuanceAdmits (history : List (IssuanceRequest × AuthorityReply))
    (system : IssuanceSystem) (request : IssuanceRequest) :
    Decidable (issuanceSystem.admits history system request) :=
  inferInstanceAs (Decidable (system.Admits request ∧
    ∀ now ∈ request.maybeNow, latestTime history ≤ now))

/-! ## Overtaken completions -/

/-- Whether a transaction has expired the challenge since a completion fenced its intent. -/
def overtaken (challengeId : ChallengeId) : List (IssuanceRequest × AuthorityReply) → Bool
  | [] => false
  | (.transaction request, _) :: earlier =>
      request.terminalizes (issuanceSystem.stateAfter earlier).store challengeId ||
        overtaken challengeId earlier
  | (.fenceIssuance _ completed _, .done) :: earlier =>
      completed.challengeId != challengeId && overtaken challengeId earlier
  | _ :: earlier => overtaken challengeId earlier

/-- A completion that was overtaken does not go on. -/
def undisturbed (history : List (IssuanceRequest × AuthorityReply)) (_ : IssuanceSystem) :
    IssuanceRequest → Prop
  | .markChallengeIssued challengeId => overtaken challengeId history = false
  | _ => True

/-! ## Passes, claims and fences -/

/-- Whether a history entry wrote the pass of a challenge. -/
def issuesPass (challengeId : ChallengeId) : IssuanceRequest × AuthorityReply → Bool
  | (.markChallengeIssued marked, .done) => marked == challengeId
  | _ => false

/-- The worker that was last handed the intent of a challenge, with the end of its claim. -/
def currentClaim (challengeId : ChallengeId) :
    List (IssuanceRequest × AuthorityReply) → Option (String × ℕ)
  | [] => none
  | (.transaction (.maybeClaimIssuance workerId _ leaseExpiresAt _), .claimed (some claimed)) ::
      earlier =>
      if claimed.challengeId = challengeId then some (workerId, leaseExpiresAt)
      else currentClaim challengeId earlier
  | _ :: earlier => currentClaim challengeId earlier

/-- The current claim moves only with an answered claim. -/
theorem currentClaim_cons (challengeId : ChallengeId) (request : IssuanceRequest)
    (reply : AuthorityReply) (history : List (IssuanceRequest × AuthorityReply)) :
    (∃ workerId now leaseExpiresAt locked claimed,
      request = .transaction (.maybeClaimIssuance workerId now leaseExpiresAt locked) ∧
      reply = .claimed (some claimed) ∧ claimed.challengeId = challengeId ∧
      currentClaim challengeId ((request, reply) :: history) = some (workerId, leaseExpiresAt)) ∨
    currentClaim challengeId ((request, reply) :: history) = currentClaim challengeId history := by
  unfold currentClaim
  split
  · next heq => cases heq
  · next workerId now leaseExpiresAt locked claimed earlier heq =>
      obtain ⟨hentry, rfl⟩ := List.cons.inj heq
      obtain ⟨rfl, rfl⟩ := Prod.mk.inj hentry
      split
      · next hclaimed => exact .inl ⟨_, _, _, _, _, rfl, rfl, hclaimed, rfl⟩
      · exact .inr (by rw [currentClaim.eq_def])
  · next heq =>
      obtain ⟨-, rfl⟩ := List.cons.inj heq
      exact .inr (by rw [currentClaim.eq_def])

namespace AuthorityDatabase

/-- Whether a challenge has its pass. -/
def hasPass (db : AuthorityDatabase) (challengeId : ChallengeId) : Bool :=
  (db.intents.lookup challengeId).any fun intent => intent.status == .issued

theorem hasPass_iff {db : AuthorityDatabase} {challengeId : ChallengeId} :
    db.hasPass challengeId = true ↔
      ∃ intent, db.intents.lookup challengeId = some intent ∧ intent.status = .issued := by
  simp [hasPass, Option.any_eq_true]

theorem hasPass_issuePass {db : AuthorityDatabase} {completed : CompletedIssuance}
    {intent : IntentRow} (hintent : db.intents.lookup completed.challengeId = some intent)
    (challengeId : ChallengeId) :
    (db.issuePass completed).hasPass challengeId =
      if challengeId = completed.challengeId then true else db.hasPass challengeId := by
  obtain ⟨issued, hissued, -, hlookup⟩ := lookup_issuePass hintent challengeId
  rw [hasPass, hlookup]
  split
  · simp [hissued]
  · rfl

end AuthorityDatabase

/-- What a completion between its two statements stands on: its claim is still the one in the
table, and the challenge waits for its pass unless it was overtaken. -/
structure FencedBy (history : List (IssuanceRequest × AuthorityReply)) (store : AuthorityDatabase)
    (challengeId : ChallengeId) (completion : Completion) : Prop where
  completed : completion.completed.challengeId = challengeId
  fences : store.fenceIssuance completion.workerId completion.completed completion.clock = .ok ()
  challenge : store.InState challengeId
    (if overtaken challengeId history then .expired else .satisfied)

/-- What the history says about issuance, compared with the tables. -/
structure IssuanceTrace (history : List (IssuanceRequest × AuthorityReply))
    (system : IssuanceSystem) : Prop where
  fence : system.store.FenceInvariant (latestTime history)
  accounting : system.store.AccountingInvariant
  deadlines : system.store.DeadlinesFit
  passes : ∀ challengeId, history.countP (issuesPass challengeId) =
    if system.store.hasPass challengeId then 1 else 0
  claims : ∀ challengeId intent, system.store.intents.lookup challengeId = some intent →
    intent.status = .signing → ∃ workerId leaseExpiresAt,
      currentClaim challengeId history = some (workerId, leaseExpiresAt) ∧
      intent.signingLeaseOwner = some workerId ∧
      intent.signingLeaseExpiresAtUnixSeconds = some leaseExpiresAt
  fenced : system.fenced.All fun challengeId completion =>
    FencedBy history system.store challengeId completion

namespace IssuanceTrace

open AuthorityDatabase

variable {history : List (IssuanceRequest × AuthorityReply)} {system : IssuanceSystem}

theorem start : IssuanceTrace [] ⟨AuthorityDatabase.empty, ∅⟩ where
  fence := by
    intro challengeId intent hintent
    simp [AuthorityDatabase.empty] at hintent
  accounting := .empty
  deadlines := by
    intro challengeId row hrow
    simp [AuthorityDatabase.empty] at hrow
  passes := fun _ => rfl
  claims := by
    intro challengeId intent hintent
    simp [AuthorityDatabase.empty] at hintent
  fenced := .empty

theorem completes_of_unblocked {request : AuthorityRequest} (h : system.Unblocked request) :
    request.completes = false := by
  cases request with
  | completeIssuance => exact h.elim
  | _ => rfl

/-- The intent of a fenced challenge is locked. -/
theorem lookup_fenced_step {clock : ℕ} (hinv : system.store.FenceInvariant clock)
    {request : AuthorityRequest} (hunblocked : system.Unblocked request)
    {challengeId : ChallengeId} (hmem : challengeId ∈ system.fenced) {intent : IntentRow}
    (hintent : system.store.intents.lookup challengeId = some intent) :
    (authorityStep system.store request).1.intents.lookup challengeId = some intent := by
  cases request with
  | maybeClaimIssuance workerId now leaseExpiresAt locked =>
      obtain ⟨hlocked, hahead⟩ := hunblocked challengeId (AList.mem_keys.mp hmem)
      exact lookup_maybeClaimIssuance_locked hlocked hahead hintent
  | completeIssuance => exact hunblocked.elim
  | _ =>
      exact lookup_intents_effect hinv (authorityEffect_of_step system.store _) (by simp) rfl
        hintent

/-- No such transaction gives a pass or takes one. -/
theorem hasPass_transaction {request : AuthorityRequest} {db : AuthorityDatabase}
    (hother : request.completes = false) (hkeeps : db.KeepsSettled (authorityStep db request).1)
    (challengeId : ChallengeId) :
    (authorityStep db request).1.hasPass challengeId = db.hasPass challengeId := by
  rw [Bool.eq_iff_iff]
  constructor
  · intro hafter
    obtain ⟨after, hlookup, hissued⟩ := hasPass_iff.mp hafter
    generalize hentry : (request, (authorityStep db request).2) = entry
    have hstep := intentStep_of_step hother hlookup
    rw [hentry] at hstep
    cases hstep with
    | kept hkept => exact hasPass_iff.mpr ⟨after, hkept, hissued⟩
    | created hpending => simp [hissued] at hpending
    | failed hfailed => simp [hissued] at hfailed
    | claimed _ hsigning _ _ => simp [hissued] at hsigning
  · intro hbefore
    obtain ⟨intent, hintent, hissued⟩ := hasPass_iff.mp hbefore
    exact hasPass_iff.mpr ⟨intent, hkeeps.intents _ _ hintent (.inl hissued), hissued⟩

/-- Whose claim a signing intent is under, after one transaction. -/
theorem claims_transaction (htrace : IssuanceTrace history system) {request : AuthorityRequest}
    (hother : request.completes = false) {challengeId : ChallengeId} {intent : IntentRow}
    (hintent : (authorityStep system.store request).1.intents.lookup challengeId = some intent)
    (hsigning : intent.status = .signing) :
    ∃ workerId leaseExpiresAt, currentClaim challengeId
        ((.transaction request, (authorityStep system.store request).2) :: history) =
          some (workerId, leaseExpiresAt) ∧
      intent.signingLeaseOwner = some workerId ∧
      intent.signingLeaseExpiresAtUnixSeconds = some leaseExpiresAt := by
  rcases currentClaim_cons challengeId (.transaction request)
      (authorityStep system.store request).2 history with
    ⟨workerId, now, leaseExpiresAt, locked, claimed, heq, hreply, rfl, hcurrent⟩ | hcurrent
  · cases heq
    obtain ⟨marked, hmarked, howner, hlease⟩ := lookup_claimed hreply
    rw [hintent] at hmarked
    cases hmarked
    exact ⟨workerId, leaseExpiresAt, hcurrent, howner, hlease⟩
  · rw [hcurrent]
    generalize hreply : (authorityStep system.store request).2 = reply at hcurrent
    generalize hentry : (request, reply) = entry
    have hstep := intentStep_of_step hother hintent
    rw [hreply, hentry] at hstep
    cases hstep with
    | kept hkept => exact htrace.claims challengeId intent hkept hsigning
    | created hpending => simp [hsigning] at hpending
    | failed hfailed => simp [hsigning] at hfailed
    | @claimed workerId now leaseExpiresAt locked claimed hclaimed _ howner hlease =>
        cases hentry
        rw [currentClaim, if_pos hclaimed] at hcurrent
        exact ⟨workerId, leaseExpiresAt, hcurrent.symm, howner, hlease⟩

/-- A transaction leaves a completion what it stands on, or overtakes it. -/
theorem fencedBy_transaction (htrace : IssuanceTrace history system)
    (hstate : issuanceSystem.stateAfter history = system) {request : AuthorityRequest}
    (hunblocked : system.Unblocked request)
    (hkeeps : system.store.KeepsSettled (authorityStep system.store request).1)
    {challengeId : ChallengeId} {completion : Completion}
    (hcompletion : system.fenced.lookup challengeId = some completion) (reply : AuthorityReply) :
    FencedBy ((.transaction request, reply) :: history) (authorityStep system.store request).1
      challengeId completion := by
  obtain ⟨rfl, hfences, hchallenge⟩ := htrace.fenced challengeId completion hcompletion
  have hmem := Rows.mem_of_lookup hcompletion
  obtain ⟨intent, leaseExpiresAt, hintent, -, -, -, -, hahead⟩ :=
    holdsClaim_iff.mp (fenceIssuance_eq_ok hfences)
  have hlocked := lookup_fenced_step htrace.fence hunblocked hmem hintent
  refine ⟨rfl, ?_, ?_⟩
  · rw [fenceIssuance_congr (hlocked.trans hintent.symm), hfences]
  · rw [overtaken, hstate]
    obtain ⟨row, hrow, hdeadline, -⟩ := htrace.fence _ intent hintent
    cases hovertaken : overtaken completion.completed.challengeId history with
    | true =>
        rw [hovertaken] at hchallenge
        obtain ⟨found, hfound, hexpired⟩ := hchallenge
        obtain ⟨later, hlater, hsame⟩ := hkeeps.terminal _ found hfound (.inr hexpired)
        simp only [Bool.or_true, if_true]
        exact ⟨later, hlater, hsame.trans hexpired⟩
    | false =>
        rw [hovertaken] at hchallenge
        rw [Bool.or_false]
        cases hterminalizes : request.terminalizes system.store completion.completed.challengeId
          with
        | true =>
            obtain ⟨found, hfound, hsatisfied⟩ := hchallenge
            rw [hrow, Option.some.injEq] at hfound
            subst hfound
            exact expired_step hrow hsatisfied (by omega) (htrace.deadlines _ row hrow)
              hterminalizes
        | false =>
            refine satisfied_step hchallenge hterminalizes (completes_of_unblocked hunblocked) ?_
            rintro workerId now leaseExpiresAt locked rfl
            exact (hunblocked _ (AList.mem_keys.mp hmem)).2

/-- One unblocked transaction keeps the trace in step with the tables. -/
theorem transaction (htrace : IssuanceTrace history system)
    (hstate : issuanceSystem.stateAfter history = system) {request : AuthorityRequest}
    (hunblocked : system.Unblocked request)
    (hle : ∀ now, request.maybeNow = some now → latestTime history ≤ now) :
    IssuanceTrace ((.transaction request, (authorityStep system.store request).2) :: history)
      { system with store := (authorityStep system.store request).1 } := by
  have hother := completes_of_unblocked hunblocked
  obtain ⟨hfence, hkeeps⟩ := fence_step htrace.fence htrace.accounting hother hle
  refine ⟨hfence, htrace.accounting.step request, deadlinesFit_step htrace.deadlines request, ?_,
    ?_, ?_⟩
  · intro challengeId
    rw [List.countP_cons, htrace.passes, hasPass_transaction hother hkeeps]
    rfl
  · intro challengeId intent hintent hsigning
    exact claims_transaction htrace hother hintent hsigning
  · intro challengeId completion hcompletion
    exact fencedBy_transaction htrace hstate hunblocked hkeeps hcompletion _

/-- The first statement of a completion writes nothing that others see. -/
theorem fences (htrace : IssuanceTrace history system) {workerId : String}
    {completed : CompletedIssuance} {clock : ℕ} (hle : latestTime history ≤ clock)
    (h : system.store.fenceIssuance workerId completed clock = .ok ()) :
    IssuanceTrace ((.fenceIssuance workerId completed clock, .done) :: history)
      { system with
        fenced := system.fenced.insert completed.challengeId ⟨workerId, completed, clock⟩ } := by
  refine ⟨htrace.fence.mono (le_max_right _ _), htrace.accounting, htrace.deadlines, ?_,
    htrace.claims, ?_⟩
  · intro challengeId
    rw [List.countP_cons, htrace.passes]
    rfl
  · intro challengeId completion hcompletion
    rw [Rows.lookup_insert_eq] at hcompletion
    split at hcompletion
    · next heq =>
        subst heq
        cases hcompletion
        obtain ⟨intent, leaseExpiresAt, hintent, hsigning, -, -, -, hahead⟩ :=
          holdsClaim_iff.mp (fenceIssuance_eq_ok h)
        obtain ⟨row, hrow, hsatisfied, -⟩ :=
          satisfied_of_claim htrace.fence hle hintent hsigning hahead
        refine ⟨rfl, h, row, hrow, ?_⟩
        simp [overtaken, hsatisfied]
    · next hne =>
        obtain ⟨rfl, hfences, hchallenge⟩ := htrace.fenced challengeId completion hcompletion
        refine ⟨rfl, hfences, ?_⟩
        rwa [overtaken, bne_iff_ne.mpr (Ne.symm hne), Bool.true_and]

/-- Nor does a first statement that is refused. -/
theorem refuses (htrace : IssuanceTrace history system) (workerId : String)
    (completed : CompletedIssuance) (clock : ℕ) (error : AuthorityPersistenceError) :
    IssuanceTrace ((.fenceIssuance workerId completed clock, .refused error) :: history)
      system := by
  refine ⟨htrace.fence.mono (le_max_right _ _), htrace.accounting, htrace.deadlines, ?_,
    htrace.claims, ?_⟩
  · intro challengeId
    rw [List.countP_cons, htrace.passes]
    rfl
  · intro challengeId completion hcompletion
    obtain ⟨rfl, hfences, hchallenge⟩ := htrace.fenced challengeId completion hcompletion
    exact ⟨rfl, hfences, hchallenge⟩

theorem abandons (htrace : IssuanceTrace history system) (abandoned : ChallengeId) :
    IssuanceTrace ((.abandonIssuance abandoned, .done) :: history)
      { system with fenced := system.fenced.erase abandoned } := by
  refine ⟨htrace.fence.mono (le_max_right _ _), htrace.accounting, htrace.deadlines, ?_,
    htrace.claims, ?_⟩
  · intro challengeId
    rw [List.countP_cons, htrace.passes]
    rfl
  · intro challengeId completion hcompletion
    rw [Rows.lookup_erase_eq] at hcompletion
    split at hcompletion
    · cases hcompletion
    · obtain ⟨rfl, hfences, hchallenge⟩ := htrace.fenced challengeId completion hcompletion
      exact ⟨rfl, hfences, hchallenge⟩

/-- The second statement gives the challenge its pass, and the other completions stay. -/
theorem marks (htrace : IssuanceTrace history system) {marked : ChallengeId}
    {completion : Completion} (hcompletion : system.fenced.lookup marked = some completion) :
    IssuanceTrace ((.markChallengeIssued marked, .done) :: history)
      ⟨system.store.issuePass completion.completed, system.fenced.erase marked⟩ := by
  obtain ⟨rfl, hfences, hchallenge⟩ := htrace.fenced marked completion hcompletion
  obtain ⟨intent, leaseExpiresAt, hintent, hsigning, -⟩ :=
    holdsClaim_iff.mp (fenceIssuance_eq_ok hfences)
  have hstep := authorityStep_completeIssuance hfences
  refine ⟨(fence_issuePass htrace.fence hintent).mono (le_max_right _ _), ?_, ?_, ?_, ?_, ?_⟩
  · have haccounting := htrace.accounting.step
      (.completeIssuance completion.workerId completion.completed completion.clock)
    rwa [hstep] at haccounting
  · have hdeadlines := deadlinesFit_step htrace.deadlines
      (.completeIssuance completion.workerId completion.completed completion.clock)
    rwa [hstep] at hdeadlines
  · intro challengeId
    rw [List.countP_cons, htrace.passes, hasPass_issuePass hintent]
    by_cases heq : completion.completed.challengeId = challengeId
    · subst heq
      simp [issuesPass, hasPass, hintent, hsigning]
    · simp [issuesPass, heq, Ne.symm heq]
  · intro challengeId found hfound hfoundSigning
    obtain ⟨issued, hissued, -, hlookup⟩ := lookup_issuePass hintent challengeId
    rw [hlookup] at hfound
    split at hfound
    · cases hfound
      rw [hissued] at hfoundSigning
      cases hfoundSigning
    · exact htrace.claims challengeId found hfound hfoundSigning
  · intro challengeId other hother
    rw [Rows.lookup_erase_eq] at hother
    split at hother
    · cases hother
    · next hne =>
        obtain ⟨rfl, hotherFences, hotherChallenge⟩ := htrace.fenced challengeId other hother
        have hkept := hotherChallenge.setLifecycle_ne hne .passIssued completion.completed.issuedAt
          fun _ => some completion.completed.issuedAt
        refine ⟨rfl, ?_, hkept.of_eq rfl⟩
        obtain ⟨issued, -, -, hlookup⟩ := lookup_issuePass hintent other.completed.challengeId
        rw [if_neg hne] at hlookup
        rw [fenceIssuance_congr hlookup, hotherFences]

/-- The trace along every run. -/
theorem of_run (hrun : issuanceSystem.Run history system) : IssuanceTrace history system := by
  refine Machine.Run.invariant_of
    (Q := fun history system => issuanceSystem.stateAfter history = system)
    (P := fun history system => IssuanceTrace history system) ?_ start ?_ hrun
  · intro history system hrun
    exact hrun.stateAfter_eq
  · rintro history system request ⟨hadmits, hle⟩ hstate htrace
    cases request with
    | transaction request => exact htrace.transaction hstate hadmits hle
    | fenceIssuance workerId completed clock =>
        simp only [issuanceSystem, IssuanceSystem.step]
        cases hfence : system.store.fenceIssuance workerId completed clock with
        | error error => exact htrace.refuses workerId completed clock error
        | ok _ => exact htrace.fences (hle clock rfl) hfence
    | markChallengeIssued challengeId =>
        obtain ⟨completion, hcompletion⟩ := Rows.exists_lookup_of_mem hadmits
        simp only [issuanceSystem, IssuanceSystem.step, hcompletion]
        exact htrace.marks hcompletion
    | abandonIssuance challengeId => exact htrace.abandons challengeId

end IssuanceTrace

namespace IssuanceSystem

open AuthorityDatabase

variable {history later : List (IssuanceRequest × AuthorityReply)} {system reached : IssuanceSystem}

/-- The store of every run is one the store's own machine reaches: a completion counts as the
transaction run at its second statement. -/
theorem store_run (hrun : issuanceSystem.Run history system) :
    ∃ transactions, authorityStore.Run transactions system.store := by
  refine Machine.Run.invariant_of
    (Q := fun history system => IssuanceTrace history system)
    (P := fun _ system => ∃ transactions, authorityStore.Run transactions system.store)
    (fun _ _ hrun => .of_run hrun) ⟨[], .start⟩ ?_ hrun
  rintro history system request ⟨hadmits, -⟩ htrace ⟨transactions, hstore⟩
  cases request with
  | transaction request => exact ⟨_, hstore.extend request trivial⟩
  | fenceIssuance workerId completed clock =>
      simp only [issuanceSystem, step]
      split
      · exact ⟨transactions, hstore⟩
      · exact ⟨transactions, hstore⟩
  | markChallengeIssued challengeId =>
      obtain ⟨completion, hcompletion⟩ := Rows.exists_lookup_of_mem hadmits
      have hstep := authorityStep_completeIssuance (htrace.fenced _ _ hcompletion).fences
      have hextended := hstore.extend
        (.completeIssuance completion.workerId completion.completed completion.clock) trivial
      simp only [authorityStore, hstep] at hextended
      simp only [issuanceSystem, step, hcompletion]
      exact ⟨_, hextended⟩
  | abandonIssuance challengeId => exact ⟨transactions, hstore⟩

/-- A completion that goes on reopens its challenge exactly if it was overtaken. -/
theorem keepsSettled_mark (htrace : IssuanceTrace history system) {challengeId : ChallengeId}
    {completion : Completion} (hcompletion : system.fenced.lookup challengeId = some completion) :
    system.store.KeepsSettled (system.store.issuePass completion.completed) ↔
      overtaken challengeId history = false := by
  obtain ⟨rfl, hfences, row, hrow, hstate⟩ := htrace.fenced challengeId completion hcompletion
  obtain ⟨intent, leaseExpiresAt, hintent, hsigning, -⟩ :=
    holdsClaim_iff.mp (fenceIssuance_eq_ok hfences)
  cases hovertaken : overtaken completion.completed.challengeId history with
  | true =>
      rw [hovertaken] at hstate
      simp only [Bool.true_eq_false, iff_false]
      exact not_keepsSettled_issuePass hrow hstate
  | false =>
      rw [hovertaken] at hstate
      simp only [iff_true]
      exact .issuePass hintent hsigning hrow hstate

/-- Every step keeps what is settled, except that of an overtaken completion. -/
theorem keepsSettled_step (hrun : issuanceSystem.Run history system) {request : IssuanceRequest}
    (hadmits : issuanceSystem.admits history system request) :
    system.store.KeepsSettled (system.step request).1.store ↔
      undisturbed history system request := by
  have htrace := IssuanceTrace.of_run hrun
  cases request with
  | transaction request =>
      have hother := IssuanceTrace.completes_of_unblocked hadmits.1
      exact iff_of_true (fence_step htrace.fence htrace.accounting hother hadmits.2).2 trivial
  | fenceIssuance workerId completed clock =>
      refine iff_of_true ?_ trivial
      simp only [step]
      split
      · exact .refl _
      · exact .refl _
  | markChallengeIssued challengeId =>
      obtain ⟨completion, hcompletion⟩ := Rows.exists_lookup_of_mem hadmits.1
      simp only [step, hcompletion]
      exact keepsSettled_mark htrace hcompletion
  | abandonIssuance challengeId => exact iff_of_true (.refl _) trivial

theorem keepsIntents_step (hrun : issuanceSystem.Run history system) {request : IssuanceRequest}
    (hadmits : issuanceSystem.admits history system request) :
    system.store.KeepsIntents (system.step request).1.store := by
  have htrace := IssuanceTrace.of_run hrun
  cases request with
  | markChallengeIssued challengeId =>
      obtain ⟨completion, hcompletion⟩ := Rows.exists_lookup_of_mem hadmits.1
      obtain ⟨rfl, hfences, -⟩ := htrace.fenced challengeId completion hcompletion
      obtain ⟨intent, leaseExpiresAt, hintent, hsigning, -⟩ :=
        holdsClaim_iff.mp (fenceIssuance_eq_ok hfences)
      simp only [step, hcompletion]
      exact .issuePass hintent hsigning
  | _ => exact ((keepsSettled_step hrun hadmits).mpr trivial).intents

theorem keepsIntents_of_continues (hrun : issuanceSystem.Run history system)
    (hcontinues : issuanceSystem.Continues history system later reached) :
    system.store.KeepsIntents reached.store := by
  induction hcontinues with
  | refl => exact (KeepsSettled.refl _).intents
  | extend prior request hadmits ih =>
      exact ih.trans (keepsIntents_step (hrun.trans prior) hadmits)

/-- As long as no overtaken completion goes on, everything settled stays as it is. -/
theorem keepsSettled_of_continues (hrun : issuanceSystem.Run history system)
    (hcontinues : (issuanceSystem.under undisturbed).Continues history system later reached) :
    system.store.KeepsSettled reached.store := by
  induction hcontinues with
  | refl => exact .refl _
  | extend prior request hadmits ih =>
      have hreached := hrun.trans prior.of_under
      exact ih.trans ((keepsSettled_step hreached hadmits.1).mpr hadmits.2)

end IssuanceSystem

/-- Issuance is at most once and fenced.  A challenge gets its pass from at most one
completion; a completion between its two statements is the worker's that holds the current
claim, and found that claim and the signing deadline ahead; and issued and failed intents stay
as they are.  Terminal challenges stay as they are exactly as long as no completion goes on
that a transaction enforcing the deadline has overtaken. -/
theorem issuanceSystem_fenced {history : List (IssuanceRequest × AuthorityReply)}
    {system : IssuanceSystem} (hrun : issuanceSystem.Run history system) :
    (∀ challengeId, history.countP (issuesPass challengeId) =
      if system.store.hasPass challengeId then 1 else 0) ∧
    (∀ challengeId completion, system.fenced.lookup challengeId = some completion →
      ∃ intent leaseExpiresAt, system.store.intents.lookup challengeId = some intent ∧
        intent.status = .signing ∧
        currentClaim challengeId history = some (completion.workerId, leaseExpiresAt) ∧
        completion.clock < leaseExpiresAt ∧
        completion.clock < intent.signingDeadlineUnixSeconds) ∧
    (∀ later reached, issuanceSystem.Continues history system later reached →
      system.store.KeepsIntents reached.store) ∧
    (∀ request, issuanceSystem.admits history system request →
      (system.store.KeepsSettled (system.step request).1.store ↔
        undisturbed history system request)) ∧
    (∀ later reached, (issuanceSystem.under undisturbed).Continues history system later reached →
      system.store.KeepsSettled reached.store) := by
  have htrace := IssuanceTrace.of_run hrun
  refine ⟨htrace.passes, ?_, ?_, ?_, ?_⟩
  · intro challengeId completion hcompletion
    obtain ⟨rfl, hfences, -⟩ := htrace.fenced challengeId completion hcompletion
    obtain ⟨intent, leaseExpiresAt, hintent, hsigning, howner, hlease, halive, hahead⟩ :=
      AuthorityDatabase.holdsClaim_iff.mp (AuthorityDatabase.fenceIssuance_eq_ok hfences)
    obtain ⟨holder, claimEnd, hcurrent, hholder, hclaimEnd⟩ :=
      htrace.claims _ intent hintent hsigning
    rw [howner, Option.some.injEq] at hholder
    rw [hlease, Option.some.injEq] at hclaimEnd
    subst hholder hclaimEnd
    exact ⟨intent, leaseExpiresAt, hintent, hsigning, hcurrent, halive, hahead⟩
  · intro later reached hcontinues
    exact IssuanceSystem.keepsIntents_of_continues hrun hcontinues
  · intro request hadmits
    exact IssuanceSystem.keepsSettled_step hrun hadmits
  · intro later reached hcontinues
    exact IssuanceSystem.keepsSettled_of_continues hrun hcontinues

/-- The single share challenge, claimed again by a second worker after the first let its claim
run out; the second fences its completion at 45. -/
def reclaimedIssuanceRequests : List IssuanceRequest :=
  let challengeId : ChallengeId := ⟨"challenge_a", isChallengeId_a⟩
  let completed : AuthorityDatabase.CompletedIssuance := ⟨challengeId, "kid", "pass", 45, 60⟩
  singleShareRequests.map .transaction ++
    [.transaction (.maybeClaimIssuance "worker_a" 10 40 []),
      .transaction (.maybeClaimIssuance "worker_b" 40 70 []),
      .fenceIssuance "worker_a" completed 44, .fenceIssuance "worker_b" completed 45]

/-- Its completion is the second worker's, and going on in time it keeps what is settled. -/
theorem reclaimedIssuanceRequests_fenced :
    (∃ (completion : Completion) (intent : IntentRow) (leaseExpiresAt : ℕ),
      (issuanceSystem.replay reclaimedIssuanceRequests).2.store.intents.lookup
        ⟨"challenge_a", by decide⟩ = some intent ∧
      currentClaim ⟨"challenge_a", by decide⟩
        (issuanceSystem.replay reclaimedIssuanceRequests).1 =
          some (completion.workerId, leaseExpiresAt) ∧
      completion.workerId = "worker_b" ∧ completion.clock < leaseExpiresAt ∧
      completion.clock < intent.signingDeadlineUnixSeconds) ∧
    (issuanceSystem.replay reclaimedIssuanceRequests).2.store.KeepsSettled
      ((issuanceSystem.replay reclaimedIssuanceRequests).2.step
        (.markChallengeIssued ⟨"challenge_a", by decide⟩)).1.store := by
  have hrun := Machine.run_replay (M := issuanceSystem) reclaimedIssuanceRequests
    (by decide +kernel)
  obtain ⟨-, hfenced, -, hkeeps, -⟩ := issuanceSystem_fenced hrun
  have hcompletion : ((issuanceSystem.replay reclaimedIssuanceRequests).2.fenced.lookup
      ⟨"challenge_a", by decide⟩).map (fun completion => completion.workerId) =
        some "worker_b" := by
    decide +kernel
  obtain ⟨completion, hlookup, hworker⟩ := Option.map_eq_some_iff.mp hcompletion
  obtain ⟨intent, leaseExpiresAt, hintent, -, hcurrent, halive, hahead⟩ := hfenced _ _ hlookup
  have hundisturbed : overtaken ⟨"challenge_a", by decide⟩
      (issuanceSystem.replay reclaimedIssuanceRequests).1 = false := by
    decide +kernel
  exact ⟨⟨completion, intent, leaseExpiresAt, hintent, hcurrent, hworker, halive, hahead⟩,
    (hkeeps _ (by decide +kernel)).mpr hundisturbed⟩

/-- The single share challenge fenced at 899, one second before its deadline, and read at its
deadline. -/
def overtakenIssuanceRequests : List IssuanceRequest :=
  let challengeId : ChallengeId := ⟨"challenge_a", isChallengeId_a⟩
  let completed : AuthorityDatabase.CompletedIssuance := ⟨challengeId, "kid", "pass", 898, 1200⟩
  singleShareRequests.map .transaction ++
    [.transaction (.maybeClaimIssuance "worker_a" 890 920 []),
      .fenceIssuance "worker_a" completed 899,
      .transaction (.challengeLifecycle challengeId 900)]

/-- Its challenge has expired without a pass, and the completion that goes on gives it one. -/
theorem overtakenIssuanceRequests_reopens :
    issuanceSystem.Run (issuanceSystem.replay overtakenIssuanceRequests).1
      (issuanceSystem.replay overtakenIssuanceRequests).2 ∧
    issuanceSystem.admits (issuanceSystem.replay overtakenIssuanceRequests).1
      (issuanceSystem.replay overtakenIssuanceRequests).2
      (.markChallengeIssued ⟨"challenge_a", by decide⟩) ∧
    (issuanceSystem.replay overtakenIssuanceRequests).2.store.InState
      ⟨"challenge_a", by decide⟩ .expired ∧
    (issuanceSystem.replay overtakenIssuanceRequests).2.store.hasPass
      ⟨"challenge_a", by decide⟩ = false ∧
    ((issuanceSystem.replay overtakenIssuanceRequests).2.step
      (.markChallengeIssued ⟨"challenge_a", by decide⟩)).1.store.InState
        ⟨"challenge_a", by decide⟩ .passIssued ∧
    ((issuanceSystem.replay overtakenIssuanceRequests).2.step
      (.markChallengeIssued ⟨"challenge_a", by decide⟩)).1.store.hasPass
        ⟨"challenge_a", by decide⟩ = true :=
  ⟨Machine.run_replay _ (by decide +kernel), by decide +kernel, by decide +kernel,
    by decide +kernel, by decide +kernel, by decide +kernel⟩

end WorkGate
