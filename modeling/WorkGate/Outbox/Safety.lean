/-
# The outbox loses nothing and settles everything once

The outbox as a machine, what each of its statements can do, and what follows along
every run whose clock never goes back.  Claims expire and are taken again, so the
argument compares the claim a row carries with the claims the history handed out: as
long as the newest claim of a worker has not run out, it is the one in the row.
-/

import WorkGate.Outbox.Table

namespace WorkGate

open WorkGate.Library

/-- The calls the outbox takes. -/
inductive OutboxRequest
  | persist (event : AcceptedWorkEvent) (context : StratumLeaseContext) (workerResponse : String)
  | claimNext (workerId : String) (now leaseExpiresAt : ℕ) (locked : List AcceptedWorkEventId)
  | acknowledge (claimed : ClaimedAcceptedWork) (now : ℕ)
  | refuse (claimed : ClaimedAcceptedWork) (refusal : AcceptedWorkRefusal) (now : ℕ)
  | defer (claimed : ClaimedAcceptedWork) (now retryAt : ℕ)

/-- What the outbox answers. -/
inductive OutboxReply
  | failed (error : StratumV1Error)
  | persisted (work : PersistedAcceptedWork)
  | claimed (maybeClaimed : Option ClaimedAcceptedWork)
  | done
  deriving DecidableEq

/-- When a call runs, where that matters to it. -/
def OutboxRequest.maybeNow : OutboxRequest → Option ℕ
  | .persist _ _ _ => none
  | .claimNext _ now _ _ | .acknowledge _ now | .refuse _ _ now | .defer _ now _ => some now

namespace AcceptedWorkOutbox

/-- A call's result as the outbox's answer. -/
def answer {α : Type} (reply : α → OutboxReply)
    (result : AcceptedWorkOutbox × Except StratumV1Error α) : AcceptedWorkOutbox × OutboxReply :=
  (result.1, match result.2 with
    | .ok value => reply value
    | .error error => .failed error)

/-- One call. -/
def step (deps : Dependencies) (outbox : AcceptedWorkOutbox) :
    OutboxRequest → AcceptedWorkOutbox × OutboxReply
  | .persist event context workerResponse =>
      answer .persisted (persist deps outbox event context workerResponse)
  | .claimNext workerId now leaseExpiresAt locked =>
      answer .claimed (claimNext deps outbox workerId now leaseExpiresAt locked)
  | .acknowledge claimed now => answer (fun _ => .done) (acknowledge outbox claimed now)
  | .refuse claimed refusal now => answer (fun _ => .done) (refuse outbox claimed refusal now)
  | .defer claimed now retryAt => answer (fun _ => .done) (defer outbox claimed now retryAt)

/-- The latest instant at which a call of the history ran. -/
def latestTime : List (OutboxRequest × OutboxReply) → ℕ
  | [] => 0
  | (request, _) :: earlier => max (request.maybeNow.getD 0) (latestTime earlier)

end AcceptedWorkOutbox

/-- The outbox under any number of callers whose clocks never go back.  Any claimed work
may be handed in, also one the outbox never handed out. -/
def acceptedWorkOutbox (deps : Dependencies) :
    Machine AcceptedWorkOutbox OutboxRequest OutboxReply where
  init := ∅
  admits := fun history _ request =>
    ∀ now, request.maybeNow = some now → AcceptedWorkOutbox.latestTime history ≤ now
  step := AcceptedWorkOutbox.step deps

/-- The columns of a row that no statement updates. -/
def AcceptedWorkRow.stored (row : AcceptedWorkRow) : PersistedAcceptedWork :=
  ⟨row.event, row.leaseContext, row.workerResponse⟩

namespace AcceptedWorkOutbox

variable {deps : Dependencies} {outbox after : AcceptedWorkOutbox}

/-! ## What each call can do -/

theorem leaseContextFromRow_eq_ok {row : AcceptedWorkRow} {context : StratumLeaseContext}
    (h : row.leaseContextFromRow deps = .ok context) : context = row.leaseContext := by
  rw [AcceptedWorkRow.leaseContextFromRow, StratumLeaseContext.new] at h
  split at h
  · cases h
  · split at h
    · cases h
      rfl
    · cases h

/-- Reading a row back depends on the columns nothing updates. -/
theorem leaseContextFromRow_congr {row other : AcceptedWorkRow} (h : row.stored = other.stored) :
    row.leaseContextFromRow deps = other.leaseContextFromRow deps := by
  have hcontext : row.leaseContext = other.leaseContext :=
    congrArg PersistedAcceptedWork.leaseContext h
  rw [AcceptedWorkRow.leaseContextFromRow, AcceptedWorkRow.leaseContextFromRow, hcontext]

/-- An insert that binds leaves a row under the event's key. -/
theorem insertNew_eq_ok {event : AcceptedWorkEvent} {context : StratumLeaseContext}
    {workerResponse : String} (h : insertNew outbox event context workerResponse = .ok after) :
    (event.eventId ∈ outbox ∧ after = outbox) ∨
    (event.eventId ∉ outbox ∧ ∃ leaseUuid, castUuid context.leaseId = some leaseUuid ∧
      after = outbox.insert event.eventId (newRow event context leaseUuid workerResponse)) := by
  simp only [insertNew, bind, Except.bind] at h
  repeat' split at h
  all_goals cases h
  · next hmem => exact .inl ⟨hmem, rfl⟩
  · next leaseUuid huuid _ hmem => exact .inr ⟨hmem, leaseUuid, huuid, rfl⟩

/-- Whether an insert binds depends on its parameters alone. -/
theorem insertNew_of_mem {event : AcceptedWorkEvent} {context : StratumLeaseContext}
    {workerResponse : String} {other : AcceptedWorkOutbox}
    (h : insertNew outbox event context workerResponse = .ok after)
    (hmem : event.eventId ∈ other) :
    insertNew other event context workerResponse = .ok other := by
  simp only [insertNew, bind, Except.bind] at h ⊢
  repeat' split at h
  all_goals cases h
  all_goals simp_all

theorem sameShareObservation_iff {event other : AcceptedWorkEvent} :
    sameShareObservation event other = true ↔
      event.workSessionId = other.workSessionId ∧ event.assignedTarget = other.assignedTarget ∧
        event.shareFingerprint = other.shareFingerprint ∧
        event.networkTargetOutcome = other.networkTargetOutcome := by
  simp only [sameShareObservation, Bool.and_eq_true, beq_iff_eq, and_assoc]

theorem sameLeaseIdentity_iff {context other : StratumLeaseContext} :
    sameLeaseIdentity context other = true ↔
      context.leaseId = other.leaseId ∧ context.continuityId = other.continuityId := by
  simp only [sameLeaseIdentity, Bool.and_eq_true, beq_iff_eq]

/-- What a row has in common with the share it is a record of. -/
structure RowAgrees (row : AcceptedWorkRow) (event : AcceptedWorkEvent)
    (context : StratumLeaseContext) (workerResponse : String) : Prop where
  observation : sameShareObservation row.event event = true
  lease : sameLeaseIdentity row.leaseContext context = true
  response : row.workerResponse = workerResponse

theorem readBack_eq_ok {event : AcceptedWorkEvent} {context : StratumLeaseContext}
    {workerResponse : String} {stored : PersistedAcceptedWork}
    (h : readBack deps outbox event context workerResponse = .ok stored) :
    ∃ row, outbox.lookup event.eventId = some row ∧ stored = row.stored ∧
      row.leaseContextFromRow deps = .ok row.leaseContext ∧
      RowAgrees row event context workerResponse := by
  simp only [readBack, bind, Except.bind] at h
  split at h
  · cases h
  · next row hrow =>
      split at h
      · cases h
      · next read hread =>
          split at h
          · cases h
          · next hsame =>
              cases h
              obtain rfl := leaseContextFromRow_eq_ok hread
              simp only [Bool.or_eq_true, Bool.not_eq_true', not_or, Bool.not_eq_false,
                bne_iff_ne, ne_eq, not_not] at hsame
              exact ⟨row, hrow, rfl, hread, ⟨hsame.1.1, hsame.1.2, hsame.2⟩⟩

/-- Reading back depends on the stored columns alone. -/
theorem readBack_congr {event : AcceptedWorkEvent} {context : StratumLeaseContext}
    {workerResponse : String} {row kept : AcceptedWorkRow}
    (hrow : outbox.lookup event.eventId = some row)
    (hkept : after.lookup event.eventId = some kept) (hstored : kept.stored = row.stored) :
    readBack deps after event context workerResponse =
      readBack deps outbox event context workerResponse := by
  have hevent : kept.event = row.event := congrArg PersistedAcceptedWork.event hstored
  have hresponse : kept.workerResponse = row.workerResponse :=
    congrArg PersistedAcceptedWork.workerResponse hstored
  simp only [readBack, hrow, hkept, leaseContextFromRow_congr hstored, hevent, hresponse]

/-- Everything `persist` can do. -/
theorem persist_cases (deps : Dependencies) (outbox : AcceptedWorkOutbox)
    (event : AcceptedWorkEvent) (context : StratumLeaseContext) (workerResponse : String) :
    (∃ error, persist deps outbox event context workerResponse = (outbox, .error error)) ∨
    (∃ row, outbox.lookup event.eventId = some row ∧ sameShareObservation row.event event = true ∧
      persist deps outbox event context workerResponse = (outbox, .ok row.stored)) ∨
    (event.eventId ∉ outbox ∧ ∃ leaseUuid,
      (newRow event context leaseUuid workerResponse).leaseContextFromRow deps =
        .ok (newRow event context leaseUuid workerResponse).leaseContext ∧
      persist deps outbox event context workerResponse =
        (outbox.insert event.eventId (newRow event context leaseUuid workerResponse),
          .ok (newRow event context leaseUuid workerResponse).stored)) := by
  simp only [persist]
  split
  · exact .inl ⟨_, rfl⟩
  · cases hinsert : insertNew outbox event context workerResponse with
    | error error => exact .inl ⟨error, rfl⟩
    | ok inserted =>
        cases hread : readBack deps inserted event context workerResponse with
        | error error => exact .inl ⟨error, by simp only [hread]⟩
        | ok stored =>
            obtain ⟨row, hrow, rfl, hcontext, hagrees⟩ := readBack_eq_ok hread
            rcases insertNew_eq_ok hinsert with ⟨-, rfl⟩ | ⟨hfresh, leaseUuid, -, rfl⟩
            · exact .inr (.inl ⟨row, hrow, hagrees.observation, by simp only [hread]⟩)
            · rw [AList.lookup_insert, Option.some.injEq] at hrow
              subst hrow
              exact .inr (.inr ⟨hfresh, leaseUuid, hcontext, by simp only [hread]⟩)

/-- Persisting what was persisted is answered alike and writes nothing, as long as the
stored columns are still there. -/
theorem persist_again {event : AcceptedWorkEvent} {context : StratumLeaseContext}
    {workerResponse : String} {stored : PersistedAcceptedWork} {row kept : AcceptedWorkRow}
    {later : AcceptedWorkOutbox}
    (h : persist deps outbox event context workerResponse = (after, .ok stored))
    (hrow : after.lookup event.eventId = some row)
    (hkept : later.lookup event.eventId = some kept) (hstored : kept.stored = row.stored) :
    persist deps later event context workerResponse = (later, .ok stored) := by
  simp only [persist] at h ⊢
  split at h
  · cases h
  · next hresponse =>
      rw [if_neg hresponse]
      cases hinsert : insertNew outbox event context workerResponse with
      | error error => simp [hinsert] at h
      | ok inserted =>
          rw [insertNew_of_mem hinsert (Rows.mem_of_lookup hkept)]
          rw [hinsert] at h
          cases hread : readBack deps inserted event context workerResponse with
          | error error => simp [hread] at h
          | ok read =>
              simp only [hread, Prod.mk.injEq, Except.ok.injEq] at h
              obtain ⟨rfl, rfl⟩ := h
              simp only [readBack_congr hrow hkept hstored, hread]

/-- Everything `claim_next` can do. -/
theorem claimNext_cases (deps : Dependencies) (outbox : AcceptedWorkOutbox) (workerId : String)
    (now leaseExpiresAt : ℕ) (locked : List AcceptedWorkEventId) :
    (∃ error, claimNext deps outbox workerId now leaseExpiresAt locked = (outbox, .error error)) ∨
    claimNext deps outbox workerId now leaseExpiresAt locked = (outbox, .ok none) ∨
    ∃ eventId row, outbox.lookup eventId = some row ∧ claimable now row = true ∧
      (claimNext deps outbox workerId now leaseExpiresAt locked).1 =
        outbox.updateRow eventId (claimRow workerId leaseExpiresAt) ∧
      ((∃ error, row.leaseContextFromRow deps = .error error ∧
          (claimNext deps outbox workerId now leaseExpiresAt locked).2 = .error error) ∨
        (claimNext deps outbox workerId now leaseExpiresAt locked).2 = .ok (some {
          event := row.event
          leaseContext := row.leaseContext
          workerResponse := row.workerResponse
          deliveryOwner := workerId
          leaseExpiresAtUnixSeconds := leaseExpiresAt
          deliveryAttempts := row.deliveryAttempts + 1 })) := by
  simp only [claimNext]
  split
  · exact .inl ⟨_, rfl⟩
  · split
    · exact .inl ⟨_, rfl⟩
    · exact .inl ⟨_, rfl⟩
    · next now' lease' hnow hlease =>
        obtain rfl := toI64_eq_ok hnow
        obtain rfl := toI64_eq_ok hlease
        split
        · exact .inr (.inl rfl)
        · next eventId row hcandidate =>
            have hmem := List.argmin_mem hcandidate
            rw [List.mem_filter, Rows.mem_entries_iff, Bool.and_eq_true] at hmem
            split
            · exact .inl ⟨_, rfl⟩
            · refine .inr (.inr ⟨eventId, row, hmem.1, hmem.2.1, ?_⟩)
              cases hread : row.leaseContextFromRow deps with
              | error error => exact ⟨rfl, .inl ⟨error, rfl, rfl⟩⟩
              | ok context =>
                  obtain rfl := leaseContextFromRow_eq_ok hread
                  exact ⟨rfl, .inr rfl⟩

/-- What `settle` and `defer` test before they write. -/
theorem heldBy_iff {eventId : AcceptedWorkEventId} {owner : String} {now : ℕ} :
    heldBy outbox eventId owner now = true ↔
      ∃ row leaseExpiresAt maybeNextAttempt, outbox.lookup eventId = some row ∧
        row.delivery = .pending (some ⟨owner, leaseExpiresAt⟩) maybeNextAttempt ∧
        now < leaseExpiresAt := by
  constructor
  · intro h
    rw [heldBy] at h
    split at h
    · next claim maybeNextAttempt _ hrow =>
        rw [Bool.and_eq_true, beq_iff_eq, decide_eq_true_eq] at h
        obtain ⟨rfl, halive⟩ := h
        exact ⟨_, claim.leaseExpiresAtUnixSeconds, maybeNextAttempt, hrow, rfl, halive⟩
    · cases h
  · rintro ⟨⟨event, context, response, delivery, attempts⟩, leaseExpiresAt, maybeNextAttempt,
      hrow, hdelivery, halive⟩
    subst hdelivery
    simp [heldBy, hrow, halive]

/-- Everything `settle` can do. -/
theorem settle_cases (outbox : AcceptedWorkOutbox) (claimed : ClaimedAcceptedWork) (now : ℕ)
    (maybeRefusal : Option AcceptedWorkRefusal) :
    (∃ error, settle outbox claimed now maybeRefusal = (outbox, .error error)) ∨
    (heldBy outbox claimed.event.eventId claimed.deliveryOwner now = true ∧
      ∃ delivery, delivery.isPending = false ∧ settle outbox claimed now maybeRefusal =
        (setDelivery outbox claimed.event.eventId delivery, .ok ())) := by
  rw [settle]
  split
  · exact .inl ⟨_, rfl⟩
  · next hnow =>
      obtain rfl := toI64_eq_ok hnow
      split
      · exact .inl ⟨_, rfl⟩
      · next hheld =>
          refine .inr ⟨by simpa using hheld, _, ?_, rfl⟩
          cases maybeRefusal with
          | none => rfl
          | some refusal => rfl

/-- Everything `defer` can do. -/
theorem defer_cases (outbox : AcceptedWorkOutbox) (claimed : ClaimedAcceptedWork)
    (now retryAt : ℕ) :
    (∃ error, defer outbox claimed now retryAt = (outbox, .error error)) ∨
    (heldBy outbox claimed.event.eventId claimed.deliveryOwner now = true ∧
      defer outbox claimed now retryAt =
        (setDelivery outbox claimed.event.eventId (.pending none (some retryAt)), .ok ())) := by
  rw [defer]
  split
  · exact .inl ⟨_, rfl⟩
  · exact .inl ⟨_, rfl⟩
  · next hnow hretry =>
      obtain rfl := toI64_eq_ok hnow
      obtain rfl := toI64_eq_ok hretry
      split
      · exact .inl ⟨_, rfl⟩
      · next hheld =>
          split
          · exact .inl ⟨_, rfl⟩
          · exact .inr ⟨by simpa using hheld, rfl⟩

/-- The delivery a call hands in, with its time. -/
def handsIn : OutboxRequest → Option (ClaimedAcceptedWork × ℕ)
  | .acknowledge claimed now | .refuse claimed _ now | .defer claimed now _ => some (claimed, now)
  | _ => none

/-- Whether a call settles the delivery it hands in. -/
def isSettling : OutboxRequest → Bool
  | .acknowledge _ _ | .refuse _ _ _ => true
  | _ => false

/-- What one call does to the outbox, with its answer. -/
inductive Effect (deps : Dependencies) (outbox : AcceptedWorkOutbox) :
    OutboxRequest → AcceptedWorkOutbox → OutboxReply → Prop
  | fails {request : OutboxRequest} {error : StratumV1Error} :
      Effect deps outbox request outbox (.failed error)
  | idle {workerId : String} {now leaseExpiresAt : ℕ} {locked : List AcceptedWorkEventId} :
      Effect deps outbox (.claimNext workerId now leaseExpiresAt locked) outbox (.claimed none)
  | replays {event : AcceptedWorkEvent} {context : StratumLeaseContext} {workerResponse : String}
      {row : AcceptedWorkRow} (hrow : outbox.lookup event.eventId = some row) :
      Effect deps outbox (.persist event context workerResponse) outbox (.persisted row.stored)
  | inserts {event : AcceptedWorkEvent} {context : StratumLeaseContext}
      {workerResponse leaseUuid : String} (hfresh : event.eventId ∉ outbox)
      (hread : (newRow event context leaseUuid workerResponse).leaseContextFromRow deps =
        .ok (newRow event context leaseUuid workerResponse).leaseContext) :
      Effect deps outbox (.persist event context workerResponse)
        (outbox.insert event.eventId (newRow event context leaseUuid workerResponse))
        (.persisted (newRow event context leaseUuid workerResponse).stored)
  | claims {workerId : String} {now leaseExpiresAt : ℕ} {locked : List AcceptedWorkEventId}
      {eventId : AcceptedWorkEventId} {row : AcceptedWorkRow} {reply : OutboxReply}
      (hrow : outbox.lookup eventId = some row) (hclaimable : claimable now row = true)
      (hreply : (∃ error, row.leaseContextFromRow deps = .error error ∧ reply = .failed error) ∨
        ∃ claimed, reply = .claimed (some claimed) ∧ claimed.event = row.event) :
      Effect deps outbox (.claimNext workerId now leaseExpiresAt locked)
        (outbox.updateRow eventId (claimRow workerId leaseExpiresAt)) reply
  | releases {request : OutboxRequest} {claimed : ClaimedAcceptedWork} {now : ℕ}
      {delivery : DeliveryState} (hclaimed : handsIn request = some (claimed, now))
      (hheld : heldBy outbox claimed.event.eventId claimed.deliveryOwner now = true)
      (hclaimless : ∀ claim maybeNextAttempt, delivery ≠ .pending (some claim) maybeNextAttempt)
      (hsettles : delivery.isPending = !isSettling request) :
      Effect deps outbox request (setDelivery outbox claimed.event.eventId delivery) .done

/-- A settled state carries no claim. -/
theorem claimless_of_settled {delivery : DeliveryState} (h : delivery.isPending = false)
    (claim : DeliveryClaim) (maybeNextAttempt : Option ℕ) :
    delivery ≠ .pending (some claim) maybeNextAttempt := by
  rintro rfl
  simp [DeliveryState.isPending] at h

/-- Every call has one of the effects above. -/
theorem effect_of_step (deps : Dependencies) (outbox : AcceptedWorkOutbox)
    (request : OutboxRequest) :
    Effect deps outbox request (step deps outbox request).1 (step deps outbox request).2 := by
  cases request with
  | persist event context workerResponse =>
      rcases persist_cases deps outbox event context workerResponse with
        ⟨error, hsame⟩ | ⟨row, hrow, -, hsame⟩ | ⟨hfresh, leaseUuid, hread, hinserted⟩
      · simp only [step, answer, hsame]
        exact .fails
      · simp only [step, answer, hsame]
        exact .replays hrow
      · simp only [step, answer, hinserted]
        exact .inserts hfresh hread
  | claimNext workerId now leaseExpiresAt locked =>
      rcases claimNext_cases deps outbox workerId now leaseExpiresAt locked with
        ⟨error, hsame⟩ | hsame | ⟨eventId, row, hrow, hclaimable, hwritten, hreply⟩
      · simp only [step, answer, hsame]
        exact .fails
      · simp only [step, answer, hsame]
        exact .idle
      · simp only [step, answer, hwritten]
        refine .claims hrow hclaimable ?_
        rcases hreply with ⟨error, hread, hfailed⟩ | hclaimed
        · rw [hfailed]
          exact .inl ⟨error, hread, rfl⟩
        · rw [hclaimed]
          exact .inr ⟨_, rfl, rfl⟩
  | acknowledge claimed now =>
      rcases settle_cases outbox claimed now none with
        ⟨error, hsame⟩ | ⟨hheld, delivery, hsettled, hwritten⟩
      · simp only [step, answer, acknowledge, hsame]
        exact .fails
      · simp only [step, answer, acknowledge, hwritten]
        exact .releases rfl hheld (claimless_of_settled hsettled) hsettled
  | refuse claimed refusal now =>
      rcases settle_cases outbox claimed now (some refusal) with
        ⟨error, hsame⟩ | ⟨hheld, delivery, hsettled, hwritten⟩
      · simp only [step, answer, refuse, hsame]
        exact .fails
      · simp only [step, answer, refuse, hwritten]
        exact .releases rfl hheld (claimless_of_settled hsettled) hsettled
  | defer claimed now retryAt =>
      rcases defer_cases outbox claimed now retryAt with ⟨error, hsame⟩ | ⟨hheld, hwritten⟩
      · simp only [step, answer, hsame]
        exact .fails
      · simp only [step, answer, hwritten]
        exact .releases rfl hheld (by simp) rfl

/-! ## What a call leaves of each row -/

/-- Whether an entry settled an event. -/
def settlesEvent (eventId : AcceptedWorkEventId) : OutboxRequest × OutboxReply → Bool
  | (.acknowledge claimed _, .done) | (.refuse claimed _ _, .done) =>
      claimed.event.eventId == eventId
  | _ => false

/-- Whether an entry settled or deferred a worker's claim of an event. -/
def releasesClaim (eventId : AcceptedWorkEventId) (workerId : String) :
    OutboxRequest × OutboxReply → Bool
  | (.acknowledge claimed _, .done) | (.refuse claimed _ _, .done) | (.defer claimed _ _, .done) =>
      claimed.event.eventId == eventId && claimed.deliveryOwner == workerId
  | _ => false

/-- Whether an entry claimed, settled or deferred an event. -/
def touchesEvent (eventId : AcceptedWorkEventId) : OutboxRequest × OutboxReply → Bool
  | (.claimNext _ _ _ _, .claimed (some claimed)) => claimed.event.eventId == eventId
  | (.acknowledge claimed _, .done) | (.refuse claimed _ _, .done) | (.defer claimed _ _, .done) =>
      claimed.event.eventId == eventId
  | _ => false

/-- An entry that gives back a claim of an event is about that event. -/
theorem touchesEvent_of_releases {eventId : AcceptedWorkEventId} {workerId : String}
    {entry : OutboxRequest × OutboxReply} (h : releasesClaim eventId workerId entry = true) :
    touchesEvent eventId entry = true := by
  obtain ⟨request, reply⟩ := entry
  cases request <;> cases reply <;> simp_all [releasesClaim, touchesEvent]

theorem touchesEvent_of_settles {eventId : AcceptedWorkEventId}
    {entry : OutboxRequest × OutboxReply} (h : settlesEvent eventId entry = true) :
    touchesEvent eventId entry = true := by
  obtain ⟨request, reply⟩ := entry
  cases request <;> cases reply <;> simp_all [settlesEvent, touchesEvent]

/-- An answered release is about the event of the delivery handed in. -/
theorem touchesEvent_done {request : OutboxRequest} {claimed : ClaimedAcceptedWork} {now : ℕ}
    (h : handsIn request = some (claimed, now)) (eventId : AcceptedWorkEventId) :
    touchesEvent eventId (request, .done) = (claimed.event.eventId == eventId) := by
  cases request <;> simp_all [handsIn, touchesEvent]

/-- A claimed row differs in its claim and its count of attempts only. -/
theorem claimRow_pending {now leaseExpiresAt : ℕ} {workerId : String} {row : AcceptedWorkRow}
    (h : claimable now row = true) : ∃ maybeClaim maybeNextAttempt,
      row.delivery = .pending maybeClaim maybeNextAttempt ∧
      (∀ claim, maybeClaim = some claim → claim.leaseExpiresAtUnixSeconds ≤ now) ∧
      (claimRow workerId leaseExpiresAt row).delivery =
        .pending (some ⟨workerId, leaseExpiresAt⟩) maybeNextAttempt := by
  rw [claimable] at h
  split at h
  · next maybeClaim maybeNextAttempt hdelivery =>
      refine ⟨maybeClaim, maybeNextAttempt, hdelivery, ?_, by simp [claimRow, hdelivery]⟩
      rintro claim rfl
      rw [Bool.and_eq_true] at h
      simpa using h.1
  · cases h

/-- How one call may leave the row of an event. -/
inductive RowStep (outbox after : AcceptedWorkOutbox) (eventId : AcceptedWorkEventId) :
    OutboxRequest × OutboxReply → Prop
  | kept {entry : OutboxRequest × OutboxReply} (huntouched : touchesEvent eventId entry = false)
      (hkept : after.lookup eventId = outbox.lookup eventId) : RowStep outbox after eventId entry
  | inserted {entry : OutboxRequest × OutboxReply} {row : AcceptedWorkRow}
      (huntouched : touchesEvent eventId entry = false)
      (hfresh : outbox.lookup eventId = none) (hrow : after.lookup eventId = some row)
      (hpending : row.delivery = .pending none none) : RowStep outbox after eventId entry
  | claimed {workerId : String} {now leaseExpiresAt : ℕ} {locked : List AcceptedWorkEventId}
      {maybeClaim : Option DeliveryClaim} {maybeNextAttempt : Option ℕ}
      {row claimedRow : AcceptedWorkRow} {claimed : ClaimedAcceptedWork}
      (hrow : outbox.lookup eventId = some row)
      (hpending : row.delivery = .pending maybeClaim maybeNextAttempt)
      (hfree : ∀ claim, maybeClaim = some claim → claim.leaseExpiresAtUnixSeconds ≤ now)
      (hclaimedRow : after.lookup eventId = some claimedRow)
      (hdelivery : claimedRow.delivery =
        .pending (some ⟨workerId, leaseExpiresAt⟩) maybeNextAttempt)
      (hclaimed : claimed.event.eventId = eventId) :
      RowStep outbox after eventId
        (.claimNext workerId now leaseExpiresAt locked, .claimed (some claimed))
  | released {request : OutboxRequest} {claimed : ClaimedAcceptedWork} {now leaseExpiresAt : ℕ}
      {maybeNextAttempt : Option ℕ} {row releasedRow : AcceptedWorkRow}
      (hclaimed : handsIn request = some (claimed, now)) (hevent : claimed.event.eventId = eventId)
      (hrow : outbox.lookup eventId = some row)
      (hheld : row.delivery = .pending (some ⟨claimed.deliveryOwner, leaseExpiresAt⟩)
        maybeNextAttempt)
      (hreleasedRow : after.lookup eventId = some releasedRow)
      (hclaimless : ∀ claim maybeNextAttempt,
        releasedRow.delivery ≠ .pending (some claim) maybeNextAttempt)
      (hsettles : releasedRow.delivery.isPending = !isSettling request) :
      RowStep outbox after eventId (request, .done)

/-- Every row can be read back, and is filed under the identity of its event. -/
def Readable (deps : Dependencies) (outbox : AcceptedWorkOutbox) : Prop :=
  ∀ eventId row, outbox.lookup eventId = some row →
    row.event.eventId = eventId ∧ row.leaseContextFromRow deps = .ok row.leaseContext

/-- Everything a call can do to the row of an event. -/
theorem rowStep_of_effect {request : OutboxRequest} {reply : OutboxReply}
    (hreadable : Readable deps outbox) (heffect : Effect deps outbox request after reply)
    (eventId : AcceptedWorkEventId) : RowStep outbox after eventId (request, reply) := by
  cases heffect with
  | fails => exact .kept (by cases request <;> rfl) rfl
  | idle => exact .kept rfl rfl
  | replays hrow => exact .kept rfl rfl
  | @inserts event context workerResponse leaseUuid hfresh hread =>
      by_cases heq : eventId = event.eventId
      · subst heq
        exact .inserted rfl (AList.lookup_eq_none.mpr hfresh) (AList.lookup_insert _) rfl
      · exact .kept rfl (AList.lookup_insert_ne heq)
  | @claims workerId now leaseExpiresAt locked other row reply hrow hclaimable hreply =>
      obtain ⟨hkey, hread⟩ := hreadable other row hrow
      rcases hreply with ⟨error, hfailed, -⟩ | ⟨claimed, rfl, hclaimed⟩
      · rw [hread] at hfailed
        cases hfailed
      · by_cases heq : eventId = other
        · subst heq
          obtain ⟨maybeClaim, maybeNextAttempt, hpending, hfree, hdelivery⟩ :=
            claimRow_pending hclaimable
          exact .claimed hrow hpending hfree (by rw [Rows.lookup_updateRow, hrow]; rfl) hdelivery
            (by rw [hclaimed, hkey])
        · refine .kept ?_ (Rows.lookup_updateRow_ne heq _ _)
          rw [touchesEvent, hclaimed, hkey, beq_eq_false_iff_ne]
          exact Ne.symm heq
  | @releases request claimed now delivery hclaimed hheld hclaimless hsettles =>
      by_cases heq : eventId = claimed.event.eventId
      · subst heq
        obtain ⟨row, leaseExpiresAt, maybeNextAttempt, hrow, hdelivery, -⟩ := heldBy_iff.mp hheld
        exact .released hclaimed rfl hrow hdelivery
          (by rw [setDelivery, Rows.lookup_updateRow, hrow]; rfl) hclaimless hsettles
      · refine .kept ?_ (Rows.lookup_updateRow_ne heq _ _)
        rw [touchesEvent_done hclaimed, beq_eq_false_iff_ne]
        exact Ne.symm heq

/-- What is stored stays stored. -/
def KeepsStored (outbox after : AcceptedWorkOutbox) : Prop :=
  ∀ eventId row, outbox.lookup eventId = some row →
    ∃ kept, after.lookup eventId = some kept ∧ kept.stored = row.stored

theorem KeepsStored.trans {later : AcceptedWorkOutbox} (hfirst : KeepsStored outbox after)
    (hsecond : KeepsStored after later) : KeepsStored outbox later := by
  intro eventId row hrow
  obtain ⟨kept, hkept, hstored⟩ := hfirst eventId row hrow
  obtain ⟨last, hlast, hsame⟩ := hsecond eventId kept hkept
  exact ⟨last, hlast, hsame.trans hstored⟩

/-- An update that leaves the stored columns of one row alone. -/
theorem keepsStored_updateRow (eventId : AcceptedWorkEventId)
    {f : AcceptedWorkRow → AcceptedWorkRow} (hf : ∀ row, (f row).stored = row.stored) :
    KeepsStored outbox (outbox.updateRow eventId f) := by
  intro other row hrow
  rw [Rows.lookup_updateRow_eq]
  split
  · rw [hrow, Option.map_some]
    exact ⟨f row, rfl, hf row⟩
  · exact ⟨row, hrow, rfl⟩

theorem keepsStored_of_effect {request : OutboxRequest} {reply : OutboxReply}
    (heffect : Effect deps outbox request after reply) : KeepsStored outbox after := by
  have hsame : KeepsStored outbox outbox := fun eventId row hrow => ⟨row, hrow, rfl⟩
  cases heffect with
  | fails => exact hsame
  | idle => exact hsame
  | replays hrow => exact hsame
  | inserts hfresh hread =>
      intro eventId row hrow
      refine ⟨row, ?_, rfl⟩
      rw [AList.lookup_insert_ne, hrow]
      rintro rfl
      exact hfresh (Rows.mem_of_lookup hrow)
  | claims hrow hclaimable hreply => exact keepsStored_updateRow _ fun _ => rfl
  | releases hclaimed hheld hclaimless hsettles => exact keepsStored_updateRow _ fun _ => rfl

/-- The outbox after any calls, at any times. -/
def afterAll (deps : Dependencies) (outbox : AcceptedWorkOutbox)
    (requests : List OutboxRequest) : AcceptedWorkOutbox :=
  requests.foldl (fun outbox request => (step deps outbox request).1) outbox

theorem keepsStored_afterAll (requests : List OutboxRequest) :
    KeepsStored outbox (afterAll deps outbox requests) := by
  induction requests generalizing outbox with
  | nil => exact fun eventId row hrow => ⟨row, hrow, rfl⟩
  | cons request requests ih => exact (keepsStored_of_effect (effect_of_step _ _ _)).trans ih

/-! ## A second share under one identity -/

/-- A row agrees with a share by the columns nothing updates. -/
theorem RowAgrees.of_stored {row kept : AcceptedWorkRow} {event : AcceptedWorkEvent}
    {context : StratumLeaseContext} {workerResponse : String}
    (h : RowAgrees row event context workerResponse) (hstored : kept.stored = row.stored) :
    RowAgrees kept event context workerResponse := by
  obtain ⟨hevent, hcontext, hresponse⟩ := PersistedAcceptedWork.mk.inj hstored
  constructor
  · rw [hevent]
    exact h.observation
  · rw [hcontext]
    exact h.lease
  · rw [hresponse]
    exact h.response

/-- A row that agrees with one share agrees with another that does not differ from it where the
outbox looks. -/
theorem RowAgrees.congr {row : AcceptedWorkRow} {event other : AcceptedWorkEvent}
    {context otherContext : StratumLeaseContext} {workerResponse : String}
    (h : RowAgrees row event context workerResponse)
    (hobservation : sameShareObservation event other = true)
    (hlease : sameLeaseIdentity context otherContext = true) :
    RowAgrees row other otherContext workerResponse := by
  obtain ⟨hsession, htarget, hshare, houtcome⟩ := sameShareObservation_iff.mp h.observation
  obtain ⟨hothers, hotherTarget, hotherShare, hotherOutcome⟩ :=
    sameShareObservation_iff.mp hobservation
  obtain ⟨hlease', hcontinuity⟩ := sameLeaseIdentity_iff.mp h.lease
  obtain ⟨hotherLease, hotherContinuity⟩ := sameLeaseIdentity_iff.mp hlease
  constructor
  · rw [sameShareObservation_iff, hsession, htarget, hshare, houtcome]
    exact ⟨hothers, hotherTarget, hotherShare, hotherOutcome⟩
  · rw [sameLeaseIdentity_iff, hlease', hcontinuity]
    exact ⟨hotherLease, hotherContinuity⟩
  · exact h.response

/-- A recorded share has a row that agrees with it. -/
theorem exists_row_of_persist {event : AcceptedWorkEvent} {context : StratumLeaseContext}
    {workerResponse : String} {stored : PersistedAcceptedWork}
    (h : (persist deps outbox event context workerResponse).2 = .ok stored) :
    ∃ row, (persist deps outbox event context workerResponse).1.lookup event.eventId = some row ∧
      RowAgrees row event context workerResponse := by
  simp only [persist] at h ⊢
  split at h
  · cases h
  · next hresponse =>
      rw [if_neg hresponse]
      cases hinsert : insertNew outbox event context workerResponse with
      | error error => simp [hinsert] at h
      | ok inserted =>
          rw [hinsert] at h
          cases hread : readBack deps inserted event context workerResponse with
          | error error => simp [hread] at h
          | ok read =>
              obtain ⟨row, hrow, -, -, hagrees⟩ := readBack_eq_ok hread
              simp only [hread]
              exact ⟨row, hrow, hagrees⟩

theorem insertNew_ne_conflicting (outbox : AcceptedWorkOutbox) (event : AcceptedWorkEvent)
    (context : StratumLeaseContext) (workerResponse : String) :
    insertNew outbox event context workerResponse ≠ .error .conflictingOutboxReplay := by
  have hbound : ∀ value, toI64 value = .error .invalidSessionConfig ∨ toI64 value = .ok value := by
    intro value
    rw [toI64]
    split
    · exact .inr rfl
    · exact .inl rfl
  intro h
  rw [insertNew] at h
  obtain hlast | hlast := hbound context.lastMonotonicMilliseconds
  · rw [hlast] at h
    cases h
  obtain hrenew | hrenew := hbound context.renewAtMonotonicMilliseconds
  · rw [hlast, hrenew] at h
    cases h
  obtain hexpires | hexpires := hbound context.expiresAtMonotonicMilliseconds
  · rw [hlast, hrenew, hexpires] at h
    cases h
  obtain hreceived | hreceived := hbound event.receivedAt.unixSeconds
  · rw [hlast, hrenew, hexpires, hreceived] at h
    cases h
  simp only [hlast, hrenew, hexpires, hreceived, bind, Except.bind] at h
  repeat' split at h
  all_goals cases h

/-- A share is not refused as a conflicting replay of a row that agrees with it. -/
theorem persist_ne_conflicting {event : AcceptedWorkEvent} {context : StratumLeaseContext}
    {workerResponse : String} {row : AcceptedWorkRow}
    (hrow : outbox.lookup event.eventId = some row)
    (hagrees : RowAgrees row event context workerResponse) :
    (persist deps outbox event context workerResponse).2 ≠ .error .conflictingOutboxReplay := by
  simp only [persist]
  split
  · simp
  · cases hinsert : insertNew outbox event context workerResponse with
    | error error =>
        rintro ⟨⟩
        exact insertNew_ne_conflicting _ _ _ _ hinsert
    | ok inserted =>
        obtain ⟨-, rfl⟩ | ⟨hfresh, -⟩ := insertNew_eq_ok hinsert
        · simp only [readBack, hrow]
          cases hread : row.leaseContextFromRow deps with
          | error error =>
              rintro ⟨⟩
              rw [AcceptedWorkRow.leaseContextFromRow, StratumLeaseContext.new] at hread
              repeat' split at hread
              all_goals cases hread
          | ok read =>
              obtain rfl := leaseContextFromRow_eq_ok hread
              simp [hagrees.observation, hagrees.lease, hagrees.response, bind, Except.bind]
        · exact absurd (Rows.mem_of_lookup hrow) hfresh

/-- Two shares of one identity that do not differ where the outbox looks: once the first is
recorded, the second is never refused as a conflicting replay. -/
theorem persist_second_ne_conflicting {event other : AcceptedWorkEvent}
    {context otherContext : StratumLeaseContext} {workerResponse : String}
    {stored : PersistedAcceptedWork} (hid : event.eventId = other.eventId)
    (hobservation : sameShareObservation event other = true)
    (hlease : sameLeaseIdentity context otherContext = true)
    (h : (persist deps outbox event context workerResponse).2 = .ok stored)
    (hkeeps : KeepsStored (persist deps outbox event context workerResponse).1 after) :
    (persist deps after other otherContext workerResponse).2 ≠
      .error .conflictingOutboxReplay := by
  obtain ⟨row, hrow, hagrees⟩ := exists_row_of_persist h
  obtain ⟨kept, hkept, hstored⟩ := hkeeps _ row hrow
  rw [hid] at hkept
  exact persist_ne_conflicting hkept ((hagrees.of_stored hstored).congr hobservation hlease)

theorem readable_of_effect {request : OutboxRequest} {reply : OutboxReply}
    (hreadable : Readable deps outbox) (heffect : Effect deps outbox request after reply) :
    Readable deps after := by
  have hkept := keepsStored_of_effect heffect
  intro eventId row hrow
  cases hold : outbox.lookup eventId with
  | some old =>
      obtain ⟨kept, hlookup, hstored⟩ := hkept eventId old hold
      rw [hrow, Option.some.injEq] at hlookup
      subst hlookup
      obtain ⟨hkey, hread⟩ := hreadable eventId old hold
      have hevent : row.event = old.event := congrArg PersistedAcceptedWork.event hstored
      have hcontext : row.leaseContext = old.leaseContext :=
        congrArg PersistedAcceptedWork.leaseContext hstored
      rw [leaseContextFromRow_congr hstored, hevent, hcontext]
      exact ⟨hkey, hread⟩
  | none =>
      cases heffect with
      | fails => simp [hold] at hrow
      | idle => simp [hold] at hrow
      | replays _ => simp [hold] at hrow
      | inserts hfresh hread =>
          rw [Rows.lookup_insert_eq] at hrow
          split at hrow
          · next heq =>
              cases hrow
              exact ⟨heq.symm, hread⟩
          · simp [hold] at hrow
      | claims _ _ _ =>
          rw [Rows.lookup_updateRow_eq, hold] at hrow
          simp at hrow
      | releases _ _ _ _ =>
          rw [setDelivery, Rows.lookup_updateRow_eq, hold] at hrow
          simp at hrow

/-! ## What the history says -/

/-- When the newest claim of an event that a worker was handed and has not given back runs
out. -/
def openClaim (eventId : AcceptedWorkEventId) (workerId : String) :
    List (OutboxRequest × OutboxReply) → Option ℕ
  | [] => none
  | (.claimNext owner _ leaseExpiresAt _, .claimed (some claimed)) :: earlier =>
      if claimed.event.eventId = eventId ∧ owner = workerId then some leaseExpiresAt
      else openClaim eventId workerId earlier
  | entry :: earlier =>
      if releasesClaim eventId workerId entry then none else openClaim eventId workerId earlier

/-- Whether a worker holds an unexpired claim of an event at `now`. -/
def HoldsClaim (history : List (OutboxRequest × OutboxReply)) (eventId : AcceptedWorkEventId)
    (workerId : String) (now : ℕ) : Prop :=
  ∃ leaseExpiresAt, openClaim eventId workerId history = some leaseExpiresAt ∧
    now < leaseExpiresAt

/-- An entry that is not about an event changes nothing in its claims. -/
theorem openClaim_cons_of_untouched {eventId : AcceptedWorkEventId} (workerId : String)
    {entry : OutboxRequest × OutboxReply} (history : List (OutboxRequest × OutboxReply))
    (h : touchesEvent eventId entry = false) :
    openClaim eventId workerId (entry :: history) = openClaim eventId workerId history := by
  unfold openClaim
  split
  · next heq => cases heq
  · next owner now leaseExpiresAt locked claimed earlier heq =>
      obtain ⟨rfl, rfl⟩ := List.cons.inj heq
      simp only [touchesEvent, beq_eq_false_iff_ne, ne_eq] at h
      rw [if_neg fun hboth => h hboth.1]
      exact openClaim.eq_def eventId workerId history ▸ rfl
  · next hclaims heq =>
      obtain ⟨rfl, rfl⟩ := List.cons.inj heq
      have hreleases : releasesClaim eventId workerId entry = false := by
        by_contra hreleases
        rw [Bool.not_eq_false] at hreleases
        simp [touchesEvent_of_releases hreleases] at h
      rw [hreleases]
      exact openClaim.eq_def eventId workerId history ▸ rfl

/-- The history compared with the table. -/
structure OutboxTrace (deps : Dependencies) (history : List (OutboxRequest × OutboxReply))
    (outbox : AcceptedWorkOutbox) : Prop where
  readable : Readable deps outbox
  settled : ∀ eventId, history.countP (settlesEvent eventId) =
    if (outbox.lookup eventId).any fun row => !row.delivery.isPending then 1 else 0
  claims : ∀ eventId row claim maybeNextAttempt, outbox.lookup eventId = some row →
    row.delivery = .pending (some claim) maybeNextAttempt →
      openClaim eventId claim.owner history = some claim.leaseExpiresAtUnixSeconds
  held : ∀ eventId workerId leaseExpiresAt,
    openClaim eventId workerId history = some leaseExpiresAt →
    latestTime history < leaseExpiresAt → ∃ row maybeNextAttempt,
      outbox.lookup eventId = some row ∧
      row.delivery = .pending (some ⟨workerId, leaseExpiresAt⟩) maybeNextAttempt
  persisted : ∀ event context workerResponse stored,
    (OutboxRequest.persist event context workerResponse, OutboxReply.persisted stored) ∈ history →
      event.eventId ∈ outbox ∧
      persist deps outbox event context workerResponse = (outbox, .ok stored)

namespace OutboxTrace

variable {history : List (OutboxRequest × OutboxReply)} {request : OutboxRequest}
  {reply : OutboxReply}

theorem start (deps : Dependencies) : OutboxTrace deps [] ∅ where
  readable := by
    intro eventId row hrow
    simp at hrow
  settled := fun _ => rfl
  claims := by
    intro eventId row claim maybeNextAttempt hrow
    simp at hrow
  held := by
    intro eventId workerId leaseExpiresAt hopen
    simp [openClaim] at hopen
  persisted := by
    intro event context workerResponse stored hmem
    simp at hmem

theorem settled_step (htrace : OutboxTrace deps history outbox) {eventId : AcceptedWorkEventId}
    (hstep : RowStep outbox after eventId (request, reply)) :
    ((request, reply) :: history).countP (settlesEvent eventId) =
      if (after.lookup eventId).any fun row => !row.delivery.isPending then 1 else 0 := by
  have hbefore := htrace.settled eventId
  have hother : touchesEvent eventId (request, reply) = false →
      settlesEvent eventId (request, reply) = false := by
    intro huntouched
    by_contra hsettles
    rw [Bool.not_eq_false] at hsettles
    simp [touchesEvent_of_settles hsettles] at huntouched
  rw [List.countP_cons, hbefore]
  cases hstep with
  | kept huntouched hkept => simp [hother huntouched, hkept]
  | inserted huntouched hfresh hrow hpending =>
      simp [hother huntouched, hfresh, hrow, hpending, DeliveryState.isPending]
  | claimed hrow hpending hfree hclaimedRow hdelivery hclaimed =>
      simp [settlesEvent, hrow, hpending, hclaimedRow, hdelivery, DeliveryState.isPending]
  | @released _ claimed now _ _ _ _ hclaimed hevent hrow hheld hreleasedRow hclaimless hsettles =>
      have hsettling : settlesEvent eventId (request, .done) = isSettling request := by
        cases request <;> simp_all [handsIn, settlesEvent, isSettling]
      have hpending : _ = true := congrArg DeliveryState.isPending hheld
      simp only [hsettling, hrow, hpending, hreleasedRow, hsettles, Option.any_some]
      cases isSettling request with
      | false => rfl
      | true => rfl

theorem claims_step (htrace : OutboxTrace deps history outbox) {eventId : AcceptedWorkEventId}
    (hstep : RowStep outbox after eventId (request, reply)) {row : AcceptedWorkRow}
    {claim : DeliveryClaim} {maybeNextAttempt : Option ℕ}
    (hrow : after.lookup eventId = some row)
    (hdelivery : row.delivery = .pending (some claim) maybeNextAttempt) :
    openClaim eventId claim.owner ((request, reply) :: history) =
      some claim.leaseExpiresAtUnixSeconds := by
  cases hstep with
  | kept huntouched hkept =>
      rw [openClaim_cons_of_untouched _ _ huntouched]
      exact htrace.claims eventId row claim maybeNextAttempt (hkept ▸ hrow) hdelivery
  | inserted huntouched hfresh hinserted hpending =>
      rw [hrow, Option.some.injEq] at hinserted
      subst hinserted
      simp [hdelivery] at hpending
  | claimed hold hpending hfree hclaimedRow hclaimedDelivery hclaimed =>
      rw [hrow, Option.some.injEq] at hclaimedRow
      subst hclaimedRow
      rw [hdelivery, DeliveryState.pending.injEq, Option.some.injEq] at hclaimedDelivery
      obtain ⟨rfl, -⟩ := hclaimedDelivery
      rw [openClaim, if_pos ⟨hclaimed, rfl⟩]
  | released hclaimed hevent hold hheld hreleasedRow hclaimless hsettles =>
      rw [hrow, Option.some.injEq] at hreleasedRow
      subst hreleasedRow
      exact absurd hdelivery (hclaimless claim maybeNextAttempt)

theorem held_step (htrace : OutboxTrace deps history outbox) {eventId : AcceptedWorkEventId}
    (hstep : RowStep outbox after eventId (request, reply)) {workerId : String}
    {leaseExpiresAt : ℕ}
    (hopen : openClaim eventId workerId ((request, reply) :: history) = some leaseExpiresAt)
    (halive : latestTime ((request, reply) :: history) < leaseExpiresAt) :
    ∃ row maybeNextAttempt, after.lookup eventId = some row ∧
      row.delivery = .pending (some ⟨workerId, leaseExpiresAt⟩) maybeNextAttempt := by
  rw [latestTime, max_lt_iff] at halive
  obtain ⟨hnow, hlatest⟩ := halive
  cases hstep with
  | kept huntouched hkept =>
      rw [openClaim_cons_of_untouched _ _ huntouched] at hopen
      rw [hkept]
      exact htrace.held eventId workerId leaseExpiresAt hopen hlatest
  | inserted huntouched hfresh hrow hpending =>
      rw [openClaim_cons_of_untouched _ _ huntouched] at hopen
      obtain ⟨row, maybeNextAttempt, hlookup, -⟩ := htrace.held _ _ _ hopen hlatest
      simp [hfresh] at hlookup
  | @claimed owner now _ locked _ maybeNextAttempt _ claimedRow _ hrow hpending hfree hclaimedRow
      hdelivery hclaimed =>
      rw [openClaim] at hopen
      split at hopen
      · next hsame =>
          rw [Option.some.injEq] at hopen
          subst hopen
          obtain ⟨-, rfl⟩ := hsame
          exact ⟨claimedRow, maybeNextAttempt, hclaimedRow, hdelivery⟩
      · -- Another worker took the claim over, so this one had run out.
        obtain ⟨row, _, hlookup, hheld⟩ := htrace.held _ _ _ hopen hlatest
        rw [hrow, Option.some.injEq] at hlookup
        subst hlookup
        rw [hpending, DeliveryState.pending.injEq] at hheld
        have hrunOut : leaseExpiresAt ≤ now := hfree _ hheld.1
        exact absurd hnow (not_lt.mpr hrunOut)
  | @released _ claimed now _ _ row _ hclaimed hevent hrow hheld hreleasedRow hclaimless
      hsettles =>
      have hreleases : releasesClaim eventId workerId (request, .done) =
          (claimed.deliveryOwner == workerId) := by
        cases request <;> simp_all [handsIn, releasesClaim]
      have hopen' : (if releasesClaim eventId workerId (request, .done) then none
          else openClaim eventId workerId history) = some leaseExpiresAt := by
        rw [← hopen]
        cases request <;> simp_all [handsIn, openClaim]
      rw [hreleases] at hopen'
      split at hopen'
      · cases hopen'
      · next hother =>
          obtain ⟨held, _, hlookup, hdelivery⟩ := htrace.held _ _ _ hopen' hlatest
          rw [hrow, Option.some.injEq] at hlookup
          subst hlookup
          rw [hheld, DeliveryState.pending.injEq, Option.some.injEq,
            DeliveryClaim.mk.injEq] at hdelivery
          exact absurd (beq_iff_eq.mpr hdelivery.1.1) hother

theorem persisted_step (htrace : OutboxTrace deps history outbox)
    {event : AcceptedWorkEvent} {context : StratumLeaseContext} {workerResponse : String}
    {stored : PersistedAcceptedWork}
    (hmem : (OutboxRequest.persist event context workerResponse, OutboxReply.persisted stored) ∈
      (request, (step deps outbox request).2) :: history) :
    event.eventId ∈ (step deps outbox request).1 ∧
      persist deps (step deps outbox request).1 event context workerResponse =
        ((step deps outbox request).1, .ok stored) := by
  have hkeeps := keepsStored_of_effect (effect_of_step deps outbox request)
  rcases List.mem_cons.mp hmem with hnew | hold
  · obtain ⟨rfl, hreply⟩ := Prod.mk.inj hnew
    have hresult : persist deps outbox event context workerResponse =
        ((step deps outbox (.persist event context workerResponse)).1, .ok stored) := by
      simp only [step, answer] at hreply ⊢
      cases hpersist : (persist deps outbox event context workerResponse).2 with
      | error error => simp [hpersist] at hreply
      | ok found =>
          simp only [hpersist, OutboxReply.persisted.injEq] at hreply
          subst hreply
          rw [← hpersist]
    generalize (step deps outbox (.persist event context workerResponse)).1 = written at hresult ⊢
    have hmem : event.eventId ∈ written := by
      rcases persist_cases deps outbox event context workerResponse with
        ⟨error, hfailed⟩ | ⟨row, hrow, -, hsame⟩ | ⟨-, leaseUuid, -, hinserted⟩
      · rw [hfailed] at hresult
        cases hresult
      · rw [hsame] at hresult
        cases hresult
        exact Rows.mem_of_lookup hrow
      · rw [hinserted] at hresult
        cases hresult
        exact (AList.mem_insert _).mpr (.inl rfl)
    obtain ⟨row, hrow⟩ := Rows.exists_lookup_of_mem hmem
    exact ⟨hmem, persist_again hresult hrow hrow rfl⟩
  · obtain ⟨hbefore, hagain⟩ := htrace.persisted event context workerResponse stored hold
    obtain ⟨row, hrow⟩ := Rows.exists_lookup_of_mem hbefore
    obtain ⟨kept, hkept, hstored⟩ := hkeeps event.eventId row hrow
    exact ⟨Rows.mem_of_lookup hkept, persist_again hagain hrow hkept hstored⟩

/-- One call keeps the history in step with the table. -/
theorem step (htrace : OutboxTrace deps history outbox) (request : OutboxRequest) :
    OutboxTrace deps ((request, (AcceptedWorkOutbox.step deps outbox request).2) :: history)
      (AcceptedWorkOutbox.step deps outbox request).1 := by
  have heffect := effect_of_step deps outbox request
  have hrow := rowStep_of_effect htrace.readable heffect
  exact ⟨readable_of_effect htrace.readable heffect,
    fun eventId => htrace.settled_step (hrow eventId),
    fun eventId _ _ _ hlookup hdelivery => htrace.claims_step (hrow eventId) hlookup hdelivery,
    fun eventId _ _ hopen halive => htrace.held_step (hrow eventId) hopen halive,
    fun _ _ _ _ hmem => htrace.persisted_step hmem⟩

theorem of_run (hrun : (acceptedWorkOutbox deps).Run history outbox) :
    OutboxTrace deps history outbox := by
  refine Machine.Run.invariant (P := fun history outbox => OutboxTrace deps history outbox)
    (start deps) ?_ hrun
  intro history outbox request _ htrace
  exact htrace.step request

end OutboxTrace

/-! ## Safety -/

/-- What the outbox promises its callers at a point of a run. -/
structure Safe (deps : Dependencies) (history : List (OutboxRequest × OutboxReply))
    (outbox : AcceptedWorkOutbox) : Prop where
  /-- A persisted event is there, pending until its one settlement. -/
  neverLost : ∀ event context workerResponse stored,
    (OutboxRequest.persist event context workerResponse, OutboxReply.persisted stored) ∈ history →
      ∃ row, outbox.lookup event.eventId = some row ∧
        history.countP (settlesEvent event.eventId) = if row.delivery.isPending then 0 else 1
  /-- A settled event is left alone from then on. -/
  settledForGood : ∀ eventId row, outbox.lookup eventId = some row →
    row.delivery.isPending = false →
      ∀ later reached, (acceptedWorkOutbox deps).Continues history outbox later reached →
        reached.lookup eventId = some row ∧
        later.countP (touchesEvent eventId) = history.countP (touchesEvent eventId)
  /-- At any time from now on, at most one worker holds an unexpired claim. -/
  oneHolder : ∀ eventId first second now, latestTime history ≤ now →
    HoldsClaim history eventId first now → HoldsClaim history eventId second now → first = second
  /-- A settlement or deferral succeeds for the holder only. -/
  onlyHolder : ∀ request claimed now, handsIn request = some (claimed, now) →
    (step deps outbox request).2 = .done →
      HoldsClaim history claimed.event.eventId claimed.deliveryOwner now
  /-- Persisting again what was persisted gives the same answer and writes nothing. -/
  idempotent : ∀ event context workerResponse stored,
    (OutboxRequest.persist event context workerResponse, OutboxReply.persisted stored) ∈ history →
      step deps outbox (.persist event context workerResponse) = (outbox, .persisted stored)
  /-- Another observation under a known identity is refused and writes nothing. -/
  conflictRefused : ∀ event context workerResponse row,
    outbox.lookup event.eventId = some row → sameShareObservation row.event event = false →
      ∃ error, step deps outbox (.persist event context workerResponse) = (outbox, .failed error)

/-- No call touches a settled row. -/
theorem settled_untouched {eventId : AcceptedWorkEventId} {row : AcceptedWorkRow}
    {entry : OutboxRequest × OutboxReply} (hrow : outbox.lookup eventId = some row)
    (hsettled : row.delivery.isPending = false) (hstep : RowStep outbox after eventId entry) :
    after.lookup eventId = some row ∧ touchesEvent eventId entry = false := by
  cases hstep with
  | kept huntouched hkept => exact ⟨hkept.trans hrow, huntouched⟩
  | inserted huntouched hfresh hinserted hpending => simp [hfresh] at hrow
  | claimed hold hpending hfree hclaimedRow hdelivery hclaimed =>
      rw [hrow, Option.some.injEq] at hold
      subst hold
      simp [hpending, DeliveryState.isPending] at hsettled
  | released hclaimed hevent hold hheld hreleasedRow hclaimless hsettles =>
      rw [hrow, Option.some.injEq] at hold
      subst hold
      simp [hheld, DeliveryState.isPending] at hsettled

theorem settled_of_continues {history later : List (OutboxRequest × OutboxReply)}
    {reached : AcceptedWorkOutbox} (hrun : (acceptedWorkOutbox deps).Run history outbox)
    (hcontinues : (acceptedWorkOutbox deps).Continues history outbox later reached)
    {eventId : AcceptedWorkEventId} {row : AcceptedWorkRow}
    (hrow : outbox.lookup eventId = some row) (hsettled : row.delivery.isPending = false) :
    reached.lookup eventId = some row ∧
      later.countP (touchesEvent eventId) = history.countP (touchesEvent eventId) := by
  induction hcontinues with
  | refl => exact ⟨hrow, rfl⟩
  | extend prior request hadmits ih =>
      obtain ⟨hkept, hcount⟩ := ih
      have hreadable := (OutboxTrace.of_run (hrun.trans prior)).readable
      have hstep := rowStep_of_effect hreadable (effect_of_step deps _ request) eventId
      obtain ⟨hlookup, huntouched⟩ := settled_untouched hkept hsettled hstep
      refine ⟨hlookup, ?_⟩
      rw [List.countP_cons_of_neg, hcount]
      exact Bool.not_eq_true _ ▸ huntouched

/-- A refused observation: the row that is there is not the one to be persisted. -/
theorem persist_conflict {event : AcceptedWorkEvent} {row : AcceptedWorkRow}
    (hrow : outbox.lookup event.eventId = some row)
    (hother : sameShareObservation row.event event = false) (context : StratumLeaseContext)
    (workerResponse : String) :
    ∃ error, step deps outbox (.persist event context workerResponse) =
      (outbox, .failed error) := by
  rcases persist_cases deps outbox event context workerResponse with
    ⟨error, hfailed⟩ | ⟨found, hfound, hsame, -⟩ | ⟨hfresh, -⟩
  · exact ⟨error, by simp only [step, answer, hfailed]⟩
  · rw [hrow, Option.some.injEq] at hfound
    subst hfound
    simp [hother] at hsame
  · exact absurd (Rows.mem_of_lookup hrow) hfresh

end AcceptedWorkOutbox

/-- The outbox is safe at every point of every run. -/
theorem acceptedWorkOutbox_safe {deps : Dependencies}
    {history : List (OutboxRequest × OutboxReply)} {outbox : AcceptedWorkOutbox}
    (hrun : (acceptedWorkOutbox deps).Run history outbox) :
    AcceptedWorkOutbox.Safe deps history outbox := by
  have htrace := AcceptedWorkOutbox.OutboxTrace.of_run hrun
  refine ⟨?_, ?_, ?_, ?_, ?_, ?_⟩
  · intro event context workerResponse stored hmem
    obtain ⟨row, hrow⟩ := Rows.exists_lookup_of_mem
      (htrace.persisted event context workerResponse stored hmem).1
    refine ⟨row, hrow, ?_⟩
    rw [htrace.settled, hrow, Option.any_some]
    cases row.delivery.isPending with
    | false => rfl
    | true => rfl
  · intro eventId row hrow hsettled later reached hcontinues
    exact AcceptedWorkOutbox.settled_of_continues hrun hcontinues hrow hsettled
  · rintro eventId first second now hlatest ⟨firstEnd, hfirst, hfirstAlive⟩
      ⟨secondEnd, hsecond, hsecondAlive⟩
    obtain ⟨row, _, hrow, hdelivery⟩ :=
      htrace.held eventId first firstEnd hfirst (hlatest.trans_lt hfirstAlive)
    obtain ⟨other, _, hother, hsame⟩ :=
      htrace.held eventId second secondEnd hsecond (hlatest.trans_lt hsecondAlive)
    rw [hrow, Option.some.injEq] at hother
    subst hother
    rw [hdelivery, DeliveryState.pending.injEq, Option.some.injEq, DeliveryClaim.mk.injEq] at hsame
    exact hsame.1.1
  · intro request claimed now hclaimed hdone
    have heffect := AcceptedWorkOutbox.effect_of_step deps outbox request
    generalize (AcceptedWorkOutbox.step deps outbox request).1 = after at heffect
    rw [hdone] at heffect
    cases heffect with
    | claims _ _ hreply => simp at hreply
    | releases hhanded hheld _ _ =>
        rw [hclaimed, Option.some.injEq, Prod.mk.injEq] at hhanded
        obtain ⟨rfl, rfl⟩ := hhanded
        obtain ⟨row, leaseExpiresAt, maybeNextAttempt, hrow, hdelivery, halive⟩ :=
          AcceptedWorkOutbox.heldBy_iff.mp hheld
        exact ⟨leaseExpiresAt, htrace.claims _ row _ _ hrow hdelivery, halive⟩
  · intro event context workerResponse stored hmem
    have hagain := (htrace.persisted event context workerResponse stored hmem).2
    simp only [AcceptedWorkOutbox.step, AcceptedWorkOutbox.answer, hagain]
  · intro event context workerResponse row hrow hother
    exact AcceptedWorkOutbox.persist_conflict hrow hother context workerResponse

/-- One share recorded twice, taken by a worker that lets its claim run out, then delivered
and acknowledged by another. -/
def takenOverRequests : List OutboxRequest :=
  let event : AcceptedWorkEvent := {
    eventId := ⟨"event_a", validEvent_a⟩
    workSessionId := ⟨"session_a", validSession_a⟩
    assignedTarget := ⟨List.replicate 32 255, length_easiest, easiest_ne_zero⟩
    receivedAt := ⟨5, receivedAt_five⟩
    shareFingerprint := ⟨"share_a", validShare_a⟩
    networkTargetOutcome := .belowNetworkTarget
    maybeWorkerReport := none }
  let context : StratumLeaseContext :=
    ⟨"00000000-0000-4000-8000-000000000000", "boot", 15, 20, 60, validLeaseWindow_short⟩
  let response := "\x7b\"id\":4,\"result\":true\x7d"
  let claimedBy : String → ℕ → ℕ → ClaimedAcceptedWork := fun owner leaseExpiresAt attempts =>
    ⟨event, context, response, owner, leaseExpiresAt, attempts⟩
  [.persist event context response, .persist event context response,
    .claimNext "delivery_worker_a" 10 20 [], .claimNext "delivery_worker_b" 20 30 [],
    .acknowledge (claimedBy "delivery_worker_a" 20 1) 25,
    .acknowledge (claimedBy "delivery_worker_b" 30 2) 25]

/-- The one response of the run above, as it parses. -/
def takenOverDependencies : Dependencies :=
  .ofTables [("\x7b\"id\":4,\"result\":true\x7d",
      .object [("id", .number (.posInt 4)), ("result", .bool true)])]
    ["00000000-0000-4000-8000-000000000000"] []

theorem takenOverRequests_safe :
    AcceptedWorkOutbox.Safe takenOverDependencies
        ((acceptedWorkOutbox takenOverDependencies).replay takenOverRequests).1
        ((acceptedWorkOutbox takenOverDependencies).replay takenOverRequests).2 ∧
      (((acceptedWorkOutbox takenOverDependencies).replay takenOverRequests).1.map
        fun entry => AcceptedWorkOutbox.settlesEvent ⟨"event_a", by decide⟩ entry) =
        [true, false, false, false, false, false] := by
  refine ⟨acceptedWorkOutbox_safe (Machine.run_replay takenOverRequests ?_), by decide +kernel⟩
  refine ⟨?_, ?_, ?_, ?_, ?_, ?_, trivial⟩
  all_goals
    intro now hnow
    cases hnow
  all_goals decide

end WorkGate
