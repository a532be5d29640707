/-
# Admitting signed Work Leases on a Worker (web/worker-lease-admission.ts)

A Worker remembers, for every signing key, the highest authorization sequence it has
accepted, and the possession context a lease may be started in.  An admission is planned
against a snapshot of that state and committed later by a compare-and-swap; only a
committed plan may have an effect.
-/

import WorkGate.Library.Past
import WorkGate.Library.Results
import WorkGate.Library.Rows
import WorkGate.Progress.Event

namespace WorkGate

open WorkGate.Library

/-! ## Planning and committing -/

/-- Maximum age of an unused possession context presented for Start. -/
def unusedWorkerLeaseContextMilliseconds : ℕ := 60000

/-- Largest durable unsigned Work Lease authority sequence. -/
def maximumWorkerLeaseAuthorizationSequence : ℕ := 2 ^ 64 - 1

/-- `Number.MAX_SAFE_INTEGER`. -/
def maximumSafeInteger : ℕ := 2 ^ 53 - 1

/-- Controller operation authorized by one signed artifact. -/
inductive WorkerLeaseAuthorizationOperation
  | start
  | renew
  deriving DecidableEq, Repr

/-- A possession context, with the lease started in it. -/
structure PossessionContext where
  controlSessionBindingSha256 : String
  establishedAtMonotonicMilliseconds : ℕ
  maybeActiveLeaseId : Option String
  deriving DecidableEq

/-- Firmware-neutral replay and possession-context state. -/
structure WorkerLeaseAdmissionState where
  maybeContext : Option PossessionContext
  highWaterByKeyId : Rows String String
  deriving DecidableEq

/-- Verified signer identity and durable replay sequence. -/
structure VerifiedWorkerLeaseAuthorization where
  keyId : String
  sequence : ℕ
  deriving DecidableEq

/-- Inputs required to decide whether authorization may precede one lease effect. -/
structure WorkerLeaseAdmissionInput where
  operation : WorkerLeaseAuthorizationOperation
  leaseId : String
  controlSessionBindingSha256 : String
  nowMonotonicMilliseconds : ℕ
  authorization : VerifiedWorkerLeaseAuthorization
  deriving DecidableEq

/-- Durable state transition which must commit before its associated lease effect. -/
structure PlannedWorkerLeaseAdmission where
  nextState : WorkerLeaseAdmissionState
  acceptedKeyId : String
  acceptedSequence : String
  expectedPriorSequence : String
  expectedControlSessionBindingSha256 : String
  expectedContextEstablishedAtMonotonicMilliseconds : ℕ
  maybeExpectedActiveLeaseId : Option String
  deriving DecidableEq

/-- Atomic durable compare-and-swap outcome returned before any lease effect. -/
inductive WorkerLeaseAdmissionPersistenceResult
  | committed
  | stale
  | alreadyCommitted
  deriving DecidableEq, Repr

/-- Closed rejection categories shared by browser, firmware, and conformance fixtures. -/
inductive WorkerLeaseAdmissionErrorCode
  | contextExpired
  | contextInvalid
  | monotonicInvalid
  | replay
  | stateInvalid
  deriving DecidableEq, Repr

/-- `BigInt` of a text of decimal digits. -/
def bigInt (text : String) : ℕ := Nat.ofDigitChars 10 text.toList 0

@[simp]
theorem bigInt_repr (value : ℕ) : bigInt value.repr = value := by
  rw [bigInt, Nat.toList_repr, Nat.ofDigitChars_ten_toDigits]

/-- `validPersistedSequence`: a canonical decimal of at most twenty digits. -/
def validPersistedSequence (text : String) : Bool :=
  (match text.toList with
    | [] => false
    | first :: rest => first == '0' && rest.isEmpty ||
        first != '0' && first.isDigit && decide (rest.length ≤ 19) && rest.all Char.isDigit) &&
    decide (bigInt text ≤ maximumWorkerLeaseAuthorizationSequence)

/-- A text of identifier characters whose length lies within bounds. -/
def validIdentifier (minimum maximum : ℕ) (text : String) : Bool :=
  decide (minimum ≤ text.toList.length) && decide (text.toList.length ≤ maximum) &&
    text.toList.all isOpaqueIdCharacter

/-- `validKeyId`. -/
def validKeyId (text : String) : Bool := validIdentifier 1 32 text

/-- `validLeaseId`. -/
def validLeaseId (text : String) : Bool := validIdentifier 1 128 text

/-- `digest`. -/
def isDigest (text : String) : Bool := validIdentifier 43 43 text

/-- `validMonotonic`. -/
def validMonotonic (value : ℕ) : Bool := decide (value ≤ maximumSafeInteger)

/-- `parseAdmissionState`. -/
def parseAdmissionState (state : WorkerLeaseAdmissionState) :
    Except WorkerLeaseAdmissionErrorCode WorkerLeaseAdmissionState :=
  if state.highWaterByKeyId.entries.any fun entry =>
      !validKeyId entry.1 || !validPersistedSequence entry.2 then .error .stateInvalid
  else match state.maybeContext with
    | none => .ok state
    | some context =>
        if !isDigest context.controlSessionBindingSha256 ||
            !validMonotonic context.establishedAtMonotonicMilliseconds ||
            context.maybeActiveLeaseId.any (!validLeaseId ·) then .error .stateInvalid
        else .ok state

/-- `parseAdmissionInput`. -/
def parseAdmissionInput (input : WorkerLeaseAdmissionInput) :
    Except WorkerLeaseAdmissionErrorCode WorkerLeaseAdmissionInput :=
  if !validLeaseId input.leaseId || !isDigest input.controlSessionBindingSha256 ||
      !validMonotonic input.nowMonotonicMilliseconds ||
      !validKeyId input.authorization.keyId || decide (input.authorization.sequence < 1) ||
      decide (maximumWorkerLeaseAuthorizationSequence < input.authorization.sequence) then
    .error .contextInvalid
  else .ok input

/-- The mark of a key, `"0"` for a key that has none. -/
def WorkerLeaseAdmissionState.markOf (state : WorkerLeaseAdmissionState) (keyId : String) :
    String :=
  (state.highWaterByKeyId.lookup keyId).getD "0"

/-- What a plan is decided on, once state and input are admitted and there is a context. -/
def planInContext (state : WorkerLeaseAdmissionState) (input : WorkerLeaseAdmissionInput)
    (context : PossessionContext) :
    Except WorkerLeaseAdmissionErrorCode PlannedWorkerLeaseAdmission :=
  if context.controlSessionBindingSha256 ≠ input.controlSessionBindingSha256 then
    .error .contextInvalid
  else if input.nowMonotonicMilliseconds < context.establishedAtMonotonicMilliseconds then
    .error .monotonicInvalid
  else if input.operation = .start ∧ unusedWorkerLeaseContextMilliseconds ≤
      input.nowMonotonicMilliseconds - context.establishedAtMonotonicMilliseconds then
    .error .contextExpired
  else if input.operation = .start ∧ context.maybeActiveLeaseId ≠ none ∨
      input.operation = .renew ∧ context.maybeActiveLeaseId ≠ some input.leaseId then
    .error .contextInvalid
  else if input.authorization.sequence ≤ bigInt (state.markOf input.authorization.keyId) then
    .error .replay
  else .ok {
    acceptedKeyId := input.authorization.keyId
    acceptedSequence := input.authorization.sequence.repr
    expectedPriorSequence := (bigInt (state.markOf input.authorization.keyId)).repr
    expectedControlSessionBindingSha256 := context.controlSessionBindingSha256
    expectedContextEstablishedAtMonotonicMilliseconds :=
      context.establishedAtMonotonicMilliseconds
    maybeExpectedActiveLeaseId := context.maybeActiveLeaseId
    nextState := {
      highWaterByKeyId := state.highWaterByKeyId.insert input.authorization.keyId
        input.authorization.sequence.repr
      maybeContext := some { context with
        maybeActiveLeaseId := match input.operation with
          | .start => some input.leaseId
          | .renew => context.maybeActiveLeaseId } } }

/-- Plans a fail-closed replay/context transition without performing any effect. -/
def planWorkerLeaseAdmission (state : WorkerLeaseAdmissionState)
    (input : WorkerLeaseAdmissionInput) :
    Except WorkerLeaseAdmissionErrorCode PlannedWorkerLeaseAdmission := do
  let admittedState ← parseAdmissionState state
  let admittedInput ← parseAdmissionInput input
  match admittedState.maybeContext with
  | none => .error .contextInvalid
  | some context => planInContext admittedState admittedInput context

/-- Clears every possession context on restoration, disconnect, or reboot. -/
def invalidateWorkerLeaseAdmissionContext (state : WorkerLeaseAdmissionState) :
    Except WorkerLeaseAdmissionErrorCode WorkerLeaseAdmissionState := do
  let admittedState ← parseAdmissionState state
  return { admittedState with maybeContext := none }

/-- Whether a plan's prior sequence and context are the stored ones. -/
def PlannedWorkerLeaseAdmission.matchesState (plan : PlannedWorkerLeaseAdmission)
    (state : WorkerLeaseAdmissionState) : Bool :=
  state.markOf plan.acceptedKeyId == plan.expectedPriorSequence &&
    match state.maybeContext with
    | none => false
    | some context =>
        context.controlSessionBindingSha256 == plan.expectedControlSessionBindingSha256 &&
          context.establishedAtMonotonicMilliseconds ==
            plan.expectedContextEstablishedAtMonotonicMilliseconds &&
          context.maybeActiveLeaseId == plan.maybeExpectedActiveLeaseId

/-- The atomic persistence (`compareAndSwap` of web/worker-lease-admission.test.ts). -/
def compareAndSwap (state : WorkerLeaseAdmissionState) (plan : PlannedWorkerLeaseAdmission) :
    WorkerLeaseAdmissionState × WorkerLeaseAdmissionPersistenceResult :=
  if state.markOf plan.acceptedKeyId = plan.acceptedSequence then (state, .alreadyCommitted)
  else if !plan.matchesState state then (state, .stale)
  else (plan.nextState, .committed)

/-! ## The Worker as a machine -/

/-- The durable state with the plans whose effects were begun, newest first. -/
structure WorkerAdmission where
  durable : WorkerLeaseAdmissionState
  effects : List PlannedWorkerLeaseAdmission

/-- What happens on a Worker.  A possession context is established by a handshake that is not
part of this code. -/
inductive AdmissionRequest
  | plan (input : WorkerLeaseAdmissionInput)
  | commit (plan : PlannedWorkerLeaseAdmission)
  | invalidate
  | establish (controlSessionBindingSha256 : String) (establishedAtMonotonicMilliseconds : ℕ)

inductive AdmissionReply
  | planned (plan : PlannedWorkerLeaseAdmission)
  | rejected (code : WorkerLeaseAdmissionErrorCode)
  | begun
  | done
  deriving DecidableEq

/-- Atomically compares the plan's prior sequence/context and persists before effects. -/
def commitWorkerLeaseAdmission (worker : WorkerAdmission) (plan : PlannedWorkerLeaseAdmission) :
    WorkerAdmission × AdmissionReply :=
  match compareAndSwap worker.durable plan with
  | (durable, .committed) => (⟨durable, plan :: worker.effects⟩, .begun)
  | (durable, _) => (⟨durable, worker.effects⟩, .rejected .replay)

/-- One step of the Worker. -/
def admissionStep (worker : WorkerAdmission) :
    AdmissionRequest → WorkerAdmission × AdmissionReply
  | .plan input =>
      (worker, match planWorkerLeaseAdmission worker.durable input with
        | .ok plan => .planned plan
        | .error code => .rejected code)
  | .commit plan => commitWorkerLeaseAdmission worker plan
  | .invalidate =>
      match invalidateWorkerLeaseAdmissionContext worker.durable with
      | .ok durable => (⟨durable, worker.effects⟩, .done)
      | .error code => (worker, .rejected code)
  | .establish binding establishedAt =>
      (⟨{ worker.durable with maybeContext := some ⟨binding, establishedAt, none⟩ },
        worker.effects⟩, .done)

/-- A Worker that starts from any stored state.  Only plans that were handed out are
committed. -/
def workerAdmission (initial : WorkerLeaseAdmissionState) :
    Machine WorkerAdmission AdmissionRequest AdmissionReply where
  init := ⟨initial, []⟩
  admits := fun history _ request => ∀ plan, request = .commit plan →
    ∃ entry ∈ history, entry.2 = .planned plan
  step := admissionStep

/-! ## What a plan says -/

theorem parseAdmissionState_eq_ok {state admitted : WorkerLeaseAdmissionState}
    (h : parseAdmissionState state = .ok admitted) : admitted = state := by
  simp only [parseAdmissionState] at h
  obtain ⟨-, h⟩ := guard_eq_ok h
  split at h
  · cases h
    rfl
  · obtain ⟨-, h⟩ := guard_eq_ok h
    cases h
    rfl

theorem parseAdmissionInput_eq_ok {input admitted : WorkerLeaseAdmissionInput}
    (h : parseAdmissionInput input = .ok admitted) : admitted = input := by
  obtain ⟨-, h⟩ := guard_eq_ok h
  cases h
  rfl

/-- What a plan was decided on: the mark and the context of the state it was made in. -/
structure Plans (state : WorkerLeaseAdmissionState) (input : WorkerLeaseAdmissionInput)
    (plan : PlannedWorkerLeaseAdmission) (context : PossessionContext) : Prop where
  stored : state.maybeContext = some context
  binding : plan.expectedControlSessionBindingSha256 = context.controlSessionBindingSha256
  establishedAt : plan.expectedContextEstablishedAtMonotonicMilliseconds =
    context.establishedAtMonotonicMilliseconds
  activeLease : plan.maybeExpectedActiveLeaseId = context.maybeActiveLeaseId
  keyId : plan.acceptedKeyId = input.authorization.keyId
  accepted : plan.acceptedSequence = input.authorization.sequence.repr
  prior : plan.expectedPriorSequence = (bigInt (state.markOf input.authorization.keyId)).repr
  above : bigInt (state.markOf input.authorization.keyId) < input.authorization.sequence
  marks : plan.nextState.highWaterByKeyId =
    state.highWaterByKeyId.insert plan.acceptedKeyId plan.acceptedSequence
  nextContext : plan.nextState.maybeContext =
    some { context with maybeActiveLeaseId := some input.leaseId }
  started : input.operation = .start → context.maybeActiveLeaseId = none
  renewed : input.operation = .renew → context.maybeActiveLeaseId = some input.leaseId

theorem planWorkerLeaseAdmission_eq_ok {state : WorkerLeaseAdmissionState}
    {input : WorkerLeaseAdmissionInput} {plan : PlannedWorkerLeaseAdmission}
    (h : planWorkerLeaseAdmission state input = .ok plan) :
    ∃ context, Plans state input plan context := by
  simp only [planWorkerLeaseAdmission, bind_eq_ok] at h
  obtain ⟨admitted, hstate, admittedInput, hinput, h⟩ := h
  cases parseAdmissionState_eq_ok hstate
  cases parseAdmissionInput_eq_ok hinput
  split at h
  · cases h
  · next context hcontext =>
      simp only [planInContext] at h
      obtain ⟨-, h⟩ := guard_eq_ok h
      obtain ⟨-, h⟩ := guard_eq_ok h
      obtain ⟨-, h⟩ := guard_eq_ok h
      obtain ⟨hoperation, h⟩ := guard_eq_ok h
      obtain ⟨habove, h⟩ := guard_eq_ok h
      rw [not_or] at hoperation
      have hstarted : input.operation = .start → context.maybeActiveLeaseId = none :=
        fun hstart => not_not.mp fun hactive => hoperation.1 ⟨hstart, hactive⟩
      have hrenewed : input.operation = .renew →
          context.maybeActiveLeaseId = some input.leaseId :=
        fun hrenew => not_not.mp fun hactive => hoperation.2 ⟨hrenew, hactive⟩
      have hlease : (match input.operation with
          | .start => some input.leaseId
          | .renew => context.maybeActiveLeaseId) = some input.leaseId := by
        cases hchosen : input.operation with
        | start => rfl
        | renew => exact hrenewed hchosen
      rw [hlease] at h
      cases h
      exact ⟨context, hcontext, rfl, rfl, rfl, rfl, rfl, rfl, not_le.mp habove, rfl, rfl, hstarted,
        hrenewed⟩

/-- A plan as any state may have produced it. -/
def WellPlanned (plan : PlannedWorkerLeaseAdmission) : Prop :=
  ∃ state input context, Plans state input plan context

theorem Plans.markOf_key {state : WorkerLeaseAdmissionState} {input : WorkerLeaseAdmissionInput}
    {plan : PlannedWorkerLeaseAdmission} {context : PossessionContext}
    (hplans : Plans state input plan context) :
    plan.nextState.markOf plan.acceptedKeyId = plan.acceptedSequence := by
  rw [WorkerLeaseAdmissionState.markOf, hplans.marks, AList.lookup_insert]
  rfl

theorem Plans.markOf_other {state : WorkerLeaseAdmissionState} {input : WorkerLeaseAdmissionInput}
    {plan : PlannedWorkerLeaseAdmission} {context : PossessionContext}
    (hplans : Plans state input plan context) {keyId : String} (hne : keyId ≠ plan.acceptedKeyId) :
    plan.nextState.markOf keyId = state.markOf keyId := by
  rw [WorkerLeaseAdmissionState.markOf, hplans.marks, AList.lookup_insert_ne hne]
  rfl

/-! ## What a commit does -/

/-- A commit that began its effect. -/
structure Commits (before : WorkerAdmission) (plan : PlannedWorkerLeaseAdmission)
    (after : WorkerAdmission) : Prop where
  matched : plan.matchesState before.durable = true
  durable : after.durable = plan.nextState
  effects : after.effects = plan :: before.effects

/-- A commit began its effect, or changed nothing. -/
theorem commit_cases (worker : WorkerAdmission) (plan : PlannedWorkerLeaseAdmission) :
    commitWorkerLeaseAdmission worker plan = (worker, .rejected .replay) ∨
      (commitWorkerLeaseAdmission worker plan).2 = .begun ∧
        Commits worker plan (commitWorkerLeaseAdmission worker plan).1 := by
  simp only [commitWorkerLeaseAdmission, compareAndSwap]
  by_cases hsame : worker.durable.markOf plan.acceptedKeyId = plan.acceptedSequence
  · rw [if_pos hsame]
    exact .inl rfl
  · rw [if_neg hsame]
    cases hmatched : plan.matchesState worker.durable with
    | false => exact .inl rfl
    | true => exact .inr ⟨rfl, hmatched, rfl, rfl⟩

/-- The stored context and mark a committed plan was compared with. -/
theorem Commits.compared {before after : WorkerAdmission} {plan : PlannedWorkerLeaseAdmission}
    (hcommits : Commits before plan after) :
    before.durable.markOf plan.acceptedKeyId = plan.expectedPriorSequence ∧
      before.durable.maybeContext = some ⟨plan.expectedControlSessionBindingSha256,
        plan.expectedContextEstablishedAtMonotonicMilliseconds,
        plan.maybeExpectedActiveLeaseId⟩ := by
  have hmatched := hcommits.matched
  rw [PlannedWorkerLeaseAdmission.matchesState, Bool.and_eq_true, beq_iff_eq] at hmatched
  obtain ⟨hmark, hcontext⟩ := hmatched
  split at hcontext
  · cases hcontext
  · next context hstored =>
      simp only [Bool.and_eq_true, beq_iff_eq] at hcontext
      rw [hstored, ← hcontext.1.1, ← hcontext.1.2, ← hcontext.2]
      exact ⟨hmark, rfl⟩

/-- A well planned commit raises the mark of its key. -/
theorem Commits.raises {before after : WorkerAdmission} {plan : PlannedWorkerLeaseAdmission}
    (hcommits : Commits before plan after) (hwell : WellPlanned plan) :
    bigInt (before.durable.markOf plan.acceptedKeyId) < bigInt plan.acceptedSequence ∧
      after.durable.markOf plan.acceptedKeyId = plan.acceptedSequence := by
  obtain ⟨state, input, context, hplans⟩ := hwell
  refine ⟨?_, by rw [hcommits.durable, hplans.markOf_key]⟩
  rw [hcommits.compared.1, hplans.prior, hplans.accepted, bigInt_repr, bigInt_repr]
  exact hplans.above

/-- A well planned commit leaves the context with one active lease: the one it had, or the
one it had none for. -/
theorem Commits.leases {before after : WorkerAdmission} {plan : PlannedWorkerLeaseAdmission}
    (hcommits : Commits before plan after) (hwell : WellPlanned plan) :
    ∃ context lease, before.durable.maybeContext = some context ∧
      context.maybeActiveLeaseId = plan.maybeExpectedActiveLeaseId ∧
      after.durable.maybeContext = some { context with maybeActiveLeaseId := some lease } ∧
      (context.maybeActiveLeaseId = none ∨ context.maybeActiveLeaseId = some lease) := by
  obtain ⟨state, input, context, hplans⟩ := hwell
  refine ⟨_, input.leaseId, hcommits.compared.2, rfl, ?_, ?_⟩
  · rw [hcommits.durable, hplans.nextContext, hplans.binding, hplans.establishedAt]
  · rw [hplans.activeLease]
    cases hoperation : input.operation with
    | start => exact .inl (hplans.started hoperation)
    | renew => exact .inr (hplans.renewed hoperation)

/-! ## What a step does -/

/-- The effects of the Worker's steps. -/
inductive AdmissionEffect (before : WorkerAdmission) :
    AdmissionRequest → AdmissionReply → WorkerAdmission → Prop
  | rejects (request : AdmissionRequest) (code : WorkerLeaseAdmissionErrorCode) :
      AdmissionEffect before request (.rejected code) before
  | plans (input : WorkerLeaseAdmissionInput) {plan : PlannedWorkerLeaseAdmission}
      {context : PossessionContext} (hplans : Plans before.durable input plan context) :
      AdmissionEffect before (.plan input) (.planned plan) before
  | commits (plan : PlannedWorkerLeaseAdmission) {after : WorkerAdmission}
      (hcommits : Commits before plan after) : AdmissionEffect before (.commit plan) .begun after
  | invalidates :
      AdmissionEffect before .invalidate .done
        ⟨{ before.durable with maybeContext := none }, before.effects⟩
  | establishes (binding : String) (establishedAt : ℕ) :
      AdmissionEffect before (.establish binding establishedAt) .done
        ⟨{ before.durable with maybeContext := some ⟨binding, establishedAt, none⟩ },
          before.effects⟩

theorem AdmissionEffect.of_step (worker : WorkerAdmission) (request : AdmissionRequest) :
    AdmissionEffect worker request (admissionStep worker request).2
      (admissionStep worker request).1 := by
  cases request with
  | plan input =>
      simp only [admissionStep]
      split
      · next plan hplan =>
          obtain ⟨context, hplans⟩ := planWorkerLeaseAdmission_eq_ok hplan
          exact .plans input hplans
      · next code _ => exact .rejects _ code
  | commit plan =>
      obtain hrefused | ⟨hbegun, hcommits⟩ := commit_cases worker plan
      · rw [admissionStep, hrefused]
        exact .rejects _ _
      · rw [admissionStep, hbegun]
        exact .commits plan hcommits
  | invalidate =>
      simp only [admissionStep]
      split
      · next durable hdurable =>
          simp only [invalidateWorkerLeaseAdmissionContext, bind_eq_ok, pure_eq_ok] at hdurable
          obtain ⟨admitted, hadmitted, rfl⟩ := hdurable
          cases parseAdmissionState_eq_ok hadmitted
          exact .invalidates
      · next code _ => exact .rejects _ code
  | establish binding establishedAt => exact .establishes binding establishedAt

end WorkGate
