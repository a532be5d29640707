/-
# Device evidence in the order of its times

What an accepted record says of the order of things.  Times may be unknown after the clock failed,
and two events around one without a time are never compared: a record is in order just when no
such gap hides a step back.
-/

import WorkGate.Library.Sightings
import WorkGate.Serial.DeviceRecords

namespace WorkGate

open WorkGate.Library

/-! ## Order -/

/-- The times of a share in the order of its way to the pool and back. -/
def V2ShareFact.times (fact : V2ShareFact) : List (Option ℕ) :=
  [some fact.dispatchedAtDeviceUs, some fact.nonceAtDeviceUs, fact.writeStartedAtDeviceUs,
    fact.writeCompletedAtDeviceUs, fact.ackAtDeviceUs]

/-- A known time that is not before a dispatch. -/
def NotBefore (armedAtUs : ℤ) (maybeTime : Option ℕ) : Prop :=
  ∀ time ∈ maybeTime, armedAtUs ≤ (time : ℤ)

/-- A record whose parts are dated in the order in which they happened. -/
structure Chronological (r : V2DeviceRecord) : Prop where
  sequences : r.events.Pairwise fun earlier later => earlier.sequence < later.sequence
  events : (r.events.map (·.atDeviceUs)).Pairwise InOrder
  observed : ∀ maybeTime ∈ r.eventTimes, ∀ time ∈ maybeTime,
    r.admittedAtDeviceUs ≤ time ∧ ∀ observedAt ∈ r.observedAtUs, time ≤ observedAt
  facts : ∀ fact ∈ r.shareFacts, fact.times.Pairwise InOrder
  submissions : (r.shareFacts.map (·.submissionSequence)).Nodup
  armed : r.scope = .share → ∀ deadline ∈ r.authorityDeadlineDeviceUs,
    (∀ event ∈ r.workEvents, NotBefore ((deadline : ℤ) - 180000000) event.atDeviceUs) ∧
      ∀ fact ∈ r.shareFacts, ∀ maybeTime ∈ fact.times,
        NotBefore ((deadline : ℤ) - 180000000) maybeTime
  unarmed : r.scope = .share → r.authorityDeadlineDeviceUs = none →
    r.workEvents = [] ∧ r.shareFacts = []
  accepted : r.outcome = some .accepted →
    r.firstFailure = none ∧ r.secondaryFailures = [] ∧ r.resources.socketClosed = true ∧
      r.resources.workerQuiescent = true ∧ r.resources.fenceRetained = false ∧
      r.jobCommitment.isSome = true

/-! ## What is written -/

/-- The time of an event as it is written. -/
def writtenEventTime : JsValue → Option ℕ
  | .object members => requiredNatural (fieldOf members "atDeviceUs")
  | _ => none

/-- The times of the events of a record as they are written. -/
def writtenEventTimes : JsValue → List (Option ℕ)
  | .object members =>
      match fieldOf members "events" with
      | .array elements => elements.map writtenEventTime
      | _ => []
  | _ => []

theorem noiseUInt_eq_ok {value : JsValue} {number : ℕ} (h : noiseUInt value = .ok number) :
    requiredNatural value = some number := by
  cases value with
  | number found =>
      rw [noiseUInt] at h
      split at h
      · next hsafe =>
          cases h
          rw [maybeSafeNatural_eq_some hsafe, requiredNatural]
      · cases h
  | undefined => cases h
  | null => cases h
  | bool flag => cases h
  | string units => cases h
  | array elements => cases h
  | object members => cases h

theorem maybeNoiseUInt_eq_ok {value : JsValue} {maybeNumber : Option ℕ}
    (h : maybeNoiseUInt value = .ok maybeNumber) : requiredNatural value = maybeNumber := by
  unfold maybeNoiseUInt unlessNull at h
  split at h
  · cases h
    rfl
  · obtain ⟨number, hnumber, rfl⟩ := map_eq_ok.mp h
    exact noiseUInt_eq_ok hnumber

theorem parseV2Event_eq_ok {input : JsValue} {event : V2Event}
    (h : parseV2Event input = .ok event) : event.atDeviceUs = writtenEventTime input := by
  obtain ⟨members, hmembers, h⟩ := bind_eq_ok.mp h
  obtain ⟨sequence, -, h⟩ := bind_eq_ok.mp h
  obtain ⟨atDeviceUs, htime, h⟩ := bind_eq_ok.mp h
  simp only [bind_eq_ok, pure_eq_ok] at h
  obtain ⟨_, -, _, -, _, -, _, -, _, -, _, -, rfl⟩ := h
  rw [readExactRecord_eq_ok hmembers, writtenEventTime, maybeNoiseUInt_eq_ok htime]

theorem evidenceArray_eq_ok {α : Type} {maximum : ℕ} {parse : JsValue → Except SerialFailure α}
    {input : JsValue} {items : List α} (h : evidenceArray maximum parse input = .ok items) :
    ∃ elements, input = .array elements ∧
      List.Forall₂ (fun element item => parse element = .ok item) elements items := by
  unfold evidenceArray at h
  split at h
  · next elements => exact ⟨elements, rfl, mapM_eq_ok.mp (guard_eq_ok h).2⟩
  · cases h

theorem parseV2ShareFact_eq_ok {input : JsValue} {fact : V2ShareFact}
    (h : parseV2ShareFact input = .ok fact) : requireShareFact fact = .ok () := by
  simp only [parseV2ShareFact, bind_eq_ok, pure_eq_ok] at h
  obtain ⟨_, -, _, -, _, -, _, -, _, -, _, -, _, -, _, -, _, -, _, -, _, -, _, -, _, -, _, -, _, -,
    _, -, _, -, _, -, _, -, _, -, _, -, _, -, _, -, _, hchecks, rfl⟩ := h
  exact hchecks

/-- Every item was read from an element. -/
theorem exists_of_evidenceArray {α : Type} {maximum : ℕ}
    {parse : JsValue → Except SerialFailure α} {input : JsValue} {items : List α}
    (h : evidenceArray maximum parse input = .ok items) :
    ∀ item ∈ items, ∃ element, parse element = .ok item := by
  obtain ⟨elements, -, hitems⟩ := evidenceArray_eq_ok h
  clear h
  induction hitems with
  | nil =>
      intro item hmem
      cases hmem
  | @cons element item elements items hitem _ ih =>
      intro found hmem
      cases hmem with
      | head => exact ⟨element, hitem⟩
      | tail _ hmem => exact ih found hmem

/-- What a record that was read has of its input. -/
theorem readV2DeviceRecord_eq_ok {input : JsValue} {r : V2DeviceRecord}
    (h : readV2DeviceRecord input = .ok r) :
    r.events.map (·.atDeviceUs) = writtenEventTimes input ∧
      ∀ fact ∈ r.shareFacts, requireShareFact fact = .ok () := by
  simp only [readV2DeviceRecord, bind_eq_ok, pure_eq_ok] at h
  obtain ⟨members, hmembers, _, -, _, -, _, -, _, -, _, -, _, -, _, -, _, -, _, -, _, -, _, -, _, -,
    _, -, _, -, _, -, _, -, events, hevents, _, -, facts, hfacts, _, -, _, -, _, -, rfl⟩ := h
  obtain ⟨eventElements, heventElements, hevents⟩ := evidenceArray_eq_ok hevents
  constructor
  · rw [readExactRecord_eq_ok hmembers, writtenEventTimes, heventElements]
    dsimp only
    rw [← List.forall₂_eq_eq_eq, List.forall₂_map_left_iff, List.forall₂_map_right_iff]
    exact (hevents.imp fun _ _ h => parseV2Event_eq_ok h).flip
  · intro fact hmem
    obtain ⟨element, helement⟩ := exists_of_evidenceArray hfacts fact hmem
    exact parseV2ShareFact_eq_ok helement

/-! ## What is checked -/

/-- A time that is never before another one where both are known, and needs it to be known. -/
theorem not_any_all_lt_iff {later earlier : Option ℕ} :
    ¬ (later.any fun time => earlier.all (time < ·)) = true ↔
      ∀ time ∈ later, ∃ before ∈ earlier, before ≤ time := by
  cases later with
  | none => simp
  | some time => cases earlier <;> simp

/-- The times of a share stand in order, and none of them is before the dispatch. -/
theorem times_of_requireShareFact {fact : V2ShareFact} (h : requireShareFact fact = .ok ()) :
    fact.times.Pairwise InOrder ∧
      ∀ maybeTime ∈ fact.times, InOrder (some fact.dispatchedAtDeviceUs) maybeTime := by
  simp only [requireShareFact, failIf_bind_eq_ok, failIf_eq_ok, not_any_all_lt_iff] at h
  obtain ⟨-, -, hnonce, hcompleted, -, -, -, hack⟩ := h
  obtain ⟨hnonce, hstarted⟩ := not_or.mp hnonce
  have hstarted : ∀ time ∈ fact.writeStartedAtDeviceUs, fact.nonceAtDeviceUs ≤ time := by
    intro time htime
    rw [Option.mem_def.mp htime] at hstarted
    simpa [isBefore] using hstarted
  have hpairwise : fact.times.Pairwise InOrder := by
    rw [pairwise_inOrder_iff_isChain, V2ShareFact.times]
    -- A time is only known where the one before it is.
    cases hwriteStarted : fact.writeStartedAtDeviceUs with
    | none =>
        have hcompleted : fact.writeCompletedAtDeviceUs = none := by
          simpa [hwriteStarted, Option.eq_none_iff_forall_not_mem] using hcompleted
        have hack : fact.ackAtDeviceUs = none := by
          simpa [hcompleted, Option.eq_none_iff_forall_not_mem] using hack
        simpa [hcompleted, hack] using hnonce
    | some started =>
        have hstarted := hstarted started hwriteStarted
        cases hwriteCompleted : fact.writeCompletedAtDeviceUs with
        | none =>
            have hack : fact.ackAtDeviceUs = none := by
              simpa [hwriteCompleted, Option.eq_none_iff_forall_not_mem] using hack
            simpa [hack, hstarted] using hnonce
        | some completed =>
            have hcompleted : started ≤ completed := by
              simpa [hwriteStarted, hwriteCompleted] using hcompleted
            cases hacknowledged : fact.ackAtDeviceUs with
            | none => simpa [hstarted, hcompleted] using hnonce
            | some acknowledged =>
                have hack : completed ≤ acknowledged := by
                  simpa [hwriteCompleted, hacknowledged] using hack
                simpa [hstarted, hcompleted, hack] using hnonce
  refine ⟨hpairwise, ?_⟩
  intro maybeTime hmem
  cases hmem with
  | head =>
      intro a ha b hb
      cases ha
      cases hb
      exact le_rfl
  | tail _ hmem => exact (List.pairwise_cons.mp hpairwise).1 maybeTime hmem

/-- What a check of neighbours finds of a whole list. -/
theorem any_zip_tail_eq_false_iff {α : Type} {bad : α → α → Bool} {items : List α} :
    ((items.zip items.tail).any fun (previous, item) => bad previous item) = false ↔
      items.IsChain fun previous item => bad previous item = false := by
  induction items with
  | nil => simp
  | cons previous items ih =>
      cases items with
      | nil => simp
      | cons item items =>
          rw [List.isChain_cons_cons, ← ih]
          simp

theorem missequenced_eq_false_iff {previous event : V2Event} :
    missequenced previous event = false ↔
      previous.sequence < event.sequence ∧ InOrder previous.atDeviceUs event.atDeviceUs := by
  cases hprevious : previous.atDeviceUs <;> cases hevent : event.atDeviceUs <;>
    simp [missequenced, isBefore, InOrder, hprevious, hevent]

theorem any_lt_eq_false_iff {maybeTime : Option ℕ} {bound : ℤ} :
    (maybeTime.any fun time => decide ((time : ℤ) < bound)) = false ↔
      NotBefore bound maybeTime := by
  cases maybeTime <;> simp [NotBefore]

/-- The share deadline is armed before any work. -/
theorem armed_of_requireShareDeadline {r : V2DeviceRecord} (h : requireShareDeadline r = .ok ()) :
    (∀ deadline ∈ r.authorityDeadlineDeviceUs,
      (∀ event ∈ r.workEvents, NotBefore ((deadline : ℤ) - 180000000) event.atDeviceUs) ∧
        ∀ fact ∈ r.shareFacts, (deadline : ℤ) - 180000000 ≤ (fact.dispatchedAtDeviceUs : ℤ)) ∧
      (r.authorityDeadlineDeviceUs = none → r.workEvents = [] ∧ r.shareFacts = []) := by
  unfold requireShareDeadline at h
  rw [failIf_bind_eq_ok] at h
  cases hdeadline : r.authorityDeadlineDeviceUs with
  | none =>
      have hnone := h.2
      simp only [hdeadline, failIf_eq_ok, not_or, not_not] at hnone
      constructor
      · intro deadline hmem
        cases hmem
      · intro _
        exact ⟨hnone.1, hnone.2.1⟩
  | some deadline =>
      have hsome := h.2
      simp only [hdeadline, failIf_bind_eq_ok, failIf_eq_ok, not_or, List.any_eq_true, not_exists,
        not_and, Bool.not_eq_true, any_lt_eq_false_iff, decide_eq_false_iff_not, not_lt] at hsome
      obtain ⟨-, -, hfacts, hevents⟩ := hsome
      constructor
      · intro found hmem
        cases hmem
        exact ⟨hevents, hfacts⟩
      · intro hnone
        cases hnone

/-- The checks of a record that say how its parts are ordered. -/
theorem order_of_requireRecordConsistency {r : V2DeviceRecord}
    (h : requireRecordConsistency r = .ok ()) :
    (r.scope = .share → requireShareDeadline r = .ok ()) ∧
      (r.events.IsChain fun previous event => missequenced previous event = false) ∧
      (r.shareFacts.map (·.submissionSequence)).Nodup ∧
      (∀ maybeTime ∈ r.eventTimes, ∀ time ∈ maybeTime,
        r.admittedAtDeviceUs ≤ time ∧ ∀ observedAt ∈ r.observedAtUs, time ≤ observedAt) ∧
      (r.outcome = some .accepted → acceptedMisfit r = false) := by
  simp only [requireRecordConsistency, failIf_bind_eq_ok] at h
  obtain ⟨-, -, -, -, -, h⟩ := h
  obtain ⟨_, hshare, h⟩ := bind_eq_ok.mp h
  simp only [failIf_bind_eq_ok, failIf_eq_ok] at h
  obtain ⟨-, -, hevents, hsets, htimes, haccepted, -⟩ := h
  refine ⟨?share, ?events, ?submissions, ?times, ?accepted⟩
  case share =>
    intro hscope
    rw [hscope] at hshare
    exact hshare
  case events => exact any_zip_tail_eq_false_iff.mp (Bool.not_eq_true _ ▸ hevents)
  case submissions => exact not_not.mp (not_or.mp hsets).2
  case times =>
    intro maybeTime hmem time htime
    cases htime
    have hinside : isBefore (some time) r.admittedAtDeviceUs = false ∧
        (r.observedAtUs.any fun observed => isAbove (some time) observed) = false := by
      rw [← Bool.or_eq_false_iff, ← Bool.not_eq_true]
      exact fun hbad => htimes (List.any_eq_true.mpr ⟨_, hmem, hbad⟩)
    constructor
    · simpa [isBefore] using hinside.1
    · intro observedAt hobserved
      rw [Option.mem_def.mp hobserved] at hinside
      simpa [isAbove] using hinside.2
  case accepted =>
    intro houtcome
    simpa [houtcome] using haccepted

/-- An accepted record is in order exactly when no gap in the times of its events hides a step
back. -/
theorem deviceRecord_chronological_iff {input : JsValue} {r : V2DeviceRecord}
    (h : parseWorkerV2DeviceRecord input = .ok r) :
    Chronological r ↔ GapsInOrder (writtenEventTimes input) := by
  obtain ⟨read, hread, h⟩ := bind_eq_ok.mp h
  obtain ⟨⟨⟩, hconsistent, h⟩ := bind_eq_ok.mp h
  cases pure_eq_ok.mp h
  obtain ⟨hwritten, hfacts⟩ := readV2DeviceRecord_eq_ok hread
  obtain ⟨hshare, hevents, hsubmissions, htimes, haccepted⟩ :=
    order_of_requireRecordConsistency hconsistent
  rw [← hwritten]
  have hneighbours : (r.events.map (·.atDeviceUs)).IsChain InOrder := by
    rw [List.isChain_map]
    exact hevents.imp fun _ _ h => (missequenced_eq_false_iff.mp h).2
  constructor
  · intro hchronological
    exact (pairwise_inOrder_iff.mp hchronological.events).2
  · intro hgaps
    exact {
      sequences := by
        rw [← List.isChain_iff_pairwise]
        exact hevents.imp fun _ _ h => (missequenced_eq_false_iff.mp h).1
      events := pairwise_inOrder_iff.mpr ⟨hneighbours, hgaps⟩
      observed := htimes
      facts := fun fact hmem => (times_of_requireShareFact (hfacts fact hmem)).1
      submissions := hsubmissions
      armed := by
        intro hscope deadline hdeadline
        obtain ⟨hevents, hdispatches⟩ :=
          (armed_of_requireShareDeadline (hshare hscope)).1 deadline hdeadline
        refine ⟨hevents, ?_⟩
        intro fact hmem maybeTime htime time hknown
        have hdispatch := hdispatches fact hmem
        have hlater := (times_of_requireShareFact (hfacts fact hmem)).2 maybeTime htime _ rfl time
          hknown
        omega
      unarmed := fun hscope => (armed_of_requireShareDeadline (hshare hscope)).2
      accepted := by
        intro houtcome
        have haccepted := haccepted houtcome
        simp only [acceptedMisfit, Bool.or_eq_false_iff, Bool.not_eq_false', decide_eq_false_iff_not,
          not_not, Option.isSome_eq_false_iff, Option.isNone_iff_eq_none,
          Option.isNone_eq_false_iff] at haccepted
        obtain ⟨⟨⟨⟨⟨hfirst, hsecondary⟩, hclosed⟩, hquiescent⟩, hfence⟩, hcommitment⟩ := haccepted
        exact ⟨hfirst, hsecondary, hclosed, hquiescent, hfence, hcommitment⟩ }

/-- An event of a sample record. -/
def sampleEvent (sequence : ℕ) (kind : String) (time : JsValue) : JsValue :=
  jsRecord
    [("sequence", jsNatural sequence), ("atDeviceUs", time), ("kind", jsText kind),
      ("channelId", .null), ("jobId", .null), ("submissionSequence", .null),
      ("payloadSha256", .null)]

/-- A share that lost its clock between two events, the second of them at this time. -/
def sampleClockGap (authenticatedAt : ℕ) : JsValue :=
  jsRecord
    [("schema", jsText "worker-v2-serial-evidence-v1"), ("scope", jsText "share"),
      ("attemptId", jsText "AAAAAAAAAAAAAAAAAAAAAA"), ("bootOrdinal", jsNatural 1),
      ("workerGeneration", jsNatural 1), ("serialTransportEpoch", jsNatural 1),
      ("admittedAtDeviceUs", jsNatural 1000), ("authorityDeadlineDeviceUs", .null),
      ("poolSessionGeneration", .null), ("poolTransportEpoch", .null), ("observedAtUs", .null),
      ("observationDeadlineDeviceUs", .null), ("terminalAtDeviceUs", .null),
      ("jobCommitment", .null), ("state", jsText "running"), ("outcome", .null),
      ("events", .array
        [sampleEvent 1 "preparing" (jsNatural 5000), sampleEvent 2 "connected" .null,
          sampleEvent 3 "authenticated" (jsNatural authenticatedAt)]),
      ("timings", .array []), ("shareFacts", .array []),
      ("firstFailure", jsRecord
        [("stage", jsText "connected"), ("category", jsText "clock"), ("atDeviceUs", .null)]),
      ("secondaryFailures", .array []),
      ("resources", jsRecord
        [("socketClosed", .bool false), ("workerQuiescent", .bool false),
          ("fenceRetained", .bool true), ("socketClosedAtUs", .null),
          ("workerQuiescentAtUs", .null)])]

/-- The record of a sample. -/
def sampleClockGapRecord (authenticatedAt : ℕ) : V2DeviceRecord :=
  let event (sequence : ℕ) (kind : V2Stage) (atDeviceUs : Option ℕ) : V2Event :=
    { sequence, atDeviceUs, kind, channelId := none, jobId := none, submissionSequence := none
      payloadSha256 := none }
  { scope := .share, attemptId := "AAAAAAAAAAAAAAAAAAAAAA", bootOrdinal := 1
    workerGeneration := 1, serialTransportEpoch := 1, admittedAtDeviceUs := 1000
    authorityDeadlineDeviceUs := none, poolSessionGeneration := none, poolTransportEpoch := none
    observedAtUs := none, observationDeadlineDeviceUs := none, terminalAtDeviceUs := none
    jobCommitment := none, state := .running, outcome := none
    events := [event 1 .preparing (some 5000), event 2 .connected none,
      event 3 .authenticated (some authenticatedAt)]
    timings := [], shareFacts := [], secondaryFailures := []
    firstFailure := some { stage := .connected, category := .clock, atDeviceUs := none }
    resources :=
      { socketClosed := false, workerQuiescent := false, fenceRetained := true
        socketClosedAtUs := none, workerQuiescentAtUs := none } }

theorem sampleClockGap_chronological :
    parseWorkerV2DeviceRecord (sampleClockGap 6000) = .ok (sampleClockGapRecord 6000) ∧
      (Chronological (sampleClockGapRecord 6000) ↔
        GapsInOrder (writtenEventTimes (sampleClockGap 6000))) := by
  have h : parseWorkerV2DeviceRecord (sampleClockGap 6000) = .ok (sampleClockGapRecord 6000) := by
    decide +kernel
  exact ⟨h, deviceRecord_chronological_iff h⟩

/-- The last event is dated before the first one, and the record is accepted. -/
theorem sampleClockGap_steps_back :
    ∃ r, parseWorkerV2DeviceRecord (sampleClockGap 2000) = .ok r ∧ ¬ Chronological r := by
  refine ⟨sampleClockGapRecord 2000, by decide +kernel, ?_⟩
  intro h
  have hevents := h.events
  revert hevents
  decide +kernel

end WorkGate
