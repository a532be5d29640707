/-
# Acceptances wait for the record

An acceptance of a share is to reach the Worker only after the share was recorded, by
the release of its token.  The session keeps to that as long as the pool answers each
submission once, by a frame that is no notification.  A second acceptance of the same
submission finds nothing outstanding under its id and is passed on at once.
-/

import WorkGate.Stratum.Soundness

namespace WorkGate

open WorkGate.Library
open StratumSession (Effect effect_of_step)

/-- The request a frame reports `result: true` for. -/
def acceptedId (deps : Dependencies) (frame : String) : Option String :=
  match parseObject deps frame with
  | .ok message => if message.reportsTrue then (messageId deps message).toOption else none
  | .error _ => none

/-- A frame sent to the Worker that reports `result: true` for a submission of the session is
released by its token, after the share was handed over to be recorded. -/
def AcknowledgesRecorded (deps : Dependencies) (config : StratumSessionConfig)
    (earlier : Transcript) (entry : StratumEntry) : Prop :=
  ∀ actions frame id, entry.2 = .ok actions → .forwardWorker frame ∈ actions →
    acceptedId deps frame = some id →
      (∃ passed ∈ earlier, Admits deps "mining.submit" id passed) →
        entry.1 = .acceptedPersisted ⟨id⟩ ∧
          ∃ submission event, Once (Persists deps config id frame submission event) earlier

/-- The answer to refused credentials is read back as a refusal. -/
def RefusalsRead (deps : Dependencies) : Prop :=
  ∀ frame message id, received deps frame = some message → messageId deps message = .ok id →
    acceptedId deps (rejectionFrame id) = none

/-- Whether a request is a submission. -/
def OutstandingRequest.isSubmit : OutstandingRequest → Bool
  | .submit _ => true
  | _ => false

/-- A frame of the pool that reports `result: true` for a submission of the session is no
notification and finds the submission outstanding. -/
def AnswersOnce (deps : Dependencies) (history : Transcript) (session : StratumSession) :
    StratumCall → Prop
  | .upstreamFrame frame _ => ∀ message ∈ received deps frame, ∀ id ∈ acceptedId deps frame,
      (∃ passed ∈ history, Admits deps "mining.submit" id passed) →
        messageMethod message = none ∧
          (session.outstandingRequests.lookup id).any OutstandingRequest.isSubmit = true
  | _ => True

instance (deps : Dependencies) (history : Transcript) (session : StratumSession) :
    (call : StratumCall) → Decidable (AnswersOnce deps history session call)
  | .upstreamFrame frame _ =>
      inferInstanceAs (Decidable (∀ message ∈ received deps frame, ∀ id ∈ acceptedId deps frame,
        (∃ passed ∈ history, Admits deps "mining.submit" id passed) →
          messageMethod message = none ∧
            (session.outstandingRequests.lookup id).any OutstandingRequest.isSubmit = true))
  | .workerFrame _ _ => isTrue trivial
  | .acceptedPersisted _ => isTrue trivial
  | .extranonceReserved _ => isTrue trivial
  | .renew _ => isTrue trivial

section

variable {deps : Dependencies} {config : StratumSessionConfig} {history : Transcript}
  {session after : StratumSession} {call : StratumCall} {reply : StratumReply}

theorem acceptedId_eq_some {frame id : String} {message : JsonMap}
    (hread : received deps frame = some message) :
    acceptedId deps frame = some id ↔
      message.reportsTrue = true ∧ messageId deps message = .ok id := by
  rw [acceptedId, (received_eq_some.mp hread).2]
  cases hid : messageId deps message with
  | error fault => simp [hid, Except.toOption]
  | ok found => simp [hid, Except.toOption]

/-- A subscription answer reports an array. -/
theorem acceptedId_of_reserves {token : ExtranonceReservationToken} {extranonce1 frame : String}
    {size : ℕ} {entry : StratumEntry}
    (hreserves : Reserves deps token extranonce1 size frame entry) :
    acceptedId deps frame = none := by
  cases hreserves with
  | @intro now message sessionId hread hextranonce1 hsize =>
      rw [acceptedId, (received_eq_some.mp hread).2]
      cases hresult : message.get "result" with
      | none => simp [JsonMap.reportsTrue, hresult]
      | some result =>
          cases result with
          | bool value => simp [resultAt, hresult, Json.asArray] at hextranonce1
          | _ => simp [JsonMap.reportsTrue, hresult, Json.asBool]

/-- A reply with one frame for the Worker sends that frame. -/
theorem forwarded_eq {frame sent : String} {actions : List StratumProxyAction}
    (hreply : (Except.ok [.forwardWorker sent] : StratumReply) = .ok actions)
    (hforward : .forwardWorker frame ∈ actions) : frame = sent := by
  cases hreply
  simpa using hforward

/-- One call acknowledges only what was recorded, when the pool answers once. -/
theorem acknowledgesRecorded_step (hrefusals : RefusalsRead deps)
    (hexplained : Explained deps config history session)
    (hanswers : AnswersOnce deps history session call)
    (heffect : Effect deps session call after reply) :
    AcknowledgesRecorded deps config history (call, reply) := by
  intro actions frame id hreply hforward haccepted hadmitted
  have hanswered : ∀ {now : ℕ} {message : JsonMap}, call = .upstreamFrame frame now →
      received deps frame = some message → messageMethod message = none ∧
        messageId deps message = .ok id ∧ message.reportsTrue = true ∧
        ∃ submission, session.outstandingRequests.lookup id = some (.submit submission) := by
    intro now message hcall hread
    subst hcall
    obtain ⟨hmethod, houtstanding⟩ := hanswers message hread id haccepted hadmitted
    obtain ⟨htrue, hid⟩ := (acceptedId_eq_some hread).mp haccepted
    obtain ⟨request, hrequest, hsubmit⟩ := (Option.any_eq_true _ _).mp houtstanding
    cases request with
    | submit submission => exact ⟨hmethod, hid, htrue, submission, hrequest⟩
    | _ => cases hsubmit
  have hnotified : ∀ {now : ℕ} {message : JsonMap} {method : String},
      call = .upstreamFrame frame now → received deps frame = some message →
        messageMethod message ≠ some method := by
    intro now message method hcall hread hmethod
    rw [(hanswered hcall hread).1] at hmethod
    cases hmethod
  cases heffect with
  | workerRejects hread hid =>
      obtain rfl := forwarded_eq hreply hforward
      rw [hrefusals _ _ _ hread hid] at haccepted
      cases haccepted
  | notifies hread hmethod =>
      obtain rfl := forwarded_eq hreply hforward
      exact absurd hmethod (hnotified rfl hread)
  | setsDifficulty hread hmethod =>
      obtain rfl := forwarded_eq hreply hforward
      exact absurd hmethod (hnotified rfl hread)
  | announcesJob hread hmethod =>
      obtain rfl := forwarded_eq hreply hforward
      exact absurd hmethod (hnotified rfl hread)
  | unsolicited hread hmethod hid habsent =>
      obtain rfl := forwarded_eq hreply hforward
      obtain ⟨-, hanswer, -, submission, houtstanding⟩ := hanswered rfl hread
      rw [hid, Except.ok.injEq] at hanswer
      subst hanswer
      exact absurd (Rows.mem_of_lookup houtstanding) habsent
  | answers hread hmethod hid hrequest hauthorized hsubmit =>
      obtain rfl := forwarded_eq hreply hforward
      obtain ⟨-, hanswer, htrue, submission, houtstanding⟩ := hanswered rfl hread
      rw [hid, Except.ok.injEq] at hanswer
      subst hanswer
      rw [hrequest, Option.some.injEq] at houtstanding
      rw [hsubmit submission houtstanding] at htrue
      cases htrue
  | releases hawaiting =>
      obtain rfl := forwarded_eq hreply hforward
      obtain ⟨released, submission, event, rfl, honce⟩ :=
        hexplained.awaitingPersistence _ _ hawaiting
      obtain ⟨_, _, _, -, ⟨hread, hid, -, -⟩⟩ := once_iff.mp honce
      rw [acceptedId_eq_some hread, hid, Except.ok.injEq] at haccepted
      obtain ⟨-, rfl⟩ := haccepted
      exact ⟨rfl, submission, event, honce⟩
  | takesExtranonce hawaiting =>
      obtain rfl := forwarded_eq hreply hforward
      obtain ⟨entry, -, hreserves⟩ := hexplained.awaitingExtranonce _ _ hawaiting
      rw [acceptedId_of_reserves hreserves] at haccepted
      cases haccepted
  | _ => cases hreply <;> simp at hforward

/-- Where the pool answers a submission of the session another way, the acceptance is passed
on at once, unless the frame is refused. -/
theorem forwards_at_once {frame id : String} {now : ℕ} {message : JsonMap}
    (heffect : Effect deps session (.upstreamFrame frame now) after reply)
    (hread : received deps frame = some message) (haccepted : acceptedId deps frame = some id)
    (hother : messageMethod message ≠ none ∨
      (session.outstandingRequests.lookup id).any OutstandingRequest.isSubmit = false) :
    reply = .ok [.forwardWorker frame] ∨ ∃ fault, reply = .error fault := by
  obtain ⟨htrue, hid⟩ := (acceptedId_eq_some hread).mp haccepted
  cases heffect with
  | reserves hagain hmethod hanswer hrequest hextranonce1 hsize hrange =>
      have hreserves : Reserves deps ⟨id⟩ _ _ frame (.upstreamFrame frame now,
          .ok [.reserveExtranonce ⟨id⟩ session.config.sessionId _]) :=
        .intro hagain hextranonce1 hsize
      rw [acceptedId_of_reserves hreserves] at haccepted
      cases haccepted
  | persists hagain hmethod hanswer hrequest =>
      rw [hread, Option.some.injEq] at hagain
      subst hagain
      rw [hid, Except.ok.injEq] at hanswer
      subst hanswer
      rcases hother with hnotified | hnone
      · exact absurd hmethod hnotified
      · simp [hrequest, OutstandingRequest.isSubmit] at hnone
  | notifies => exact .inl rfl
  | setsDifficulty => exact .inl rfl
  | announcesJob => exact .inl rfl
  | unsolicited => exact .inl rfl
  | answers => exact .inl rfl
  | _ => exact .inr ⟨_, rfl⟩

end

/-- As long as the pool answers every submission once, by an answer, no acceptance of a share
reaches the Worker but by the release of its token. -/
theorem acceptance_awaitsRecord {deps : Dependencies} {config : StratumSessionConfig}
    {history : Transcript} {session : StratumSession} (hrefusals : RefusalsRead deps)
    (hrun : ((stratumSession deps config).under (AnswersOnce deps)).Run history session) :
    Always (AcknowledgesRecorded deps config) history := by
  refine hrun.always ?_
  intro earlier before call hprior hadmits
  exact acknowledgesRecorded_step hrefusals (explained_of_run hprior.of_under) hadmits.2
    (effect_of_step deps before call)

/-- No sample frame ends as the answer to refused credentials does. -/
theorem sample_refusalsRead : RefusalsRead sampleDependencies := by
  intro frame message id _ _
  have hends : ∀ entry ∈ sampleTexts,
      (asBytes ",\"result\":false,\"error\":null\x7d").isSuffixOf (asBytes entry.1) = false := by
    decide +kernel
  have habsent : sampleDependencies.fromStr (rejectionFrame id) = none := by
    refine List.lookup_eq_none_iff.mpr ?_
    intro entry hentry
    rw [bne_iff_ne]
    intro heq
    have hlast := hends entry hentry
    rw [← heq, rejectionFrame, asBytes_append, Bool.eq_false_iff] at hlast
    exact hlast (List.isSuffixOf_iff_suffix.mpr (List.suffix_append _ _))
  rw [acceptedId, parseObject, habsent]
  rfl

/-- A pool that accepts one submission twice. -/
def acceptedTwiceCalls : List StratumCall :=
  acceptedShareCalls ++ [.upstreamFrame acceptedFrame 17]

/-- The second acceptance reaches the Worker while the first still waits for its record. -/
theorem acceptedTwice_forwards : ¬ ∀ (deps : Dependencies) (config : StratumSessionConfig)
    (history : Transcript) (session : StratumSession), RefusalsRead deps →
      (stratumSession deps config).Run history session →
        Always (AcknowledgesRecorded deps config) history := by
  intro hclaim
  have hfacts : sampleSession.AdmitsAll ([], .start sampleConfig) acceptedTwiceCalls ∧
      (sampleSession.step (sampleSession.replay acceptedShareCalls).2
        (.upstreamFrame acceptedFrame 17)).2 = .ok [.forwardWorker acceptedFrame] ∧
      acceptedId sampleDependencies acceptedFrame = some "4" ∧
      ∃ passed ∈ (sampleSession.replay acceptedShareCalls).1,
        Admits sampleDependencies "mining.submit" "4" passed := by
    decide +kernel
  obtain ⟨hadmits, hreply, haccepted, hadmitted⟩ := hfacts
  have hrun := Machine.run_replay acceptedTwiceCalls hadmits
  have halways := hclaim _ _ _ _ sample_refusalsRead hrun
  rw [acceptedTwiceCalls, Machine.replay_concat, hreply] at halways
  have hlast := always_iff.mp halways [] _ _ rfl _ acceptedFrame "4" rfl List.mem_cons_self
    haccepted hadmitted
  cases hlast.1

/-- A submission accepted once and released after its record. -/
def releasedShareCalls : List StratumCall := acceptedShareCalls ++ [.acceptedPersisted ⟨"4"⟩]

/-- Its acceptance is what the release sends to the Worker. -/
theorem releasedShare_awaitsRecord :
    (sampleSession.replay releasedShareCalls).1.head?.map Prod.snd =
        some (.ok [.forwardWorker acceptedFrame]) ∧
      Always (AcknowledgesRecorded sampleDependencies sampleConfig)
        ((sampleSession.under (AnswersOnce sampleDependencies)).replay releasedShareCalls).1 := by
  have hfacts : (sampleSession.under (AnswersOnce sampleDependencies)).AdmitsAll
        ([], .start sampleConfig) releasedShareCalls ∧
      (sampleSession.replay releasedShareCalls).1.head?.map Prod.snd =
        some (.ok [.forwardWorker acceptedFrame]) := by
    decide +kernel
  have hrun := Machine.run_replay releasedShareCalls hfacts.1
  exact ⟨hfacts.2, acceptance_awaitsRecord sample_refusalsRead hrun⟩

end WorkGate
