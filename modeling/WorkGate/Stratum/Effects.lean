/-
# What a call does to a Stratum session

Every call of the session has one of the effects listed here, each with the guards under
which it happens.  Invariants of whole transcripts go through these cases and never
unfold the session's functions again.
-/

import WorkGate.Library.Results
import WorkGate.Stratum.Session

namespace WorkGate

open WorkGate.Library

/-! ## Peeling results -/

theorem orFault_eq_ok {α : Type} {failure : StratumV1Error} {maybe : Option α} {value : α} :
    orFault failure maybe = .ok value ↔ maybe = some value := by
  cases maybe with
  | none => simp [orFault]
  | some found => simp [orFault]

theorem requireThat_eq_ok {failure : StratumV1Error} {test : Bool} {done : Unit} :
    requireThat failure test = .ok done ↔ test = true := by
  cases test with
  | false => simp [requireThat]
  | true => simp [requireThat]

theorem liftProgress_eq_ok {α : Type} {result : Except ProgressError α} {value : α} :
    liftProgress result = .ok value ↔ result = .ok value := mapError_eq_ok

/-- The object a frame within the bound holds. -/
def received (deps : Dependencies) (frame : String) : Option JsonMap :=
  if (asBytes frame).length ≤ maximumStratumFrameBytes then
    (deps.fromStr frame).bind Json.asObject
  else none

theorem received_eq_some {deps : Dependencies} {frame : String} {message : JsonMap} :
    received deps frame = some message ↔
      (asBytes frame).length ≤ maximumStratumFrameBytes ∧
        parseObject deps frame = .ok message := by
  rw [received, parseObject, orFault_eq_ok]
  split
  · next hsize => simp [hsize]
  · next hsize => simp [hsize]

/-- An element of the result of a response. -/
def resultAt (message : JsonMap) (index : ℕ) : Option Json :=
  ((message.get "result").bind Json.asArray).bind fun result => result[index]?

namespace StratumSession

variable {deps : Dependencies} {session after : StratumSession} {message : JsonMap}

/-! ## Worker frames -/

/-- A submission of `mining.submit` that passed its checks. -/
structure Submits (session : StratumSession) (message : JsonMap) (frame : String)
    (nowUnixMilliseconds : ℕ) (submission : PendingSubmission) : Prop where
  authorized : session.authorized = true
  extranonce1 : session.maybeExtranonce1 = some submission.extranonce1
  extranonce2 : ∃ size, session.maybeExtranonce2Size = some size ∧
    (asBytes submission.extranonce2).length = size * 2
  params : ∃ params jobId, (message.get "params").bind Json.asArray = some params ∧
    params[1]?.bind Json.asStr = some jobId ∧ session.jobs.lookup jobId = some submission.job ∧
    params[2]?.bind Json.asStr = some submission.extranonce2 ∧
    params[3]?.bind Json.asStr = some submission.ntime ∧
    params[4]?.bind Json.asStr = some submission.nonce
  request : submission.request = frame
  target : submission.target = submission.job.assignedTarget
  lease : session.config.leaseContext.advancedByWallClock session.config.issuedAtUnixMilliseconds
    nowUnixMilliseconds = .ok submission.leaseContext

theorem submitVerdict_eq_ok {frame : String} {nowUnixMilliseconds : ℕ} {verdict : WorkerVerdict}
    (h : session.submitVerdict deps message frame nowUnixMilliseconds = .ok verdict) :
    ∃ upstream submission, verdict = .admitted upstream (some (.submit submission)) ∧
      session.Submits message frame nowUnixMilliseconds submission := by
  simp only [submitVerdict, bind_eq_ok, pure_eq_ok, orFault_eq_ok, requireThat_eq_ok,
    mapError_eq_ok, beq_iff_eq] at h
  obtain ⟨_, hauthorized, _, -, extranonce1, hextranonce1, size, hsize, params, hparams, _, -, _,
    -, jobId, hjobId, job, hjob, extranonce2, hextranonce2, _, hlength, ntime, hntime, nonce,
    hnonce, upstream, -, lease, hlease, rfl⟩ := h
  refine ⟨upstream, _, rfl, ?_⟩
  exact {
    authorized := hauthorized
    extranonce1 := hextranonce1
    extranonce2 := ⟨size, hsize, hlength⟩
    params := ⟨params, jobId, hparams, hjobId, hjob, hextranonce2, hntime, hnonce⟩
    request := rfl
    target := rfl
    lease := hlease }

/-- What a retained request has to do with the method that made it. -/
structure MadeBy (session : StratumSession) (message : JsonMap) (frame : String) (now : ℕ)
    (method : String) (request : OutstandingRequest) : Prop where
  submit : method = "mining.submit" → ∃ submission, request = .submit submission ∧
    session.Submits message frame now submission
  other : method ≠ "mining.submit" → ∀ submission, request ≠ .submit submission
  authorize : request = .authorize → method = "mining.authorize"

/-- What a call does to the session, with its reply. -/
inductive Effect (deps : Dependencies) (session : StratumSession) :
    StratumCall → StratumSession → StratumReply → Prop
  /-- A refused Worker frame. -/
  | workerFails {frame : String} {now : ℕ} {fault : StratumFault} :
      Effect deps session (.workerFrame frame now) session (.error fault)
  /-- An authorization under other credentials, answered here. -/
  | workerRejects {frame id : String} {now : ℕ} {message : JsonMap}
      (hread : received deps frame = some message) (hid : messageId deps message = .ok id) :
      Effect deps session (.workerFrame frame now) session
        (.ok [.forwardWorker (rejectionFrame id)])
  /-- A Worker frame without a method, passed on. -/
  | workerPasses {frame : String} {now : ℕ} {message : JsonMap}
      (hread : received deps frame = some message) (hmethod : messageMethod message = none)
      {upstream : String} :
      Effect deps session (.workerFrame frame now) session (.ok [.forwardUpstream upstream])
  /-- A request, passed on and retained. -/
  | workerAdmits {frame method id upstream : String} {now : ℕ} {message : JsonMap}
      {request : OutstandingRequest}
      (hexpiry : now / 1000 < session.config.expiresAtUnixSeconds)
      (hread : received deps frame = some message)
      (hmethod : messageMethod message = some method) (hid : messageId deps message = .ok id)
      (hfresh : id ∉ session.outstandingRequests)
      (hmade : session.MadeBy message frame now method request) :
      Effect deps session (.workerFrame frame now)
        { session with outstandingRequests := session.outstandingRequests.insert id request }
        (.ok [.forwardUpstream upstream])
  /-- An upstream frame the session does not take up. -/
  | upstreamRefused {frame : String} {now : ℕ} {fault : StratumFault}
      (hrefused : ∀ message, received deps frame = some message →
        (messageMethod message = none → ∀ id, messageId deps message ≠ .ok id) ∧
        (messageMethod message = some "mining.notify" → ∀ params,
          notifyParams message = .ok params → fault = .error .expiredCredentials)) :
      Effect deps session (.upstreamFrame frame now) session (.error fault)
  /-- An upstream notification other than a job or a difficulty. -/
  | notifies {frame method : String} {now : ℕ} {message : JsonMap}
      (hread : received deps frame = some message)
      (hmethod : messageMethod message = some method)
      (hnotify : method ≠ "mining.notify") (hdifficulty : method ≠ "mining.set_difficulty") :
      Effect deps session (.upstreamFrame frame now) session (.ok [.forwardWorker frame])
  | setsDifficulty {frame : String} {now : ℕ} {message : JsonMap} {difficulty : Json}
      {target : Bytes 32} (hread : received deps frame = some message)
      (hmethod : messageMethod message = some "mining.set_difficulty")
      (hdifficulty : ((message.get "params").bind Json.asArray).bind (fun params => params[0]?) =
        some difficulty) (htarget : targetForDifficulty difficulty = .ok target) :
      Effect deps session (.upstreamFrame frame now)
        { session with maybeCurrentTarget := some target } (.ok [.forwardWorker frame])
  /-- A job that is refused, after the others were cleared for it. -/
  | jobRefused {frame jobId : String} {now : ℕ} {message : JsonMap} {params : List Json}
      {cleanJobs : Bool} {fault : StratumFault} (hread : received deps frame = some message)
      (hmethod : messageMethod message = some "mining.notify")
      (hparams : notifyParams message = .ok (params, jobId, cleanJobs)) :
      Effect deps session (.upstreamFrame frame now)
        { session with jobs := if cleanJobs then ∅ else session.jobs } (.error fault)
  | announcesJob {frame jobId : String} {now : ℕ} {message : JsonMap} {params : List Json}
      {cleanJobs : Bool} {job : StratumJob} (hread : received deps frame = some message)
      (hmethod : messageMethod message = some "mining.notify")
      (hparams : notifyParams message = .ok (params, jobId, cleanJobs))
      (hjob : session.notifiedJob params = .ok job) :
      Effect deps session (.upstreamFrame frame now)
        { session with jobs := (if cleanJobs then ∅ else session.jobs).insert jobId job }
        (.ok [.forwardWorker frame])
  /-- An answer to nothing that is outstanding. -/
  | unsolicited {frame id : String} {now : ℕ} {message : JsonMap}
      (hread : received deps frame = some message) (hmethod : messageMethod message = none)
      (hid : messageId deps message = .ok id)
      (habsent : id ∉ session.outstandingRequests) :
      Effect deps session (.upstreamFrame frame now) session (.ok [.forwardWorker frame])
  /-- An answer passed on; only an authorization can change more than what is outstanding. -/
  | answers {frame id : String} {now : ℕ} {message : JsonMap} {request : OutstandingRequest}
      {authorized : Bool} (hread : received deps frame = some message)
      (hmethod : messageMethod message = none) (hid : messageId deps message = .ok id)
      (hrequest : session.outstandingRequests.lookup id = some request)
      (hauthorized : authorized = session.authorized ∨
        (request = .authorize ∧ message.reportsTrue = true))
      (hsubmit : ∀ submission, request = .submit submission → message.reportsTrue = false) :
      Effect deps session (.upstreamFrame frame now)
        { session with
          outstandingRequests := session.outstandingRequests.erase id
          authorized } (.ok [.forwardWorker frame])
  /-- An answer that is refused. -/
  | answerRefused {frame id : String} {now : ℕ} {message : JsonMap} {fault : StratumFault}
      (hread : received deps frame = some message) (hmethod : messageMethod message = none)
      (hid : messageId deps message = .ok id) :
      Effect deps session (.upstreamFrame frame now)
        { session with outstandingRequests := session.outstandingRequests.erase id }
        (.error fault)
  | reserves {frame id extranonce1 : String} {now extranonce2Size : ℕ} {message : JsonMap}
      (hread : received deps frame = some message) (hmethod : messageMethod message = none)
      (hid : messageId deps message = .ok id)
      (hrequest : session.outstandingRequests.lookup id = some .subscribe)
      (hextranonce1 : (resultAt message 1).bind Json.asStr = some extranonce1)
      (hsize : (resultAt message 2).bind Json.asU64 = some extranonce2Size)
      (hrange : 1 ≤ extranonce2Size ∧ extranonce2Size ≤ 32) :
      Effect deps session (.upstreamFrame frame now)
        { session with
          outstandingRequests := session.outstandingRequests.erase id
          awaitingExtranonce := session.awaitingExtranonce.insert ⟨id⟩
            ⟨frame, extranonce1, extranonce2Size⟩ }
        (.ok [.reserveExtranonce ⟨id⟩ session.config.sessionId extranonce1])
  | persists {frame id : String} {now : ℕ} {message : JsonMap} {submission : PendingSubmission}
      {event : AcceptedWorkEvent} (hread : received deps frame = some message)
      (hmethod : messageMethod message = none) (hid : messageId deps message = .ok id)
      (hrequest : session.outstandingRequests.lookup id = some (.submit submission))
      (htrue : message.reportsTrue = true)
      (hevent : session.acceptedEvent deps submission now = .ok event) :
      Effect deps session (.upstreamFrame frame now)
        { session with
          outstandingRequests := session.outstandingRequests.erase id
          awaitingPersistence := session.awaitingPersistence.insert ⟨id⟩ frame }
        (.ok [.persistAccepted ⟨id⟩ event submission.leaseContext frame])
  | persistedUnknown {token : AcceptedSubmissionToken}
      (habsent : token ∉ session.awaitingPersistence) :
      Effect deps session (.acceptedPersisted token) session
        (.error (.error .unknownPersistenceToken))
  | releases {token : AcceptedSubmissionToken} {response : String}
      (hawaiting : session.awaitingPersistence.lookup token = some response) :
      Effect deps session (.acceptedPersisted token)
        { session with awaitingPersistence := session.awaitingPersistence.erase token }
        (.ok [.forwardWorker response])
  | reservedUnknown {token : ExtranonceReservationToken}
      (habsent : token ∉ session.awaitingExtranonce) :
      Effect deps session (.extranonceReserved token) session
        (.error (.error .unknownExtranonceToken))
  | takesExtranonce {token : ExtranonceReservationToken} {pending : PendingExtranonce}
      (hawaiting : session.awaitingExtranonce.lookup token = some pending) :
      Effect deps session (.extranonceReserved token)
        { session with
          awaitingExtranonce := session.awaitingExtranonce.erase token
          maybeExtranonce1 := some pending.extranonce1
          maybeExtranonce2Size := some pending.extranonce2Size }
        (.ok [.forwardWorker pending.response])
  | renewRefused {renewed : AuthenticatedStratumSession} {fault : StratumFault} :
      Effect deps session (.renew renewed) session (.error fault)
  | renews {renewed : AuthenticatedStratumSession} {config : StratumSessionConfig}
      (hconfig : renewed.renewConfig session.config = .ok config) :
      Effect deps session (.renew renewed) { session with config } (.ok [])

theorem authorizeVerdict_eq_ok {frame : String} {verdict : WorkerVerdict}
    (h : session.authorizeVerdict deps message frame = .ok verdict) :
    (∃ id, messageId deps message = .ok id ∧ verdict = .rejected (rejectionFrame id)) ∨
      ∃ upstream, verdict = .admitted upstream (some .authorize) := by
  simp only [authorizeVerdict, bind_eq_ok] at h
  obtain ⟨params, -, h⟩ := h
  split at h
  · simp only [bind_eq_ok, pure_eq_ok] at h
    obtain ⟨id, hid, rfl⟩ := h
    exact .inl ⟨id, hid, rfl⟩
  · split at h
    · simp only [bind_eq_ok, pure_eq_ok] at h
      obtain ⟨upstream, -, rfl⟩ := h
      exact .inr ⟨upstream, rfl⟩
    · simp only [pure_eq_ok] at h
      exact .inr ⟨frame, h.symm⟩

/-- Everything a readable Worker frame can ask for. -/
theorem workerVerdict_cases {frame : String} {now : ℕ} {verdict : WorkerVerdict}
    (h : session.workerVerdict deps message frame now = .ok verdict) :
    (messageMethod message = none ∧ ∃ upstream, verdict = .admitted upstream none) ∨
    (∃ id, messageId deps message = .ok id ∧ verdict = .rejected (rejectionFrame id)) ∨
    ∃ method upstream request, messageMethod message = some method ∧
      verdict = .admitted upstream (some request) ∧
      session.MadeBy message frame now method request := by
  rw [workerVerdict] at h
  split at h
  · next hmethod =>
      cases h
      exact .inl ⟨hmethod, frame, rfl⟩
  · next method hmethod =>
      refine .inr ?_
      split at h
      · next heq =>
          cases h
          exact .inr ⟨method, frame, .subscribe, hmethod, rfl, by simp [heq], by simp, by simp⟩
      · split at h
        · next heq =>
            rcases authorizeVerdict_eq_ok h with hrejected | ⟨upstream, rfl⟩
            · exact .inl hrejected
            · exact .inr ⟨method, upstream, .authorize, hmethod, rfl, by simp [heq], by simp,
                fun _ => heq⟩
        · split at h
          · next heq =>
              obtain ⟨upstream, submission, rfl, hsubmits⟩ := submitVerdict_eq_ok h
              exact .inr ⟨method, upstream, .submit submission, hmethod, rfl,
                fun _ => ⟨submission, rfl, hsubmits⟩, fun hne => absurd heq hne, by simp⟩
          · next hne =>
              cases h
              exact .inr ⟨method, frame, .passthrough, hmethod, rfl, fun heq => absurd heq hne,
                by simp, by simp⟩

theorem effect_of_workerFrame (deps : Dependencies) (session : StratumSession) (frame : String)
    (now : ℕ) :
    Effect deps session (.workerFrame frame now) (session.workerFrameAt deps frame now).1
      (session.workerFrameAt deps frame now).2 := by
  simp only [workerFrameAt]
  split
  · exact .workerFails
  · next left actions hadmitted =>
      simp only [admitWorkerFrame, bind_eq_ok, requireUnexpired, requireThat_eq_ok,
        decide_eq_true_eq] at hadmitted
      obtain ⟨_, hexpiry, _, hsize, message, hread, verdict, hverdict, hleft⟩ := hadmitted
      have hread := received_eq_some.mpr ⟨hsize, hread⟩
      rcases workerVerdict_cases hverdict with
        ⟨hmethod, upstream, rfl⟩ | ⟨id, hid, rfl⟩ | ⟨method, upstream, request, hmethod, rfl, hmade⟩
      · simp only [pure_eq_ok, Prod.mk.injEq] at hleft
        obtain ⟨rfl, rfl⟩ := hleft
        exact .workerPasses hread hmethod
      · simp only [pure_eq_ok, Prod.mk.injEq] at hleft
        obtain ⟨rfl, rfl⟩ := hleft
        exact .workerRejects hread hid
      · simp only [retainRequest, bind_eq_ok, requireThat_eq_ok, decide_eq_true_eq, pure_eq_ok,
          Prod.mk.injEq] at hleft
        obtain ⟨retained, ⟨id, hid, _, hfresh, _, -, rfl⟩, rfl, rfl⟩ := hleft
        exact .workerAdmits hexpiry hread hmethod hid hfresh hmade

/-! ## Upstream frames -/

/-- What a refusal has to show, for a frame that was read. -/
theorem notRefusedBy {frame : String} {fault : StratumFault}
    (hread : received deps frame = some message)
    (hanswer : messageMethod message = none → ∀ id, messageId deps message ≠ .ok id)
    (hnotify : messageMethod message = some "mining.notify" → ∀ params,
      notifyParams message = .ok params → fault = .error .expiredCredentials) :
    ∀ other, received deps frame = some other →
      (messageMethod other = none → ∀ id, messageId deps other ≠ .ok id) ∧
      (messageMethod other = some "mining.notify" → ∀ params, notifyParams other = .ok params →
        fault = .error .expiredCredentials) := by
  intro other hother
  rw [hread, Option.some.injEq] at hother
  subst hother
  exact ⟨hanswer, hnotify⟩

theorem effect_of_notify {frame : String} {now : ℕ} (hread : received deps frame = some message)
    (hmethod : messageMethod message = some "mining.notify") :
    Effect deps session (.upstreamFrame frame now) (session.notify message).1
      ((session.notify message).2.map fun _ => [.forwardWorker frame]) := by
  simp only [notify]
  split
  · next fault hfault =>
      exact .upstreamRefused (notRefusedBy hread (by simp [hmethod]) fun _ params => by
        simp [hfault])
  · next params jobId cleanJobs hparams =>
      have hcleared : (if cleanJobs then { session with jobs := ∅ } else session) =
          { session with jobs := if cleanJobs then ∅ else session.jobs } := by
        cases cleanJobs with
        | false => rfl
        | true => rfl
      simp only [hcleared]
      by_cases hfull : jobId ∉ (if cleanJobs then ∅ else session.jobs) ∧
          (if cleanJobs then ∅ else session.jobs).keys.length ≥ maximumRetainedJobs
      · rw [if_pos hfull]
        exact .jobRefused hread hmethod hparams
      · rw [if_neg hfull]
        cases hjob : session.notifiedJob params with
        | error fault =>
            rw [show notifiedJob { session with jobs := if cleanJobs then ∅ else session.jobs }
              params = .error fault from hjob]
            exact .jobRefused hread hmethod hparams
        | ok job =>
            rw [show notifiedJob { session with jobs := if cleanJobs then ∅ else session.jobs }
              params = .ok job from hjob]
            exact .announcesJob hread hmethod hparams hjob

theorem effect_of_setDifficulty {frame : String} {now : ℕ}
    (hread : received deps frame = some message)
    (hmethod : messageMethod message = some "mining.set_difficulty") :
    Effect deps session (.upstreamFrame frame now) (session.setDifficulty message).1
      ((session.setDifficulty message).2.map fun _ => [.forwardWorker frame]) := by
  have hrefused : ∀ {fault : StratumFault}, Effect deps session (.upstreamFrame frame now) session
      (.error fault) := by
    intro fault
    exact .upstreamRefused (notRefusedBy hread (by simp [hmethod]) (by simp [hmethod]))
  simp only [setDifficulty]
  split
  · exact hrefused
  · next difficulty hdifficulty =>
      rw [orFault_eq_ok] at hdifficulty
      split
      · exact hrefused
      · next target htarget => exact .setsDifficulty hread hmethod hdifficulty htarget

theorem effect_of_upstreamResponse {frame : String} {now : ℕ}
    (hread : received deps frame = some message) (hmethod : messageMethod message = none) :
    Effect deps session (.upstreamFrame frame now)
      (session.upstreamResponse deps message frame now).1
      (session.upstreamResponse deps message frame now).2 := by
  simp only [upstreamResponse]
  split
  · next fault hfault =>
      exact .upstreamRefused (notRefusedBy hread (by simp [hfault]) (by simp [hmethod]))
  · next id hid =>
      split
      · next hnone => exact .unsolicited hread hmethod hid (AList.lookup_eq_none.mp hnone)
      · next request hrequest =>
          cases request with
          | subscribe =>
              simp only [subscribeResponse]
              split
              · exact .answers hread hmethod hid hrequest (.inl rfl) (by simp)
              · next extranonce1 hextranonce1 =>
                  split
                  · exact .answerRefused hread hmethod hid
                  · next size hsize =>
                      obtain ⟨hsize, hrange⟩ := Option.filter_eq_some_iff.mp hsize
                      exact .reserves hread hmethod hid hrequest hextranonce1 hsize
                        (of_decide_eq_true hrange)
          | authorize =>
              refine .answers hread hmethod hid hrequest ?_ (by simp)
              cases htrue : message.reportsTrue with
              | false => exact .inl (Bool.or_false _)
              | true => exact .inr ⟨rfl, rfl⟩
          | submit submission =>
              simp only [submitResponse]
              split
              · next hfalse =>
                  refine .answers hread hmethod hid hrequest (.inl rfl) ?_
                  intro _ _
                  simpa using hfalse
              · next htrue =>
                  split
                  · exact .answerRefused hread hmethod hid
                  · next event hevent =>
                      exact .persists hread hmethod hid hrequest (by simpa using htrue) hevent
          | passthrough => exact .answers hread hmethod hid hrequest (.inl rfl) (by simp)

theorem effect_of_upstreamFrame (deps : Dependencies) (session : StratumSession) (frame : String)
    (now : ℕ) :
    Effect deps session (.upstreamFrame frame now) (session.upstreamFrame deps frame now).1
      (session.upstreamFrame deps frame now).2 := by
  simp only [upstreamFrame]
  split
  · next hlarge =>
      refine .upstreamRefused ?_
      intro message hread
      exact absurd (received_eq_some.mp hread).1 (Nat.not_le.mpr hlarge)
  · next hsize =>
    split
    · next fault hfault =>
        refine .upstreamRefused ?_
        intro message hread
        rw [received_eq_some, hfault] at hread
        cases hread.2
    · next message hparsed =>
        have hread := received_eq_some.mpr ⟨Nat.le_of_not_lt hsize, hparsed⟩
        split
        · next method hmethod =>
            simp only [upstreamNotification, requireUnexpired, requireThat]
            by_cases hexpiry : now < session.config.expiresAtUnixSeconds
            · simp only [hexpiry, decide_true, ↓reduceIte]
              split
              · next heq => exact effect_of_setDifficulty hread (heq ▸ hmethod)
              · next hdifficulty =>
                  split
                  · next heq => exact effect_of_notify hread (heq ▸ hmethod)
                  · next hnotify => exact .notifies hread hmethod hnotify hdifficulty
            · simp only [hexpiry, decide_false, Bool.false_eq_true, ↓reduceIte]
              exact .upstreamRefused (notRefusedBy hread (by simp [hmethod]) fun _ _ _ => rfl)
        · next hmethod => exact effect_of_upstreamResponse hread hmethod

/-- Every call has one of the effects above. -/
theorem effect_of_step (deps : Dependencies) (session : StratumSession) (call : StratumCall) :
    Effect deps session call (session.step deps call).1 (session.step deps call).2 := by
  cases call with
  | workerFrame frame now => exact effect_of_workerFrame deps session frame now
  | upstreamFrame frame now => exact effect_of_upstreamFrame deps session frame now
  | acceptedPersisted token =>
      simp only [step, acceptedPersisted]
      split
      · next hnone => exact .persistedUnknown (AList.lookup_eq_none.mp hnone)
      · next response hawaiting => exact .releases hawaiting
  | extranonceReserved token =>
      simp only [step, extranonceReserved]
      split
      · next hnone => exact .reservedUnknown (AList.lookup_eq_none.mp hnone)
      · next pending hawaiting => exact .takesExtranonce hawaiting
  | renew renewed =>
      simp only [step, renew]
      split
      · exact .renewRefused
      · next config hconfig => exact .renews hconfig

end StratumSession

end WorkGate
