/-
# What a Stratum transcript says

The state of a session is a summary of its transcript, and this module says of what.
The events below are read off the calls and their replies alone; the invariant says
for each part of the state which events explain it.  Everything the session promises
about an accepted share is about these events.
-/

import WorkGate.Library.Past
import WorkGate.Stratum.Effects

namespace WorkGate

open WorkGate.Library
open StratumSession (Effect effect_of_step notifyParams)

/-- A call with its reply. -/
abbrev StratumEntry := StratumCall × StratumReply

/-- The calls of a session with their replies, newest first. -/
abbrev Transcript := List StratumEntry

/-! ## Events -/

/-- The session took up a request of the Worker. -/
inductive Admits (deps : Dependencies) (method id : String) : StratumEntry → Prop
  | intro {frame upstream : String} {now : ℕ} {message : JsonMap}
      (hread : received deps frame = some message)
      (hmethod : messageMethod message = some method) (hid : messageId deps message = .ok id) :
      Admits deps method id (.workerFrame frame now, .ok [.forwardUpstream upstream])

/-- Whether an entry took up a request, for transcripts that are at hand. -/
def admitsTest (deps : Dependencies) (method id : String) : StratumEntry → Bool
  | (.workerFrame frame _, .ok [.forwardUpstream _]) =>
      (received deps frame).any fun message =>
        messageMethod message = some method && messageId deps message = .ok id
  | _ => false

theorem admitsTest_iff {deps : Dependencies} {method id : String} {entry : StratumEntry} :
    admitsTest deps method id entry = true ↔ Admits deps method id entry := by
  constructor
  · intro htest
    unfold admitsTest at htest
    split at htest
    · simp only [Option.any_eq_true, Bool.and_eq_true, decide_eq_true_eq] at htest
      obtain ⟨message, hread, hmethod, hid⟩ := htest
      exact .intro hread hmethod hid
    · cases htest
  · rintro ⟨hread, hmethod, hid⟩
    simp [admitsTest, hread, hmethod, hid]

instance (deps : Dependencies) (method id : String) (entry : StratumEntry) :
    Decidable (Admits deps method id entry) :=
  decidable_of_iff _ admitsTest_iff

/-- The pool answered the request under an id. -/
inductive Answers (deps : Dependencies) (id : String) : StratumEntry → Prop
  | intro {frame : String} {now : ℕ} {message : JsonMap} {reply : StratumReply}
      (hread : received deps frame = some message) (hmethod : messageMethod message = none)
      (hid : messageId deps message = .ok id) :
      Answers deps id (.upstreamFrame frame now, reply)

/-- A `mining.authorize` that is still unanswered gets its `result: true`. -/
inductive Authorizes (deps : Dependencies) : Transcript → StratumEntry → Prop
  | intro {earlier : Transcript} {frame id : String} {now : ℕ} {message : JsonMap}
      (hread : received deps frame = some message) (hmethod : messageMethod message = none)
      (hid : messageId deps message = .ok id) (htrue : message.reportsTrue = true)
      (hpending : Since (fun _ => Admits deps "mining.authorize" id) (Answers deps id) earlier) :
      Authorizes deps earlier (.upstreamFrame frame now, .ok [.forwardWorker frame])

/-- The pool set a difficulty. -/
inductive SetsTarget (deps : Dependencies) (target : Bytes 32) : StratumEntry → Prop
  | intro {frame : String} {now : ℕ} {message : JsonMap} {difficulty : Json}
      (hread : received deps frame = some message)
      (hmethod : messageMethod message = some "mining.set_difficulty")
      (hdifficulty : ((message.get "params").bind Json.asArray).bind (fun params => params[0]?) =
        some difficulty)
      (htarget : targetForDifficulty difficulty = .ok target) :
      SetsTarget deps target (.upstreamFrame frame now, .ok [.forwardWorker frame])

/-- The target the last difficulty set. -/
def TargetInForce (deps : Dependencies) (target : Bytes 32) : Transcript → Prop :=
  Since (fun _ => SetsTarget deps target) fun entry => ∃ other, SetsTarget deps other entry

/-- A job with the texts a `mining.notify` gave it. -/
structure JobTexts (params : List Json) (job : StratumJob) : Prop where
  previousBlockHash : params[1]?.bind Json.asStr = some job.previousBlockHash
  coinbasePrefix : params[2]?.bind Json.asStr = some job.coinbasePrefix
  coinbaseSuffix : params[3]?.bind Json.asStr = some job.coinbaseSuffix
  merkleBranches : (params[4]?.bind Json.asArray).bind (fun branches => branches.mapM Json.asStr) =
    some job.merkleBranches
  version : params[5]?.bind Json.asStr = some job.version
  networkBits : params[6]?.bind Json.asStr = some job.networkBits

/-- The pool announced a job, under the target then in force. -/
inductive AnnouncesJob (deps : Dependencies) (jobId : String) (job : StratumJob) :
    Transcript → StratumEntry → Prop
  | intro {earlier : Transcript} {frame : String} {now : ℕ} {message : JsonMap}
      {params : List Json} {cleanJobs : Bool} (hread : received deps frame = some message)
      (hmethod : messageMethod message = some "mining.notify")
      (hparams : notifyParams message = .ok (params, jobId, cleanJobs))
      (htexts : JobTexts params job) (htarget : TargetInForce deps job.assignedTarget earlier) :
      AnnouncesJob deps jobId job earlier (.upstreamFrame frame now, .ok [.forwardWorker frame])

/-- A `mining.notify` ends a job: it clears all jobs, or announces another one under its id.
Past the expiry of the session no notification is taken up. -/
inductive EndsJob (deps : Dependencies) (jobId : String) : StratumEntry → Prop
  | cleared {frame other : String} {now : ℕ} {message : JsonMap} {params : List Json}
      {reply : StratumReply} (hread : received deps frame = some message)
      (hmethod : messageMethod message = some "mining.notify")
      (hparams : notifyParams message = .ok (params, other, true))
      (htaken : reply ≠ .error (.error .expiredCredentials)) :
      EndsJob deps jobId (.upstreamFrame frame now, reply)
  | replaced {frame : String} {now : ℕ} {message : JsonMap} {params : List Json}
      {cleanJobs : Bool} {actions : List StratumProxyAction}
      (hread : received deps frame = some message)
      (hmethod : messageMethod message = some "mining.notify")
      (hparams : notifyParams message = .ok (params, jobId, cleanJobs)) :
      EndsJob deps jobId (.upstreamFrame frame now, .ok actions)

/-- The announcement of a job that no later notification has ended. -/
def JobInForce (deps : Dependencies) (jobId : String) (job : StratumJob) : Transcript → Prop :=
  Since (AnnouncesJob deps jobId job) (EndsJob deps jobId)

/-- The session asked for an extranonce to be reserved. -/
inductive Reserves (deps : Dependencies) (token : ExtranonceReservationToken)
    (extranonce1 : String) (size : ℕ) (frame : String) : StratumEntry → Prop
  | intro {now : ℕ} {message : JsonMap} {sessionId : WorkSessionId}
      (hread : received deps frame = some message)
      (hextranonce1 : (resultAt message 1).bind Json.asStr = some extranonce1)
      (hsize : (resultAt message 2).bind Json.asU64 = some size) :
      Reserves deps token extranonce1 size frame
        (.upstreamFrame frame now, .ok [.reserveExtranonce token sessionId extranonce1])

/-- An extranonce was reserved. -/
inductive TakesExtranonce (deps : Dependencies) (extranonce1 : String) (size : ℕ) :
    Transcript → StratumEntry → Prop
  | intro {earlier : Transcript} {token : ExtranonceReservationToken} {frame : String}
      (hasked : ∃ entry ∈ earlier, Reserves deps token extranonce1 size frame entry) :
      TakesExtranonce deps extranonce1 size earlier
        (.extranonceReserved token, .ok [.forwardWorker frame])

/-- Some extranonce was reserved. -/
inductive ChangesExtranonce : StratumEntry → Prop
  | intro {token : ExtranonceReservationToken} {actions : List StratumProxyAction} :
      ChangesExtranonce (.extranonceReserved token, .ok actions)

/-- The extranonce reserved last. -/
def ExtranonceInForce (deps : Dependencies) (extranonce1 : String) (size : ℕ) :
    Transcript → Prop :=
  Since (TakesExtranonce deps extranonce1 size) ChangesExtranonce

/-- The configuration after the renewals of a transcript. -/
def configInForce (config : StratumSessionConfig) : Transcript → StratumSessionConfig
  | [] => config
  | (.renew renewed, .ok _) :: earlier =>
      match renewed.renewConfig (configInForce config earlier) with
      | .ok renewed => renewed
      | .error _ => configInForce config earlier
  | _ :: earlier => configInForce config earlier

/-- The session took up a submission, with everything it is made of. -/
inductive SubmitsShare (deps : Dependencies) (config : StratumSessionConfig) (id : String)
    (submission : PendingSubmission) : Transcript → StratumEntry → Prop
  | intro {earlier : Transcript} {jobId upstream : String} {now size : ℕ} {message : JsonMap}
      {params : List Json} (hread : received deps submission.request = some message)
      (hmethod : messageMethod message = some "mining.submit")
      (hid : messageId deps message = .ok id)
      (hparams : (message.get "params").bind Json.asArray = some params)
      (hjobId : params[1]?.bind Json.asStr = some jobId)
      (hextranonce2 : params[2]?.bind Json.asStr = some submission.extranonce2)
      (hntime : params[3]?.bind Json.asStr = some submission.ntime)
      (hnonce : params[4]?.bind Json.asStr = some submission.nonce)
      (hauthorized : Once (Authorizes deps) earlier)
      (hexpiry : now / 1000 < (configInForce config earlier).expiresAtUnixSeconds)
      (hjob : JobInForce deps jobId submission.job earlier)
      (htarget : submission.target = submission.job.assignedTarget)
      (hextranonce : ExtranonceInForce deps submission.extranonce1 size earlier)
      (hsize : (asBytes submission.extranonce2).length = size * 2)
      (hlease : (configInForce config earlier).leaseContext.advancedByWallClock
        (configInForce config earlier).issuedAtUnixMilliseconds now =
          .ok submission.leaseContext) :
      SubmitsShare deps config id submission earlier
        (.workerFrame submission.request now, .ok [.forwardUpstream upstream])

/-- A submission the pool has not answered yet. -/
def ShareOutstanding (deps : Dependencies) (config : StratumSessionConfig) (id : String)
    (submission : PendingSubmission) : Transcript → Prop :=
  Since (SubmitsShare deps config id submission) (Answers deps id)

/-- An accepted share was handed over to be recorded. -/
inductive Persists (deps : Dependencies) (config : StratumSessionConfig) (id frame : String)
    (submission : PendingSubmission) (event : AcceptedWorkEvent) :
    Transcript → StratumEntry → Prop
  | intro {earlier : Transcript} {now : ℕ} {message : JsonMap}
      (hread : received deps frame = some message) (hid : messageId deps message = .ok id)
      (htrue : message.reportsTrue = true)
      (hshare : ShareOutstanding deps config id submission earlier) :
      Persists deps config id frame submission event earlier (.upstreamFrame frame now,
        .ok [.persistAccepted ⟨id⟩ event submission.leaseContext frame])

/-- What an outstanding request was when the session took it up. -/
def Requested (deps : Dependencies) (config : StratumSessionConfig) (id : String) :
    OutstandingRequest → Transcript → StratumEntry → Prop
  | .authorize, _, entry => Admits deps "mining.authorize" id entry
  | .submit submission, earlier, entry => SubmitsShare deps config id submission earlier entry
  | .subscribe, _, entry | .passthrough, _, entry => ∃ method, Admits deps method id entry

/-! ## What one call changes -/

section Effects

variable {deps : Dependencies} {session after : StratumSession} {call : StratumCall}
  {reply : StratumReply}

/-- Whether an upstream frame that was read answers an id. -/
theorem answers_iff {frame id : String} {now : ℕ} {message : JsonMap}
    (hread : received deps frame = some message) :
    Answers deps id (.upstreamFrame frame now, reply) ↔
      messageMethod message = none ∧ messageId deps message = .ok id := by
  constructor
  · rintro ⟨hother, hmethod, hid⟩
    rw [hread, Option.some.injEq] at hother
    subst hother
    exact ⟨hmethod, hid⟩
  · rintro ⟨hmethod, hid⟩
    exact .intro hread hmethod hid

/-- A request is outstanding because it was before and is not answered now, or because it
was just taken up. -/
theorem outstanding_effect (heffect : Effect deps session call after reply) {id : String}
    {request : OutstandingRequest}
    (houtstanding : after.outstandingRequests.lookup id = some request) :
    (session.outstandingRequests.lookup id = some request ∧ ¬ Answers deps id (call, reply)) ∨
    ∃ frame now message method upstream, call = .workerFrame frame now ∧
      reply = .ok [.forwardUpstream upstream] ∧
      now / 1000 < session.config.expiresAtUnixSeconds ∧ received deps frame = some message ∧
      messageMethod message = some method ∧ messageId deps message = .ok id ∧
      session.MadeBy message frame now method request := by
  have hanswered : ∀ {frame answered : String} {now : ℕ} {message : JsonMap}
      {reply : StratumReply},
      received deps frame = some message → messageId deps message = .ok answered →
      (session.outstandingRequests.erase answered).lookup id = some request →
      session.outstandingRequests.lookup id = some request ∧
        ¬ Answers deps id (.upstreamFrame frame now, reply) := by
    intro frame answered now message reply hread hid h
    rw [Rows.lookup_erase_eq] at h
    split at h
    · cases h
    · next hne =>
        refine ⟨h, ?_⟩
        rw [answers_iff hread, hid]
        rintro ⟨-, heq⟩
        exact hne (Except.ok.inj heq).symm
  cases heffect with
  | workerAdmits hexpiry hread hmethod hid hfresh hmade =>
      rw [Rows.lookup_insert_eq] at houtstanding
      split at houtstanding
      · next heq =>
          subst heq
          cases houtstanding
          exact .inr ⟨_, _, _, _, _, rfl, rfl, hexpiry, hread, hmethod, hid, hmade⟩
      · exact .inl ⟨houtstanding, nofun⟩
  | upstreamRefused hrefused =>
      refine .inl ⟨houtstanding, ?_⟩
      rintro ⟨hread, hmethod, hid⟩
      exact (hrefused _ hread).1 hmethod _ hid
  | notifies hread hmethod => exact .inl ⟨houtstanding, by simp [answers_iff hread, hmethod]⟩
  | setsDifficulty hread hmethod =>
      exact .inl ⟨houtstanding, by simp [answers_iff hread, hmethod]⟩
  | jobRefused hread hmethod => exact .inl ⟨houtstanding, by simp [answers_iff hread, hmethod]⟩
  | announcesJob hread hmethod => exact .inl ⟨houtstanding, by simp [answers_iff hread, hmethod]⟩
  | unsolicited hread hmethod hid habsent =>
      refine .inl ⟨houtstanding, ?_⟩
      rw [answers_iff hread, hid]
      rintro ⟨-, heq⟩
      cases heq
      exact habsent (Rows.mem_of_lookup houtstanding)
  | answers hread hmethod hid hrequest => exact .inl (hanswered hread hid houtstanding)
  | answerRefused hread hmethod hid => exact .inl (hanswered hread hid houtstanding)
  | reserves hread hmethod hid => exact .inl (hanswered hread hid houtstanding)
  | persists hread hmethod hid => exact .inl (hanswered hread hid houtstanding)
  | _ => exact .inl ⟨houtstanding, nofun⟩

/-- The authorization stands from before, or the answer to one brought it now. -/
theorem authorized_effect (heffect : Effect deps session call after reply)
    (hauthorized : after.authorized = true) :
    session.authorized = true ∨ ∃ frame now message id, call = .upstreamFrame frame now ∧
      reply = .ok [.forwardWorker frame] ∧ received deps frame = some message ∧
      messageMethod message = none ∧ messageId deps message = .ok id ∧
      message.reportsTrue = true ∧
      session.outstandingRequests.lookup id = some .authorize := by
  cases heffect with
  | answers hread hmethod hid hrequest hkept =>
      rcases hkept with rfl | ⟨rfl, htrue⟩
      · exact .inl hauthorized
      · exact .inr ⟨_, _, _, _, rfl, rfl, hread, hmethod, hid, htrue, hrequest⟩
  | _ => exact .inl hauthorized

/-- Only a `mining.set_difficulty` sets a difficulty. -/
theorem not_setsTarget {frame : String} {now : ℕ} {message : JsonMap}
    (hread : received deps frame = some message)
    (hmethod : messageMethod message ≠ some "mining.set_difficulty") :
    ¬ ∃ target, SetsTarget deps target (.upstreamFrame frame now, reply) := by
  rintro ⟨target, hsets⟩
  cases hsets with
  | intro hother hset =>
      rw [hread, Option.some.injEq] at hother
      exact hmethod (hother ▸ hset)

/-- The target stands from before, or a difficulty set it now. -/
theorem target_effect (heffect : Effect deps session call after reply) {target : Bytes 32}
    (htarget : after.maybeCurrentTarget = some target) :
    (session.maybeCurrentTarget = some target ∧
      ¬ ∃ other, SetsTarget deps other (call, reply)) ∨
    SetsTarget deps target (call, reply) := by
  cases heffect with
  | setsDifficulty hread hmethod hdifficulty hset =>
      cases htarget
      exact .inr (.intro hread hmethod hdifficulty hset)
  | notifies hread hmethod _ hother =>
      exact .inl ⟨htarget, not_setsTarget hread (by simpa [hmethod] using hother)⟩
  | announcesJob hread hmethod => exact .inl ⟨htarget, not_setsTarget hread (by simp [hmethod])⟩
  | unsolicited hread hmethod => exact .inl ⟨htarget, not_setsTarget hread (by simp [hmethod])⟩
  | answers hread hmethod => exact .inl ⟨htarget, not_setsTarget hread (by simp [hmethod])⟩
  | _ => exact .inl ⟨htarget, nofun⟩

/-- Whether an upstream frame that was read ends a job. -/
theorem endsJob_params {frame jobId : String} {now : ℕ} {message : JsonMap}
    (hread : received deps frame = some message)
    (hends : EndsJob deps jobId (.upstreamFrame frame now, reply)) :
    messageMethod message = some "mining.notify" ∧
      reply ≠ .error (.error .expiredCredentials) ∧
      ∃ params other cleanJobs, notifyParams message = .ok (params, other, cleanJobs) ∧
        (cleanJobs = true ∨ other = jobId ∧ ∃ actions, reply = .ok actions) := by
  cases hends with
  | cleared hother hmethod hparams htaken =>
      rw [hread, Option.some.injEq] at hother
      subst hother
      exact ⟨hmethod, htaken, _, _, _, hparams, .inl rfl⟩
  | replaced hother hmethod hparams =>
      rw [hread, Option.some.injEq] at hother
      subst hother
      exact ⟨hmethod, nofun, _, _, _, hparams, .inr ⟨rfl, _, rfl⟩⟩

/-- Only a `mining.notify` ends a job. -/
theorem not_endsJob {frame jobId : String} {now : ℕ} {message : JsonMap}
    (hread : received deps frame = some message)
    (hmethod : messageMethod message ≠ some "mining.notify") :
    ¬ EndsJob deps jobId (.upstreamFrame frame now, reply) :=
  fun hends => hmethod (endsJob_params hread hends).1

theorem notifiedJob_eq_ok {params : List Json} {job : StratumJob}
    (h : session.notifiedJob params = .ok job) :
    JobTexts params job ∧ session.maybeCurrentTarget = some job.assignedTarget := by
  simp only [StratumSession.notifiedJob, bind_eq_ok, orFault_eq_ok, pure_eq_ok] at h
  obtain ⟨branches, hbranches, merkleBranches, hmerkle, previous, hprevious, coinbasePrefix,
    hprefix, suffix, hsuffix, version, hversion, bits, hbits, target, htarget, rfl⟩ := h
  refine ⟨?_, htarget⟩
  exact {
    previousBlockHash := hprevious
    coinbasePrefix := hprefix
    coinbaseSuffix := hsuffix
    merkleBranches := by rw [hbranches, Option.bind_some, hmerkle]
    version := hversion
    networkBits := hbits }

/-- A job stands from before and is not ended now, or was just announced. -/
theorem jobs_effect (heffect : Effect deps session call after reply) {jobId : String}
    {job : StratumJob} (hjob : after.jobs.lookup jobId = some job) :
    (session.jobs.lookup jobId = some job ∧ ¬ EndsJob deps jobId (call, reply)) ∨
    ∃ frame now message params cleanJobs, call = .upstreamFrame frame now ∧
      reply = .ok [.forwardWorker frame] ∧ received deps frame = some message ∧
      messageMethod message = some "mining.notify" ∧
      notifyParams message = .ok (params, jobId, cleanJobs) ∧ JobTexts params job ∧
      session.maybeCurrentTarget = some job.assignedTarget := by
  have hkept : ∀ {cleanJobs : Bool}, (if cleanJobs then ∅ else session.jobs).lookup jobId =
      some job → cleanJobs = false ∧ session.jobs.lookup jobId = some job := by
    intro cleanJobs h
    cases cleanJobs with
    | false => exact ⟨rfl, h⟩
    | true => simp at h
  cases heffect with
  | jobRefused hread hmethod hparams =>
      obtain ⟨rfl, hbefore⟩ := hkept hjob
      refine .inl ⟨hbefore, ?_⟩
      intro hends
      obtain ⟨-, -, _, _, _, hother, hcase⟩ := endsJob_params hread hends
      rw [hparams] at hother
      cases hother
      simp at hcase
  | announcesJob hread hmethod hparams hnotified =>
      rw [Rows.lookup_insert_eq] at hjob
      split at hjob
      · next heq =>
          subst heq
          cases hjob
          obtain ⟨htexts, htarget⟩ := notifiedJob_eq_ok hnotified
          exact .inr ⟨_, _, _, _, _, rfl, rfl, hread, hmethod, hparams, htexts, htarget⟩
      · next hne =>
          obtain ⟨rfl, hbefore⟩ := hkept hjob
          refine .inl ⟨hbefore, ?_⟩
          intro hends
          obtain ⟨-, -, _, _, _, hother, hcase⟩ := endsJob_params hread hends
          rw [hparams] at hother
          cases hother
          rcases hcase with hclean | ⟨heq, -⟩
          · cases hclean
          · exact hne heq.symm
  | upstreamRefused hrefused =>
      refine .inl ⟨hjob, ?_⟩
      intro hends
      cases hends with
      | cleared hread hmethod hparams htaken =>
          exact htaken (congrArg Except.error ((hrefused _ hread).2 hmethod _ hparams))
  | notifies hread hmethod hnotify =>
      exact .inl ⟨hjob, not_endsJob hread (by simpa [hmethod] using hnotify)⟩
  | setsDifficulty hread hmethod => exact .inl ⟨hjob, not_endsJob hread (by simp [hmethod])⟩
  | unsolicited hread hmethod => exact .inl ⟨hjob, not_endsJob hread (by simp [hmethod])⟩
  | answers hread hmethod => exact .inl ⟨hjob, not_endsJob hread (by simp [hmethod])⟩
  | answerRefused hread hmethod => exact .inl ⟨hjob, not_endsJob hread (by simp [hmethod])⟩
  | reserves hread hmethod => exact .inl ⟨hjob, not_endsJob hread (by simp [hmethod])⟩
  | persists hread hmethod => exact .inl ⟨hjob, not_endsJob hread (by simp [hmethod])⟩
  | _ => exact .inl ⟨hjob, nofun⟩

/-- The extranonce stands from before, or was reserved now. -/
theorem extranonce_effect (heffect : Effect deps session call after reply) :
    (after.maybeExtranonce1 = session.maybeExtranonce1 ∧
      after.maybeExtranonce2Size = session.maybeExtranonce2Size ∧
      ¬ ChangesExtranonce (call, reply)) ∨
    ∃ token pending, call = .extranonceReserved token ∧
      session.awaitingExtranonce.lookup token = some pending ∧
      reply = .ok [.forwardWorker pending.response] ∧
      after.maybeExtranonce1 = some pending.extranonce1 ∧
      after.maybeExtranonce2Size = some pending.extranonce2Size := by
  cases heffect with
  | takesExtranonce hawaiting => exact .inr ⟨_, _, rfl, hawaiting, rfl, rfl, rfl⟩
  | _ => exact .inl ⟨rfl, rfl, nofun⟩

/-- A subscription waits from before, or its extranonce was just asked for. -/
theorem awaitingExtranonce_effect (heffect : Effect deps session call after reply)
    {token : ExtranonceReservationToken} {pending : PendingExtranonce}
    (hawaiting : after.awaitingExtranonce.lookup token = some pending) :
    session.awaitingExtranonce.lookup token = some pending ∨
      Reserves deps token pending.extranonce1 pending.extranonce2Size pending.response
        (call, reply) := by
  cases heffect with
  | reserves hread hmethod hid hrequest hextranonce1 hsize =>
      rw [Rows.lookup_insert_eq] at hawaiting
      split at hawaiting
      · next heq =>
          subst heq
          cases hawaiting
          exact .inr (.intro hread hextranonce1 hsize)
      · exact .inl hawaiting
  | takesExtranonce =>
      rw [Rows.lookup_erase_eq] at hawaiting
      split at hawaiting
      · cases hawaiting
      · exact .inl hawaiting
  | _ => exact .inl hawaiting

/-- A response waits from before, or its share was just handed over. -/
theorem awaitingPersistence_effect (heffect : Effect deps session call after reply)
    {token : AcceptedSubmissionToken} {response : String}
    (hawaiting : after.awaitingPersistence.lookup token = some response) :
    session.awaitingPersistence.lookup token = some response ∨
    ∃ id now message submission event, token = ⟨id⟩ ∧ call = .upstreamFrame response now ∧
      reply = .ok [.persistAccepted ⟨id⟩ event submission.leaseContext response] ∧
      received deps response = some message ∧ messageId deps message = .ok id ∧
      message.reportsTrue = true ∧
      session.outstandingRequests.lookup id = some (.submit submission) := by
  cases heffect with
  | persists hread hmethod hid hrequest htrue =>
      rw [Rows.lookup_insert_eq] at hawaiting
      split at hawaiting
      · next heq =>
          subst heq
          cases hawaiting
          exact .inr ⟨_, _, _, _, _, rfl, rfl, rfl, hread, hid, htrue, hrequest⟩
      · exact .inl hawaiting
  | releases =>
      rw [Rows.lookup_erase_eq] at hawaiting
      split at hawaiting
      · cases hawaiting
      · exact .inl hawaiting
  | _ => exact .inl hawaiting

end Effects

/-! ## What the state summarizes -/

/-- Every part of the state is explained by the transcript. -/
structure Explained (deps : Dependencies) (config : StratumSessionConfig) (history : Transcript)
    (session : StratumSession) : Prop where
  inForce : session.config = configInForce config history
  outstanding : ∀ id request, session.outstandingRequests.lookup id = some request →
    Since (Requested deps config id request) (Answers deps id) history
  authorized : session.authorized = true → Once (Authorizes deps) history
  target : ∀ target, session.maybeCurrentTarget = some target → TargetInForce deps target history
  jobs : ∀ jobId job, session.jobs.lookup jobId = some job → JobInForce deps jobId job history
  awaitingExtranonce : ∀ token pending, session.awaitingExtranonce.lookup token = some pending →
    ∃ entry ∈ history,
      Reserves deps token pending.extranonce1 pending.extranonce2Size pending.response entry
  extranonce : ∀ extranonce1 size, session.maybeExtranonce1 = some extranonce1 →
    session.maybeExtranonce2Size = some size → ExtranonceInForce deps extranonce1 size history
  awaitingPersistence : ∀ token response,
    session.awaitingPersistence.lookup token = some response →
      ∃ id submission event, token = ⟨id⟩ ∧
        Once (Persists deps config id response submission event) history

section Explained

variable {deps : Dependencies} {config : StratumSessionConfig} {history : Transcript}
  {session after : StratumSession} {call : StratumCall} {reply : StratumReply}

theorem Explained.start (deps : Dependencies) (config : StratumSessionConfig) :
    Explained deps config [] (.start config) where
  inForce := rfl
  outstanding := by simp [StratumSession.start]
  authorized := by simp [StratumSession.start]
  target := by simp [StratumSession.start]
  jobs := by simp [StratumSession.start]
  awaitingExtranonce := by simp [StratumSession.start]
  extranonce := by simp [StratumSession.start]
  awaitingPersistence := by simp [StratumSession.start]

/-- A renewal is the only call that changes the configuration. -/
theorem config_effect (heffect : Effect deps session call after reply)
    (hconfig : session.config = configInForce config history) :
    after.config = configInForce config ((call, reply) :: history) := by
  cases heffect with
  | renews hrenewed =>
      rw [hconfig] at hrenewed
      rw [configInForce, hrenewed]
  | _ => exact hconfig

/-- A request just taken up is explained by the transcript before it. -/
theorem Explained.requested (hexplained : Explained deps config history session) {frame id method
    upstream : String} {now : ℕ} {message : JsonMap} {request : OutstandingRequest}
    (hexpiry : now / 1000 < session.config.expiresAtUnixSeconds)
    (hread : received deps frame = some message) (hmethod : messageMethod message = some method)
    (hid : messageId deps message = .ok id)
    (hmade : session.MadeBy message frame now method request) :
    Requested deps config id request history
      (.workerFrame frame now, .ok [.forwardUpstream upstream]) := by
  cases request with
  | subscribe => exact ⟨method, .intro hread hmethod hid⟩
  | passthrough => exact ⟨method, .intro hread hmethod hid⟩
  | authorize =>
      have hauthorize := hmade.authorize rfl
      exact .intro hread (hauthorize ▸ hmethod) hid
  | submit submission =>
      by_cases hsubmit : method = "mining.submit"
      · obtain ⟨made, hrequest, hsubmits⟩ := hmade.submit hsubmit
        cases hrequest
        obtain ⟨params, jobId, hparams, hjobId, hjob, hextranonce2, hntime, hnonce⟩ :=
          hsubmits.params
        obtain ⟨size, hsize, hlength⟩ := hsubmits.extranonce2
        have hrequest := hsubmits.request
        subst hrequest
        rw [hexplained.inForce] at hexpiry
        have hlease := hsubmits.lease
        rw [hexplained.inForce] at hlease
        exact .intro hread (hsubmit ▸ hmethod) hid hparams hjobId hextranonce2 hntime hnonce
          (hexplained.authorized hsubmits.authorized) hexpiry (hexplained.jobs _ _ hjob)
          hsubmits.target (hexplained.extranonce _ _ hsubmits.extranonce1 hsize) hlength hlease
      · exact absurd rfl (hmade.other hsubmit submission)

/-- One call keeps the state explained. -/
theorem Explained.step (hexplained : Explained deps config history session)
    (heffect : Effect deps session call after reply) :
    Explained deps config ((call, reply) :: history) after where
  inForce := config_effect heffect hexplained.inForce
  outstanding := by
    intro id request houtstanding
    rcases outstanding_effect heffect houtstanding with
      ⟨hbefore, hunanswered⟩ | ⟨frame, now, message, method, upstream, rfl, rfl, hexpiry, hread,
        hmethod, hid, hmade⟩
    · exact (hexplained.outstanding id request hbefore).later hunanswered
    · exact Since.now (hexplained.requested hexpiry hread hmethod hid hmade)
  authorized := by
    intro hauthorized
    rcases authorized_effect heffect hauthorized with
      hbefore | ⟨frame, now, message, id, rfl, rfl, hread, hmethod, hid, htrue, hpending⟩
    · exact (hexplained.authorized hbefore).cons
    · exact Once.now (.intro hread hmethod hid htrue (hexplained.outstanding _ _ hpending))
  target := by
    intro target htarget
    rcases target_effect heffect htarget with ⟨hbefore, hkept⟩ | hset
    · exact (hexplained.target target hbefore).later hkept
    · exact Since.now hset
  jobs := by
    intro jobId job hjob
    rcases jobs_effect heffect hjob with
      ⟨hbefore, hkept⟩ | ⟨frame, now, message, params, cleanJobs, rfl, rfl, hread, hmethod,
        hparams, htexts, htarget⟩
    · exact (hexplained.jobs jobId job hbefore).later hkept
    · exact Since.now (.intro hread hmethod hparams htexts (hexplained.target _ htarget))
  awaitingExtranonce := by
    intro token pending hawaiting
    rcases awaitingExtranonce_effect heffect hawaiting with hbefore | hnow
    · obtain ⟨entry, hentry, hreserves⟩ := hexplained.awaitingExtranonce token pending hbefore
      exact ⟨entry, List.mem_cons_of_mem _ hentry, hreserves⟩
    · exact ⟨_, List.mem_cons_self, hnow⟩
  extranonce := by
    intro extranonce1 size hextranonce1 hsize
    rcases extranonce_effect heffect with
      ⟨hsame1, hsame2, hkept⟩ | ⟨token, pending, rfl, hawaiting, rfl, hafter1, hafter2⟩
    · rw [hsame1] at hextranonce1
      rw [hsame2] at hsize
      exact (hexplained.extranonce _ _ hextranonce1 hsize).later hkept
    · rw [hafter1, Option.some.injEq] at hextranonce1
      rw [hafter2, Option.some.injEq] at hsize
      subst hextranonce1 hsize
      exact Since.now (.intro (hexplained.awaitingExtranonce token pending hawaiting))
  awaitingPersistence := by
    intro token response hawaiting
    rcases awaitingPersistence_effect heffect hawaiting with
      hbefore | ⟨id, now, message, submission, event, rfl, rfl, rfl, hread, hid, htrue, hpending⟩
    · obtain ⟨id, submission, event, rfl, honce⟩ :=
        hexplained.awaitingPersistence token response hbefore
      exact ⟨id, submission, event, rfl, honce.cons⟩
    · exact ⟨id, submission, event, rfl,
        Once.now (.intro hread hid htrue (hexplained.outstanding _ _ hpending))⟩

/-- Along every run the state is explained by the transcript. -/
theorem explained_of_run (hrun : (stratumSession deps config).Run history session) :
    Explained deps config history session := by
  refine Machine.Run.invariant (P := Explained deps config) (.start deps config) ?_ hrun
  intro history session call _ hexplained
  exact hexplained.step (effect_of_step deps session call)

end Explained

end WorkGate
