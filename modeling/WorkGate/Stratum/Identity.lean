/-
# The identity of an accepted share

An accepted share is named twice.  Its event is named after the Worker's request, and
its fingerprint after the header rebuilt from the job; the outbox takes two events of
one name for replays of each other, and refuses the second where it differs.  A pool that
reuses a job id for other work makes two shares of one name.  As long as a request that is
accepted again is for the work it was for before, its two records are the same.
-/

import WorkGate.Outbox.Safety
import WorkGate.Stratum.Soundness

namespace WorkGate

open WorkGate.Library
open StratumSession (Effect effect_of_step)

/-! ## Shares handed over -/

/-- The parameters of `persist`, as an action hands them over. -/
structure EmittedShare where
  event : AcceptedWorkEvent
  leaseContext : StratumLeaseContext
  workerResponse : String

/-- `persist` of a share. -/
def EmittedShare.persist (deps : Dependencies) (share : EmittedShare)
    (outbox : AcceptedWorkOutbox) :
    AcceptedWorkOutbox × Except StratumV1Error PersistedAcceptedWork :=
  outbox.persist deps share.event share.leaseContext share.workerResponse

/-- The shares a reply hands over to be recorded. -/
def persistedShares : StratumReply → List EmittedShare
  | .ok actions => actions.filterMap fun
      | .persistAccepted _ event leaseContext workerResponse =>
          some ⟨event, leaseContext, workerResponse⟩
      | _ => none
  | .error _ => []

/-- The shares a transcript handed over to be recorded. -/
def emittedShares (history : Transcript) : List EmittedShare :=
  history.flatMap fun entry => persistedShares entry.2

/-- The shares a reply hands over, each with the submission retained under its token. -/
def persistedSubmissions (session : StratumSession) :
    StratumReply → List (PendingSubmission × EmittedShare)
  | .ok actions => actions.filterMap fun
      | .persistAccepted token event leaseContext workerResponse =>
          match session.outstandingRequests.lookup token.text with
          | some (.submit submission) => some (submission, ⟨event, leaseContext, workerResponse⟩)
          | _ => none
      | _ => none
  | .error _ => []

/-- The shares a transcript handed over, each with the submission it was made from. -/
def handedOver (deps : Dependencies) (config : StratumSessionConfig) :
    Transcript → List (PendingSubmission × EmittedShare)
  | [] => []
  | (_, reply) :: earlier =>
      persistedSubmissions ((stratumSession deps config).stateAfter earlier) reply ++
        handedOver deps config earlier

/-! ## Digests -/

/-- What the identity of an event is the digest of. -/
def eventInput (sessionId : WorkSessionId) (submission : PendingSubmission) : List UInt8 :=
  acceptedEventDomain ++ asBytes sessionId.text ++ [0] ++ asBytes submission.request

/-- What a share fingerprint is the digest of. -/
def shareInput (header : Bytes 80) : List UInt8 :=
  asBytes "BWG/0.1 Stratum share fingerprint\x00" ++ header.data

/-- What is digested to name an accepted submission. -/
def identityInputs (deps : Dependencies) (sessionId : WorkSessionId)
    (submission : PendingSubmission) : List (List UInt8) :=
  eventInput sessionId submission ::
    match rebuiltHeader deps submission with
    | .ok header => [shareInput header]
    | .error _ => []

/-- Everything digested to name the accepted submissions of a transcript. -/
def digested (deps : Dependencies) (config : StratumSessionConfig) (history : Transcript) :
    List (List UInt8) :=
  (handedOver deps config history).flatMap fun pair =>
    identityInputs deps config.sessionId pair.1

/-- No two of the inputs collide. -/
def CollisionFree (deps : Dependencies) (inputs : List (List UInt8)) : Prop :=
  ∀ first ∈ inputs, ∀ second ∈ inputs, deps.sha256 first = deps.sha256 second → first = second

instance (deps : Dependencies) (inputs : List (List UInt8)) :
    Decidable (CollisionFree deps inputs) :=
  inferInstanceAs (Decidable (∀ first ∈ inputs, ∀ second ∈ inputs,
    deps.sha256 first = deps.sha256 second → first = second))

/-! ## Soundness of the names -/

/-- Shares of one event have one fingerprint. -/
def OneFingerprint (first second : Transcript) : Prop :=
  ∀ share ∈ emittedShares first, ∀ other ∈ emittedShares second,
    share.event.eventId = other.event.eventId →
      share.event.shareFingerprint = other.event.shareFingerprint

instance (first second : Transcript) : Decidable (OneFingerprint first second) :=
  inferInstanceAs (Decidable (∀ share ∈ emittedShares first, ∀ other ∈ emittedShares second,
    share.event.eventId = other.event.eventId →
      share.event.shareFingerprint = other.event.shareFingerprint))

/-- Once the first share is recorded, in whatever outbox, the second is never refused as a
conflicting replay, whatever the outbox was asked to do in between. -/
def NeverConflicts (deps : Dependencies) (share other : EmittedShare) : Prop :=
  ∀ (outbox : AcceptedWorkOutbox) (stored : PersistedAcceptedWork)
    (requests : List OutboxRequest), (share.persist deps outbox).2 = .ok stored →
      (other.persist deps ((share.persist deps outbox).1.afterAll deps requests)).2 ≠
        .error .conflictingOutboxReplay

/-- Events of one name in the two transcripts are of one share, and are replays of each other
to the outbox. -/
structure IdentitySound (deps : Dependencies) (first second : Transcript) : Prop where
  fingerprints : OneFingerprint first second
  replays : ∀ share ∈ emittedShares first, ∀ other ∈ emittedShares second,
    share.event.eventId = other.event.eventId → NeverConflicts deps share other

/-! ## The work of a submission -/

/-- The coinbase transaction that the pool's job, its extranonce and the Worker's make up. -/
def PendingSubmission.coinbase (submission : PendingSubmission) :
    Except StratumFault (List UInt8) := do
  let coinbaseStart ← decodeHex submission.job.coinbasePrefix
  let extranonce1 ← decodeHex submission.extranonce1
  let extranonce2 ← decodeHex submission.extranonce2
  let coinbaseEnd ← decodeHex submission.job.coinbaseSuffix
  return coinbaseStart ++ extranonce1 ++ extranonce2 ++ coinbaseEnd

/-- The pool announced the same work for two submissions, once its hexadecimal is read. -/
structure SameWork (submission other : PendingSubmission) : Prop where
  coinbase : submission.coinbase = other.coinbase
  merkleBranches : submission.job.merkleBranches.map (decodeFixedHex 32) =
    other.job.merkleBranches.map (decodeFixedHex 32)
  version : decodeFixedHex 4 submission.job.version = decodeFixedHex 4 other.job.version
  previousBlockHash : decodeFixedHex 32 submission.job.previousBlockHash =
    decodeFixedHex 32 other.job.previousBlockHash
  networkBits : decodeFixedHex 4 submission.job.networkBits =
    decodeFixedHex 4 other.job.networkBits
  assignedTarget : submission.job.assignedTarget = other.job.assignedTarget

/-- A request accepted again in the second connection was for the work it was for in the first,
the connections hold one lease, and the pool's answer was the same text. -/
structure AcceptedAlike (config other : StratumSessionConfig)
    (pair repeated : PendingSubmission × EmittedShare) : Prop where
  work : SameWork pair.1 repeated.1
  lease : sameLeaseIdentity config.leaseContext other.leaseContext = true
  answer : pair.2.workerResponse = repeated.2.workerResponse

/-- Every request accepted in both connections was accepted alike. -/
def RepeatsAlike (deps : Dependencies) (config other : StratumSessionConfig)
    (first second : Transcript) : Prop :=
  ∀ pair ∈ handedOver deps config first, ∀ repeated ∈ handedOver deps other second,
    pair.1.request = repeated.1.request → AcceptedAlike config other pair repeated

instance (submission other : PendingSubmission) : Decidable (SameWork submission other) :=
  decidable_of_iff (submission.coinbase = other.coinbase ∧
      submission.job.merkleBranches.map (decodeFixedHex 32) =
        other.job.merkleBranches.map (decodeFixedHex 32) ∧
      decodeFixedHex 4 submission.job.version = decodeFixedHex 4 other.job.version ∧
      decodeFixedHex 32 submission.job.previousBlockHash =
        decodeFixedHex 32 other.job.previousBlockHash ∧
      decodeFixedHex 4 submission.job.networkBits = decodeFixedHex 4 other.job.networkBits ∧
      submission.job.assignedTarget = other.job.assignedTarget)
    ⟨fun ⟨h1, h2, h3, h4, h5, h6⟩ => ⟨h1, h2, h3, h4, h5, h6⟩,
      fun h => ⟨h.1, h.2, h.3, h.4, h.5, h.6⟩⟩

instance (config other : StratumSessionConfig) (pair repeated : PendingSubmission × EmittedShare) :
    Decidable (AcceptedAlike config other pair repeated) :=
  decidable_of_iff (SameWork pair.1 repeated.1 ∧
      sameLeaseIdentity config.leaseContext other.leaseContext = true ∧
      pair.2.workerResponse = repeated.2.workerResponse)
    ⟨fun ⟨h1, h2, h3⟩ => ⟨h1, h2, h3⟩, fun h => ⟨h.1, h.2, h.3⟩⟩

instance (deps : Dependencies) (config other : StratumSessionConfig)
    (first second : Transcript) : Decidable (RepeatsAlike deps config other first second) :=
  inferInstanceAs (Decidable (∀ pair ∈ handedOver deps config first,
    ∀ repeated ∈ handedOver deps other second,
      pair.1.request = repeated.1.request → AcceptedAlike config other pair repeated))

theorem merkleRoot_congr {deps : Dependencies} {branches others : List String}
    (h : branches.map (decodeFixedHex 32) = others.map (decodeFixedHex 32)) (root : Bytes 32) :
    merkleRoot deps root branches = merkleRoot deps root others := by
  induction branches generalizing others root with
  | nil =>
      cases others with
      | nil => rfl
      | cons other others => cases h
  | cons branch branches ih =>
      cases others with
      | nil => cases h
      | cons other others =>
          obtain ⟨hbranch, hbranches⟩ := List.cons.inj h
          simp only [merkleRoot, hbranch, ih hbranches]

theorem classifyNetworkTarget_congr {deps : Dependencies} {networkBits other : String}
    (h : decodeFixedHex 4 networkBits = decodeFixedHex 4 other) (header : Bytes 80) :
    classifyNetworkTarget deps header networkBits = classifyNetworkTarget deps header other := by
  simp only [classifyNetworkTarget, compactTarget, h]

/-- Submissions of one request for the same work stand for one header. -/
theorem SameWork.header_eq {deps : Dependencies} {submission other : PendingSubmission}
    {header otherHeader : Bytes 80} (h : SameWork submission other)
    (hntime : submission.ntime = other.ntime) (hnonce : submission.nonce = other.nonce)
    (hheader : rebuiltHeader deps submission = .ok header)
    (hother : rebuiltHeader deps other = .ok otherHeader) : header = otherHeader := by
  have hcoinbase := h.coinbase
  simp only [rebuiltHeader, submittedHeader, stratumPreviousBlockBytes, bind_eq_ok,
    pure_eq_ok] at hheader hother
  obtain ⟨start, hstart, extranonce1, hextranonce1, extranonce2, hextranonce2, tail, htail, txid,
    htxid, root, hroot, version, hversion, _, ⟨previous, hprevious, rfl⟩, ntime, hntime', bits,
    hbits, nonce, hnonce', hbytes⟩ := hheader
  obtain ⟨start', hstart', extranonce1', hextranonce1', extranonce2', hextranonce2', tail',
    htail', txid', htxid', root', hroot', version', hversion', _, ⟨previous', hprevious', rfl⟩,
    ntime'', hntime'', bits', hbits', nonce'', hnonce'', hbytes'⟩ := hother
  simp only [PendingSubmission.coinbase, hstart, hextranonce1, hextranonce2, htail, hstart',
    hextranonce1', hextranonce2', htail', ok_bind, pure, Except.pure, Except.ok.injEq]
    at hcoinbase
  rw [hcoinbase, htxid', Except.ok.injEq] at htxid
  subst htxid
  rw [merkleRoot_congr h.merkleBranches, hroot', Except.ok.injEq] at hroot
  subst hroot
  rw [h.version, hversion', Except.ok.injEq] at hversion
  subst hversion
  rw [h.previousBlockHash, hprevious', Except.ok.injEq] at hprevious
  subst hprevious
  rw [h.networkBits, hbits', Except.ok.injEq] at hbits
  subst hbits
  rw [hntime, hntime'', Except.ok.injEq] at hntime'
  subst hntime'
  rw [hnonce, hnonce'', Except.ok.injEq] at hnonce'
  subst hnonce'
  rw [hbytes', Except.ok.injEq] at hbytes
  exact hbytes.symm

/-! ## Names of one submission -/

/-- A renewal never changes the lease of a connection. -/
theorem sameLease_configInForce (config : StratumSessionConfig) (history : Transcript) :
    (configInForce config history).leaseContext.leaseId = config.leaseContext.leaseId ∧
      (configInForce config history).leaseContext.continuityId =
        config.leaseContext.continuityId := by
  fun_induction configInForce config history with
  | case1 => exact ⟨rfl, rfl⟩
  | case2 renewed _ earlier config' hrenewed ih =>
      rw [AuthenticatedStratumSession.renewConfig] at hrenewed
      split at hrenewed
      · cases hrenewed
      · next hsame =>
          cases hrenewed
          simp only [not_or, ne_eq, Decidable.not_not] at hsame
          exact ⟨hsame.2.1.trans ih.1, hsame.2.2.1.trans ih.2⟩
  | case3 renewed _ earlier error hrefused ih => exact ih
  | case4 entry earlier _ ih => exact ih

/-- What a retained submission owes to its request and to the connection it arrived on. -/
structure TakenUp (deps : Dependencies) (config : StratumSessionConfig)
    (submission : PendingSubmission) : Prop where
  request : ∃ message params, received deps submission.request = some message ∧
    (message.get "params").bind Json.asArray = some params ∧
    params[3]?.bind Json.asStr = some submission.ntime ∧
    params[4]?.bind Json.asStr = some submission.nonce
  target : submission.target = submission.job.assignedTarget
  lease : submission.leaseContext.leaseId = config.leaseContext.leaseId ∧
    submission.leaseContext.continuityId = config.leaseContext.continuityId

theorem takenUp_of_outstanding {deps : Dependencies} {config : StratumSessionConfig} {id : String}
    {submission : PendingSubmission} {history : Transcript}
    (h : ShareOutstanding deps config id submission history) : TakenUp deps config submission := by
  obtain ⟨between, entry, start, rfl, hsubmits, -⟩ := since_iff.mp h
  cases hsubmits with
  | @intro jobId upstream now size message params hread hmethod hid hparams hjobId hextranonce2
      hntime hnonce hauthorized hexpiry hjob htarget hextranonce hsize hlease =>
      obtain ⟨-, -, hleaseId, hcontinuityId, -⟩ :=
        StratumLeaseContext.advancedByWallClock_eq_ok hlease
      have hsame := sameLease_configInForce config start
      exact {
        request := ⟨message, params, hread, hparams, hntime, hnonce⟩
        target := htarget
        lease := ⟨hleaseId.trans hsame.1, hcontinuityId.trans hsame.2⟩ }

/-- The Worker's part of a header is in its request. -/
theorem TakenUp.same_request {deps : Dependencies} {config other : StratumSessionConfig}
    {submission repeated : PendingSubmission} (h : TakenUp deps config submission)
    (hother : TakenUp deps other repeated) (hrequest : submission.request = repeated.request) :
    submission.ntime = repeated.ntime ∧ submission.nonce = repeated.nonce := by
  obtain ⟨message, params, hread, hparams, hntime, hnonce⟩ := h.request
  obtain ⟨message', params', hread', hparams', hntime', hnonce'⟩ := hother.request
  rw [hrequest, hread', Option.some.injEq] at hread
  subst hread
  rw [hparams', Option.some.injEq] at hparams
  subst hparams
  rw [hntime', Option.some.injEq] at hntime
  rw [hnonce', Option.some.injEq] at hnonce
  exact ⟨hntime.symm, hnonce.symm⟩

/-- A share handed over is the record of its submission. -/
structure RecordOf (deps : Dependencies) (config : StratumSessionConfig)
    (pair : PendingSubmission × EmittedShare) : Prop where
  made : ∃ header, MadeFrom deps config.sessionId pair.1 header pair.2.event
  takenUp : TakenUp deps config pair.1
  lease : pair.2.leaseContext = pair.1.leaseContext

section Pair

variable {deps : Dependencies} {config other : StratumSessionConfig}
  {pair repeated : PendingSubmission × EmittedShare}

/-- Two events of one session have one name only when their requests are one text. -/
theorem request_eq_of_eventId_eq {sessionId : WorkSessionId}
    {submission repeated : PendingSubmission} {header otherHeader : Bytes 80}
    {event otherEvent : AcceptedWorkEvent} (hmade : MadeFrom deps sessionId submission header event)
    (hother : MadeFrom deps sessionId repeated otherHeader otherEvent)
    (hfree : deps.sha256 (eventInput sessionId submission) =
      deps.sha256 (eventInput sessionId repeated) →
        eventInput sessionId submission = eventInput sessionId repeated)
    (h : event.eventId = otherEvent.eventId) : submission.request = repeated.request := by
  have htexts := congrArg OpaqueId.text h
  rw [hmade.eventId, hother.eventId, String.append_right_inj] at htexts
  have hinputs := hfree (Hex.encode_injective htexts)
  exact asBytes_injective (List.append_cancel_left hinputs)

/-- A request accepted alike is recorded alike. -/
theorem RecordOf.same_record (h : RecordOf deps config pair) (hother : RecordOf deps other repeated)
    (hsession : config.sessionId = other.sessionId)
    (hrequest : pair.1.request = repeated.1.request)
    (halike : AcceptedAlike config other pair repeated) :
    sameShareObservation pair.2.event repeated.2.event = true ∧
      sameLeaseIdentity pair.2.leaseContext repeated.2.leaseContext = true := by
  obtain ⟨header, hmade⟩ := h.made
  obtain ⟨otherHeader, hmade'⟩ := hother.made
  obtain ⟨hntime, hnonce⟩ := h.takenUp.same_request hother.takenUp hrequest
  obtain rfl : header = otherHeader :=
    halike.work.header_eq hntime hnonce hmade.rebuilt hmade'.rebuilt
  constructor
  · rw [AcceptedWorkOutbox.sameShareObservation_iff]
    refine ⟨?_, ?_, ?_, ?_⟩
    · rw [hmade.workSessionId, hmade'.workSessionId, hsession]
    · have hbytes : pair.2.event.assignedTarget.bytes = repeated.2.event.assignedTarget.bytes := by
        rw [hmade.assignedTarget, hmade'.assignedTarget, h.takenUp.target, hother.takenUp.target,
          halike.work.assignedTarget]
      exact AssignedTarget.eq_of_bytes hbytes
    · apply OpaqueId.ext
      rw [hmade.shareFingerprint, hmade'.shareFingerprint]
    · have houtcome := hmade.networkTargetOutcome
      rw [classifyNetworkTarget_congr halike.work.networkBits, hmade'.networkTargetOutcome,
        Except.ok.injEq] at houtcome
      exact houtcome.symm
  · obtain ⟨hleaseId, hcontinuityId⟩ := AcceptedWorkOutbox.sameLeaseIdentity_iff.mp halike.lease
    rw [AcceptedWorkOutbox.sameLeaseIdentity_iff, h.lease, hother.lease, h.takenUp.lease.1,
      h.takenUp.lease.2, hother.takenUp.lease.1, hother.takenUp.lease.2]
    exact ⟨hleaseId, hcontinuityId⟩

end Pair

/-! ## Names along runs -/

/-- Every share handed over is the record of the submission retained under its token. -/
structure NamesKept (deps : Dependencies) (config : StratumSessionConfig)
    (history : Transcript) : Prop where
  shares : (handedOver deps config history).map Prod.snd = emittedShares history
  records : ∀ pair ∈ handedOver deps config history, RecordOf deps config pair

theorem namesKept_step {deps : Dependencies} {config : StratumSessionConfig}
    {history : Transcript} {session after : StratumSession} {call : StratumCall}
    {reply : StratumReply} (hrun : (stratumSession deps config).Run history session)
    (heffect : Effect deps session call after reply) (hkept : NamesKept deps config history) :
    NamesKept deps config ((call, reply) :: history) := by
  have hexplained := explained_of_run hrun
  have hquiet : persistedSubmissions session reply = [] → persistedShares reply = [] →
      NamesKept deps config ((call, reply) :: history) := by
    intro hpairs hshares
    have hpairs' : handedOver deps config ((call, reply) :: history) =
        handedOver deps config history := by
      rw [handedOver, hrun.stateAfter_eq, hpairs, List.nil_append]
    have hshares' : emittedShares ((call, reply) :: history) = emittedShares history := by
      rw [emittedShares, List.flatMap_cons, hshares, List.nil_append, emittedShares]
    exact ⟨by rw [hpairs', hshares', hkept.shares], by rw [hpairs']; exact hkept.records⟩
  cases heffect with
  | @persists frame id now message submission event hread hmethod hid hrequest htrue hevent =>
      have hnow : persistedSubmissions session
          (.ok [.persistAccepted ⟨id⟩ event submission.leaseContext frame]) =
            [(submission, ⟨event, submission.leaseContext, frame⟩)] := by
        simp [persistedSubmissions, hrequest]
      constructor
      · rw [handedOver, hrun.stateAfter_eq, hnow, List.map_append, hkept.shares]
        rfl
      · intro pair hpair
        rw [handedOver, hrun.stateAfter_eq, hnow, List.mem_append, List.mem_singleton] at hpair
        rcases hpair with rfl | hpair
        · have hmade := acceptedEvent_eq_ok hevent
          rw [hexplained.inForce, sessionId_configInForce] at hmade
          exact ⟨hmade, takenUp_of_outstanding (hexplained.outstanding _ _ hrequest), rfl⟩
        · exact hkept.records pair hpair
  | _ => exact hquiet rfl rfl

theorem namesKept_of_run {deps : Dependencies} {config : StratumSessionConfig}
    {history : Transcript} {session : StratumSession}
    (hrun : (stratumSession deps config).Run history session) :
    NamesKept deps config history := by
  have hboth : (stratumSession deps config).Run history session ∧
      NamesKept deps config history := by
    refine Machine.Run.invariant
      (P := fun h s => (stratumSession deps config).Run h s ∧ NamesKept deps config h)
      ⟨Machine.Run.start, rfl, by simp [handedOver]⟩ ?_ hrun
    rintro h s call hadmits ⟨hprior, hkept⟩
    exact ⟨hprior.extend call hadmits, namesKept_step hprior (effect_of_step deps s call) hkept⟩
  exact hboth.2

/-- In two connections of one Work Session, or one connection and itself, in which no request was
accepted again for other work, events of one name are of one share. -/
theorem stratumSession_identitySound {deps : Dependencies} {config other : StratumSessionConfig}
    {first second : Transcript} {session otherSession : StratumSession}
    (hfirst : (stratumSession deps config).Run first session)
    (hsecond : (stratumSession deps other).Run second otherSession)
    (hsession : config.sessionId = other.sessionId)
    (hfree : CollisionFree deps (digested deps config first ++ digested deps other second))
    (hrepeats : RepeatsAlike deps config other first second) :
    IdentitySound deps first second := by
  have hkept := namesKept_of_run hfirst
  have hothers := namesKept_of_run hsecond
  have hpair : ∀ pair ∈ handedOver deps config first, ∀ repeated ∈ handedOver deps other second,
      pair.2.event.eventId = repeated.2.event.eventId →
        sameShareObservation pair.2.event repeated.2.event = true ∧
          sameLeaseIdentity pair.2.leaseContext repeated.2.leaseContext = true ∧
          pair.2.workerResponse = repeated.2.workerResponse := by
    intro pair hpair repeated hrepeated heventId
    have hrecord := hkept.records pair hpair
    have hotherRecord := hothers.records repeated hrepeated
    obtain ⟨header, hmade⟩ := hrecord.made
    obtain ⟨otherHeader, hmade'⟩ := hotherRecord.made
    rw [← hsession] at hmade'
    have hrequest : pair.1.request = repeated.1.request := by
      refine request_eq_of_eventId_eq hmade hmade' (hfree _ ?_ _ ?_) heventId
      · exact List.mem_append_left _ (List.mem_flatMap.mpr ⟨pair, hpair, List.mem_cons_self⟩)
      · rw [hsession]
        exact List.mem_append_right _
          (List.mem_flatMap.mpr ⟨repeated, hrepeated, List.mem_cons_self⟩)
    have halike := hrepeats pair hpair repeated hrepeated hrequest
    obtain ⟨hobservation, hlease⟩ := hrecord.same_record hotherRecord hsession hrequest halike
    exact ⟨hobservation, hlease, halike.answer⟩
  constructor
  · rw [OneFingerprint, ← hkept.shares, ← hothers.shares]
    simp only [List.forall_mem_map]
    intro pair hmem repeated hother heventId
    have hobservation := (hpair pair hmem repeated hother heventId).1
    exact (AcceptedWorkOutbox.sameShareObservation_iff.mp hobservation).2.2.1
  · rw [← hkept.shares, ← hothers.shares]
    simp only [List.forall_mem_map]
    intro pair hmem repeated hother heventId outbox stored requests hstored
    obtain ⟨hobservation, hlease, hanswer⟩ := hpair pair hmem repeated hother heventId
    rw [EmittedShare.persist, ← hanswer]
    exact AcceptedWorkOutbox.persist_second_ne_conflicting heventId hobservation hlease hstored
      (AcceptedWorkOutbox.keepsStored_afterAll requests)

/-- A pool that announces its job again under the same id, and a Worker that repeats its
submission for it. -/
def repeatedShareCalls (digit : Char) : List StratumCall :=
  acceptedShareCalls ++ [.acceptedPersisted ⟨"4"⟩] ++ shareCalls digit "00000000"

/-- Announced again with the same contents, the job is the same work. -/
theorem repeatedShare_identitySound :
    (handedOver sampleDependencies sampleConfig
        (sampleSession.replay (repeatedShareCalls '0')).1).map (fun pair => pair.1.request) =
      [submitFrame "00000000", submitFrame "00000000"] ∧
      IdentitySound sampleDependencies (sampleSession.replay (repeatedShareCalls '0')).1
        (sampleSession.replay (repeatedShareCalls '0')).1 := by
  have hfacts : sampleSession.AdmitsAll ([], .start sampleConfig) (repeatedShareCalls '0') ∧
      CollisionFree sampleDependencies
        (digested sampleDependencies sampleConfig
            (sampleSession.replay (repeatedShareCalls '0')).1 ++
          digested sampleDependencies sampleConfig
            (sampleSession.replay (repeatedShareCalls '0')).1) ∧
      RepeatsAlike sampleDependencies sampleConfig sampleConfig
        (sampleSession.replay (repeatedShareCalls '0')).1
        (sampleSession.replay (repeatedShareCalls '0')).1 ∧
      (handedOver sampleDependencies sampleConfig
        (sampleSession.replay (repeatedShareCalls '0')).1).map (fun pair => pair.1.request) =
          [submitFrame "00000000", submitFrame "00000000"] := by
    decide +kernel
  have hrun := Machine.run_replay (repeatedShareCalls '0') hfacts.1
  exact ⟨hfacts.2.2.2,
    stratumSession_identitySound hrun hrun rfl hfacts.2.1 hfacts.2.2.1⟩

/-- Announced again on another block, it is not: the second event has the name of the first and
another share. -/
theorem reusedJob_drifts : ¬ ∀ (deps : Dependencies) (config other : StratumSessionConfig)
    (first second : Transcript) (session otherSession : StratumSession),
    (stratumSession deps config).Run first session →
      (stratumSession deps other).Run second otherSession →
        config.sessionId = other.sessionId →
          CollisionFree deps (digested deps config first ++ digested deps other second) →
            IdentitySound deps first second := by
  intro hclaim
  have hfacts : sampleSession.AdmitsAll ([], .start sampleConfig) (repeatedShareCalls '1') ∧
      CollisionFree sampleDependencies
        (digested sampleDependencies sampleConfig
            (sampleSession.replay (repeatedShareCalls '1')).1 ++
          digested sampleDependencies sampleConfig
            (sampleSession.replay (repeatedShareCalls '1')).1) ∧
      ¬ OneFingerprint (sampleSession.replay (repeatedShareCalls '1')).1
        (sampleSession.replay (repeatedShareCalls '1')).1 := by
    decide +kernel
  have hrun := Machine.run_replay (repeatedShareCalls '1') hfacts.1
  exact hfacts.2.2 (hclaim _ _ _ _ _ _ _ hrun hrun rfl hfacts.2.1).fingerprints

end WorkGate
