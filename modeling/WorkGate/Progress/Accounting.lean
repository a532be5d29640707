/-
# The accounting of the progress service

The recorded events of the service form a journal kept by the rules of
`Library.Journal`: accounts are challenges, marks are share fingerprints.  Every
call keeps that, hence every run does, and what one asks of an accountant follows.
-/

import WorkGate.Progress.Service

namespace WorkGate

open WorkGate.Library

namespace ProgressServiceState

/-- One recorded event, as the journal sees it. -/
def journalEntry (eventId : AcceptedWorkEventId) (record : GlobalEventRecord) :
    JournalEntry ChallengeId AcceptedWorkEventId ShareFingerprint where
  account := record.challengeId
  event := eventId
  mark := record.acceptedEvent.event.shareFingerprint
  amount := record.acceptedEvent.event.assignedTarget.creditedWork.value.toNat
  credited := decide (record.acceptedEvent.acknowledgement.disposition = .credited)
  closing := record.acceptedEvent.acknowledgement.issuanceIntentCreated

/-- The recorded events, newest first. -/
def journal (state : ProgressServiceState) :
    List (JournalEntry ChallengeId AcceptedWorkEventId ShareFingerprint) :=
  state.events.entries.map fun entry => journalEntry entry.1 entry.2

/-- A challenge is an account whose goal is its Work Requirement. -/
def goal (state : ProgressServiceState) (challengeId : ChallengeId) : Option ℕ :=
  (state.challenges.lookup challengeId).map fun progress => progress.workRequirement.value.toNat

theorem mem_journal {state : ProgressServiceState}
    {entry : JournalEntry ChallengeId AcceptedWorkEventId ShareFingerprint} :
    entry ∈ state.journal ↔ ∃ eventId record,
      state.events.lookup eventId = some record ∧ journalEntry eventId record = entry := by
  simp only [journal, List.mem_map, Sigma.exists, Rows.mem_entries_iff]

/-- The maps of the service agree with its journal. -/
structure ServiceInvariant (state : ProgressServiceState) : Prop where
  records : ∀ challengeId progress, state.challenges.lookup challengeId = some progress →
    ∀ eventId record, progress.eventRecords.lookup eventId = some record →
      state.events.lookup eventId = some ⟨challengeId, record⟩
  fingerprints : ∀ fingerprint, fingerprint ∈ state.shareFingerprints ↔
    ∃ entry ∈ state.journal, entry.mark = fingerprint
  localFingerprints : ∀ challengeId progress,
    state.challenges.lookup challengeId = some progress →
      ∀ fingerprint ∈ progress.shareFingerprints, fingerprint ∈ state.shareFingerprints
  valid : Journal.Valid state.goal state.journal
  progress_eq : ∀ challengeId progress, state.challenges.lookup challengeId = some progress →
    progress.verifiedProgress.value.toNat = Journal.balance state.journal challengeId
  creditedWork_eq : ∀ eventId record, state.events.lookup eventId = some record →
    record.acceptedEvent.event.eventId = eventId ∧
      record.acceptedEvent.acknowledgement.maybeCreditedWork.map (fun work => work.value.toNat) =
        if record.acceptedEvent.acknowledgement.disposition = .credited then
          some record.acceptedEvent.event.assignedTarget.creditedWork.value.toNat
        else none

theorem serviceInvariant_empty : ServiceInvariant empty where
  records := by
    intro challengeId progress h
    simp [empty] at h
  fingerprints := by
    intro fingerprint
    simp [empty, journal]
  localFingerprints := by
    intro challengeId progress h
    simp [empty] at h
  valid := Journal.Valid.nil
  progress_eq := by
    intro challengeId progress h
    simp [empty] at h
  creditedWork_eq := by
    intro eventId record h
    simp [empty] at h

namespace ServiceInvariant

variable {state next : ProgressServiceState} {challengeId : ChallengeId}

/-- Opening an account leaves the journal alone. -/
theorem registerChallenge {workRequirement : CreditedWork} (hinv : ServiceInvariant state)
    (h : state.registerChallenge challengeId workRequirement = .ok next) :
    ServiceInvariant next := by
  obtain ⟨hfresh, rfl⟩ := registerChallenge_cases h
  have hnew : state.goal challengeId = none := by
    simp [goal, AList.lookup_eq_none.mpr hfresh]
  have hgoal : ∀ account amount, state.goal account = some amount →
      goal { state with
        challenges :=
          state.challenges.insert challengeId (ChallengeProgress.new workRequirement) } account =
        some amount := by
    intro account amount hamount
    have hne : account ≠ challengeId := by
      rintro rfl
      rw [hnew] at hamount
      cases hamount
    simpa [goal, AList.lookup_insert_ne hne] using hamount
  have hlookup : ∀ account progress,
      (state.challenges.insert challengeId (ChallengeProgress.new workRequirement)).lookup account =
        some progress →
      (account = challengeId ∧ progress = ChallengeProgress.new workRequirement) ∨
        state.challenges.lookup account = some progress := by
    intro account progress hprogress
    rw [Rows.lookup_insert_eq] at hprogress
    split at hprogress
    · next heq =>
        cases hprogress
        exact .inl ⟨heq, rfl⟩
    · exact .inr hprogress
  refine ⟨?_, hinv.fingerprints, ?_, hinv.valid.mono hgoal, ?_, hinv.creditedWork_eq⟩
  · intro account progress hprogress eventId record hrecord
    rcases hlookup account progress hprogress with ⟨rfl, rfl⟩ | hold
    · simp [ChallengeProgress.new] at hrecord
    · exact hinv.records account progress hold eventId record hrecord
  · intro account progress hprogress fingerprint hmem
    rcases hlookup account progress hprogress with ⟨rfl, rfl⟩ | hold
    · simp [ChallengeProgress.new] at hmem
    · exact hinv.localFingerprints account progress hold fingerprint hmem
  · intro account progress hprogress
    rcases hlookup account progress hprogress with ⟨rfl, rfl⟩ | hold
    · -- No event was recorded against the new account, for it was not open.
      refine (Journal.balance_eq_zero_of_not_mem ?_).symm
      rintro entry hentry rfl
      obtain ⟨amount, hopen⟩ := hinv.valid.account_open hentry
      rw [hnew] at hopen
      cases hopen
    · exact hinv.progress_eq account progress hold

/-- Sessions are not part of the accounting. -/
theorem registerSession {sessionId : WorkSessionId} (hinv : ServiceInvariant state)
    (h : state.registerSession challengeId sessionId = .ok next) : ServiceInvariant next := by
  obtain ⟨registered, hregistered, rfl⟩ := registerSession_cases h
  -- Every projection is an old one up to its sessions.
  have hlookup : ∀ account progress,
      (state.challenges.updateRow challengeId fun _ => { registered with
        workSessions := insert sessionId registered.workSessions }).lookup account =
          some progress →
      ∃ old, state.challenges.lookup account = some old ∧
        progress.workRequirement = old.workRequirement ∧
        progress.verifiedProgress = old.verifiedProgress ∧
        progress.eventRecords = old.eventRecords ∧
        progress.shareFingerprints = old.shareFingerprints := by
    intro account progress hprogress
    rw [Rows.lookup_updateRow_eq] at hprogress
    split at hprogress
    · next heq =>
        subst heq
        rw [hregistered, Option.map_some, Option.some.injEq] at hprogress
        subst hprogress
        exact ⟨registered, hregistered, rfl, rfl, rfl, rfl⟩
    · exact ⟨progress, hprogress, rfl, rfl, rfl, rfl⟩
  have hgoal : ∀ account amount, state.goal account = some amount →
      ((state.challenges.updateRow challengeId fun _ => { registered with
        workSessions := insert sessionId registered.workSessions }).lookup account).map
          (fun progress => progress.workRequirement.value.toNat) = some amount := by
    intro account amount hamount
    rw [Rows.lookup_updateRow_eq]
    split
    · next heq =>
        subst heq
        simpa [goal, hregistered] using hamount
    · exact hamount
  refine ⟨?_, hinv.fingerprints, ?_, hinv.valid.mono hgoal, ?_, hinv.creditedWork_eq⟩
  · intro account progress hprogress eventId record hrecord
    obtain ⟨old, hold, -, -, hrecords, -⟩ := hlookup account progress hprogress
    exact hinv.records account old hold eventId record (hrecords ▸ hrecord)
  · intro account progress hprogress fingerprint hmem
    obtain ⟨old, hold, -, -, -, hfingerprints⟩ := hlookup account progress hprogress
    exact hinv.localFingerprints account old hold fingerprint (hfingerprints ▸ hmem)
  · intro account progress hprogress
    obtain ⟨old, hold, -, hverified, -, -⟩ := hlookup account progress hprogress
    rw [hverified]
    exact hinv.progress_eq account old hold

section FirstDelivery

variable {event : AcceptedWorkEvent} {progress accepted : ChallengeProgress}
  {acknowledgement : AcceptedWorkAcknowledgement}

/-- A first delivery is not known to the projection either. -/
theorem accepts (hinv : ServiceInvariant state)
    (h : state.Records event challengeId progress accepted next acknowledgement) :
    progress.Accepts event (decide (event.shareFingerprint ∈ state.shareFingerprints)) accepted
      acknowledgement := by
  refine ChallengeProgress.accepts_of_acceptWithGlobalDuplicate ?_ h.accepts
  rw [Option.eq_none_iff_forall_ne_some]
  intro record hrecord
  have hglobal := hinv.records challengeId progress h.challenge event.eventId record hrecord
  exact h.fresh (Rows.mem_of_lookup hglobal)

/-- The flag handed to the transition says exactly that the share is new to the
journal. -/
theorem fresh_iff (hinv : ServiceInvariant state) (event : AcceptedWorkEvent)
    (hchallenge : state.challenges.lookup challengeId = some progress) :
    (!(decide (event.shareFingerprint ∈ state.shareFingerprints) ||
        decide (event.shareFingerprint ∈ progress.shareFingerprints))) = true ↔
      ∀ entry ∈ state.journal, entry.mark ≠ event.shareFingerprint := by
  have hlocal := hinv.localFingerprints challengeId progress hchallenge event.shareFingerprint
  have hglobal := hinv.fingerprints event.shareFingerprint
  rw [Bool.not_eq_true', Bool.or_eq_false_iff, decide_eq_false_iff_not, decide_eq_false_iff_not]
  constructor
  · rintro ⟨hnew, -⟩ entry hentry hmark
    exact hnew (hglobal.mpr ⟨entry, hentry, hmark⟩)
  · intro hnew
    have hnot : event.shareFingerprint ∉ state.shareFingerprints := fun hmem => by
      obtain ⟨entry, hentry, hmark⟩ := hglobal.mp hmem
      exact hnew entry hentry hmark
    exact ⟨hnot, fun hmem => hnot (hlocal hmem)⟩

theorem journal_eq (h : state.Records event challengeId progress accepted next acknowledgement) :
    next.journal =
      journalEntry event.eventId ⟨challengeId, ⟨event, acknowledgement⟩⟩ :: state.journal := by
  rw [journal, h.events_eq, AList.entries_insert_of_notMem h.fresh, List.map_cons]
  rfl

theorem goal_eq (hinv : ServiceInvariant state)
    (h : state.Records event challengeId progress accepted next acknowledgement)
    (account : ChallengeId) : next.goal account = state.goal account := by
  rw [goal, goal, h.challenges_eq, Rows.lookup_updateRow_eq]
  split
  · next heq =>
      subst heq
      rw [h.challenge, (hinv.accepts h).reached_eq]
      rfl
  · rfl

/-- The entry obeys the rules of the journal, and the new total is the balance. -/
theorem valid_records (hinv : ServiceInvariant state)
    (h : state.Records event challengeId progress accepted next acknowledgement) :
    Journal.Valid next.goal next.journal ∧
      acknowledgement.verifiedProgress.value.toNat =
        Journal.balance next.journal challengeId := by
  obtain ⟨-, -, -, transition, hspec, hdisposition, -, hverified, hintent⟩ := hinv.accepts h
  have hopen : next.goal challengeId = some progress.workRequirement.value.toNat := by
    rw [hinv.goal_eq h, goal, h.challenge]
    rfl
  have hprior : Journal.Valid next.goal state.journal :=
    hinv.valid.mono fun account amount hamount => by rw [hinv.goal_eq h, hamount]
  rw [journal_eq h, hverified]
  refine hspec.valid_record hprior hopen (hinv.progress_eq challengeId progress h.challenge) ?_
    (hinv.fresh_iff event h.challenge) rfl (by rw [← hdisposition]; rfl) (by rw [← hintent]; rfl)
  intro entry hentry heq
  obtain ⟨eventId, record, hlookup, rfl⟩ := mem_journal.mp hentry
  have hsame : eventId = event.eventId := heq
  exact h.fresh (hsame ▸ Rows.mem_of_lookup hlookup)

theorem recorded (hinv : ServiceInvariant state)
    (h : state.Records event challengeId progress accepted next acknowledgement) :
    ServiceInvariant next := by
  have haccepts := hinv.accepts h
  have hlookup : ∀ account other, next.challenges.lookup account = some other →
      (account = challengeId ∧ other = accepted) ∨
        (account ≠ challengeId ∧ state.challenges.lookup account = some other) := by
    intro account other hother
    rw [h.challenges_eq, Rows.lookup_updateRow_eq] at hother
    split at hother
    · next heq =>
        subst heq
        rw [h.challenge] at hother
        cases hother
        exact .inl ⟨rfl, rfl⟩
    · next hne => exact .inr ⟨hne, hother⟩
  have hevents : ∀ eventId, next.events.lookup eventId = if eventId = event.eventId then
      some ⟨challengeId, ⟨event, acknowledgement⟩⟩ else state.events.lookup eventId := by
    intro eventId
    rw [h.events_eq, Rows.lookup_insert_eq]
  have hkept : ∀ fingerprint ∈ state.shareFingerprints, fingerprint ∈ next.shareFingerprints := by
    intro fingerprint hmem
    rw [h.fingerprints_eq]
    split
    · exact hmem
    · exact AList.mem_insert _ |>.mpr (.inr hmem)
  have hseen : event.shareFingerprint ∈ next.shareFingerprints := by
    rw [h.fingerprints_eq]
    split
    · assumption
    · exact AList.mem_insert _ |>.mpr (.inl rfl)
  refine ⟨?_, ?_, ?_, (hinv.valid_records h).1, ?_, ?_⟩
  · intro account other hother eventId record hrecord
    rw [hevents]
    rcases hlookup account other hother with ⟨rfl, rfl⟩ | ⟨hne, hold⟩
    · rw [haccepts.reached_eq] at hrecord
      rw [Rows.lookup_insert_eq] at hrecord
      split at hrecord
      · next heq =>
          cases hrecord
          rw [if_pos heq]
      · next hne =>
          rw [if_neg hne]
          exact hinv.records _ progress h.challenge eventId record hrecord
    · have hprior := hinv.records account other hold eventId record hrecord
      have hne' : eventId ≠ event.eventId := by
        rintro rfl
        exact h.fresh (Rows.mem_of_lookup hprior)
      rw [if_neg hne', hprior]
  · intro fingerprint
    have hold := hinv.fingerprints fingerprint
    rw [journal_eq h, List.exists_mem_cons_iff, ← hold]
    constructor
    · intro hmem
      rw [h.fingerprints_eq] at hmem
      split at hmem
      · exact .inr hmem
      · rcases (AList.mem_insert _).mp hmem with heq | hmem
        · exact .inl heq.symm
        · exact .inr hmem
    · rintro (heq | hmem)
      · exact heq ▸ hseen
      · exact hkept fingerprint hmem
  · intro account other hother fingerprint hmem
    rcases hlookup account other hother with ⟨rfl, rfl⟩ | ⟨hne, hold⟩
    · rw [haccepts.reached_eq] at hmem
      rcases Finset.mem_insert.mp hmem with rfl | hmem
      · exact hseen
      · exact hkept _ (hinv.localFingerprints _ progress h.challenge _ hmem)
    · exact hkept _ (hinv.localFingerprints account other hold fingerprint hmem)
  · intro account other hother
    rcases hlookup account other hother with ⟨rfl, rfl⟩ | ⟨hne, hold⟩
    · rw [haccepts.reached_eq]
      exact (hinv.valid_records h).2
    · rw [hinv.progress_eq account other hold, journal_eq h, Journal.balance_cons,
        Journal.contribution, if_neg fun hboth => hne hboth.1.symm, Nat.zero_add]
  · intro eventId record hrecord
    rw [hevents] at hrecord
    split at hrecord
    · next heq =>
        cases hrecord
        obtain ⟨transition, hspec, hdisposition, hcredited, -, -⟩ := haccepts.transition
        exact ⟨heq.symm, by rw [hdisposition, hcredited, hspec.maybeCreditedWork_eq]⟩
    · exact hinv.creditedWork_eq eventId record hrecord

end FirstDelivery

/-- Every call keeps the maps in agreement. -/
theorem step (hinv : ServiceInvariant state) (call : ProgressCall) :
    ServiceInvariant (progressStep state call).1 := by
  cases call with
  | registerChallenge challengeId workRequirement =>
      simp only [progressStep]
      split
      · next reached hreached => exact hinv.registerChallenge hreached
      · exact hinv
  | registerSession challengeId sessionId =>
      simp only [progressStep]
      split
      · next reached hreached => exact hinv.registerSession hreached
      · exact hinv
  | report event =>
      simp only [progressStep]
      split
      · next reached reported hreported =>
          rcases report_cases hreported with hreplay | ⟨challengeId, progress, accepted, hrecords⟩
          · rw [hreplay.unchanged]
            exact hinv
          · exact hinv.recorded hrecords
      · exact hinv

end ServiceInvariant

theorem serviceInvariant_of_run {history : List (ProgressCall × ProgressReply)}
    {state : ProgressServiceState} (hrun : progressService.Run history state) :
    ServiceInvariant state :=
  Machine.Run.invariant (P := fun _ reached => ServiceInvariant reached) serviceInvariant_empty
    (fun _ _ call _ hinv => hinv.step call) hrun

/-! ## What a caller sees -/

/-- The accepted events of a challenge with their acknowledgements, one per event
identity. -/
def acceptedEvents (state : ProgressServiceState) (challengeId : ChallengeId) :
    List AcceptedEventRecord :=
  ((state.events.entries.map fun entry => entry.2).filter
    fun record => record.challengeId = challengeId).map fun record => record.acceptedEvent

/-- The credited work of the events acknowledged as credited, summed exactly. -/
def creditedWorkSum (state : ProgressServiceState) (challengeId : ChallengeId) : ℕ :=
  (((state.acceptedEvents challengeId).filter
    fun record => record.acknowledgement.disposition = .credited).map
      fun record => record.event.assignedTarget.creditedWork.value.toNat).sum

theorem mem_acceptedEvents {state : ProgressServiceState} {challengeId : ChallengeId}
    {record : AcceptedEventRecord} :
    record ∈ state.acceptedEvents challengeId ↔
      ∃ eventId, state.events.lookup eventId = some ⟨challengeId, record⟩ := by
  simp only [acceptedEvents, List.mem_map, List.mem_filter, decide_eq_true_eq, Sigma.exists]
  constructor
  · rintro ⟨global, ⟨⟨eventId, found, hfound, rfl⟩, rfl⟩, rfl⟩
    exact ⟨eventId, Rows.mem_entries_iff.mp hfound⟩
  · rintro ⟨eventId, hlookup⟩
    exact ⟨_, ⟨⟨eventId, _, Rows.mem_entries_iff.mpr hlookup, rfl⟩, rfl⟩, rfl⟩

/-- The sum over the accepted events is the balance of the journal. -/
theorem creditedWorkSum_eq_balance (state : ProgressServiceState) (challengeId : ChallengeId) :
    state.creditedWorkSum challengeId = Journal.balance state.journal challengeId := by
  simp only [creditedWorkSum, acceptedEvents, journal]
  induction state.events.entries with
  | nil => rfl
  | cons entry rest ih =>
      rw [List.map_cons, List.map_cons, Journal.balance_cons, ← ih]
      by_cases haccount : entry.2.challengeId = challengeId
      · by_cases hcredited :
            entry.2.acceptedEvent.acknowledgement.disposition = AcceptedWorkDisposition.credited
        · simp [Journal.contribution, journalEntry, haccount, hcredited]
        · simp [Journal.contribution, journalEntry, haccount, hcredited]
      · simp [Journal.contribution, journalEntry, haccount]

/-- The distinct accepted events have distinct identities. -/
theorem nodup_acceptedEvents {state : ProgressServiceState} (hinv : ServiceInvariant state)
    (challengeId : ChallengeId) :
    ((state.acceptedEvents challengeId).map fun record => record.event.eventId).Nodup := by
  have hids : (state.events.entries.map fun entry => entry.2.acceptedEvent.event.eventId) =
      state.events.entries.keys := by
    refine List.map_congr_left fun entry hentry => ?_
    exact (hinv.creditedWork_eq entry.1 entry.2 (Rows.mem_entries_iff.mp hentry)).1
  have hkeys := state.events.nodupKeys
  rw [List.NodupKeys, ← hids] at hkeys
  refine hkeys.sublist ?_
  simp only [acceptedEvents, List.map_map]
  have hsub : List.Sublist (((state.events.entries.map fun entry => entry.2).filter
      fun record => record.challengeId = challengeId).map
        fun record => record.acceptedEvent.event.eventId)
      ((state.events.entries.map fun entry => entry.2).map
        fun record => record.acceptedEvent.event.eventId) :=
    (List.filter_sublist).map _
  simpa only [List.map_map, Function.comp_def] using hsub

/-- The accepted events are those some report was acknowledged for, each with one
acknowledgement however often it was delivered. -/
def Acknowledged (history : List (ProgressCall × ProgressReply))
    (state : ProgressServiceState) : Prop :=
  ∀ eventId acknowledgement,
    (∃ record, state.events.lookup eventId = some record ∧
      record.acceptedEvent.acknowledgement = acknowledgement) ↔
    ∃ event maybeUpdate, event.eventId = eventId ∧
      (ProgressCall.report event, ProgressReply.acknowledged ⟨acknowledgement, maybeUpdate⟩) ∈
        history

/-- The accounting a caller can check against the replies it got. -/
structure Accounting (history : List (ProgressCall × ProgressReply))
    (state : ProgressServiceState) : Prop where
  acknowledged : Acknowledged history state
  distinct : ∀ challengeId,
    ((state.acceptedEvents challengeId).map fun record => record.event.eventId).Nodup
  progress_eq_sum : ∀ challengeId progress,
    state.challenges.lookup challengeId = some progress →
      progress.verifiedProgress.value.toNat = state.creditedWorkSum challengeId
  credit_eq : ∀ challengeId, ∀ record ∈ state.acceptedEvents challengeId,
    record.acknowledgement.maybeCreditedWork.map (fun work => work.value.toNat) =
      if record.acknowledgement.disposition = .credited then
        some record.event.assignedTarget.creditedWork.value.toNat
      else none
  /-- A fingerprint is credited at most once, whichever challenges the events name. -/
  fingerprint_once : ∀ first second firstId secondId,
    first ∈ state.acceptedEvents firstId → second ∈ state.acceptedEvents secondId →
      first.acknowledgement.disposition = .credited →
      second.acknowledgement.disposition = .credited →
      first.event.shareFingerprint = second.event.shareFingerprint →
      first.event.eventId = second.event.eventId
  satisfied_iff : ∀ challengeId progress,
    state.challenges.lookup challengeId = some progress →
      (progress.isSatisfied = true ↔
        progress.workRequirement.value.toNat ≤ progress.verifiedProgress.value.toNat)
  one_intent : ∀ challengeId progress,
    state.challenges.lookup challengeId = some progress → progress.isSatisfied = true →
      ∃! record, record ∈ state.acceptedEvents challengeId ∧
        record.acknowledgement.issuanceIntentCreated = true
  no_intent : ∀ challengeId progress,
    state.challenges.lookup challengeId = some progress → progress.isSatisfied = false →
      ∀ record ∈ state.acceptedEvents challengeId,
        record.acknowledgement.issuanceIntentCreated = false

/-- Challenges stay registered with their requirement, and their progress only grows. -/
def ProgressGrows (earlier later : ProgressServiceState) : Prop :=
  ∀ challengeId progress, earlier.challenges.lookup challengeId = some progress →
    ∃ grown, later.challenges.lookup challengeId = some grown ∧
      grown.workRequirement = progress.workRequirement ∧
      progress.verifiedProgress.value.toNat ≤ grown.verifiedProgress.value.toNat

section Steps

variable {history : List (ProgressCall × ProgressReply)} {state next : ProgressServiceState}

/-- A reply that acknowledges nothing, with the recorded events untouched, keeps the
correspondence. -/
theorem Acknowledged.silent (hack : Acknowledged history state)
    (hevents : next.events = state.events) {call : ProgressCall} {reply : ProgressReply}
    (hsilent : ∀ reported, reply ≠ .acknowledged reported) :
    Acknowledged ((call, reply) :: history) next := by
  intro eventId acknowledgement
  rw [hevents, hack]
  constructor
  · rintro ⟨event, maybeUpdate, rfl, hmem⟩
    exact ⟨event, maybeUpdate, rfl, List.mem_cons_of_mem _ hmem⟩
  · rintro ⟨event, maybeUpdate, rfl, hmem⟩
    rcases List.mem_cons.mp hmem with heq | hmem
    · exact absurd (congrArg Prod.snd heq).symm (hsilent _)
    · exact ⟨event, maybeUpdate, rfl, hmem⟩

theorem Acknowledged.replays (hack : Acknowledged history state) {event : AcceptedWorkEvent}
    {reported : Reported} (h : state.Replays event next reported) :
    Acknowledged ((.report event, .acknowledged reported) :: history) next := by
  obtain ⟨⟨challengeId, record, hrecord, hsame⟩, rfl⟩ := h
  intro eventId acknowledgement
  constructor
  · intro hold
    obtain ⟨earlier, maybeUpdate, hid, hmem⟩ := (hack eventId acknowledgement).mp hold
    exact ⟨earlier, maybeUpdate, hid, List.mem_cons_of_mem _ hmem⟩
  · rintro ⟨delivered, maybeUpdate, rfl, hmem⟩
    rcases List.mem_cons.mp hmem with heq | hmem
    · obtain ⟨hcall, hreply⟩ := Prod.mk.inj heq
      cases hcall
      cases hreply
      exact ⟨_, hrecord, hsame.symm⟩
    · exact (hack _ acknowledgement).mpr ⟨delivered, maybeUpdate, rfl, hmem⟩

theorem Acknowledged.records (hack : Acknowledged history state) {event : AcceptedWorkEvent}
    {challengeId : ChallengeId} {progress accepted : ChallengeProgress} {reported : Reported}
    (h : state.Records event challengeId progress accepted next reported.acknowledgement) :
    Acknowledged ((.report event, .acknowledged reported) :: history) next := by
  have hevents : ∀ eventId, next.events.lookup eventId = if eventId = event.eventId then
      some ⟨challengeId, ⟨event, reported.acknowledgement⟩⟩
      else state.events.lookup eventId := by
    intro eventId
    rw [h.events_eq, Rows.lookup_insert_eq]
  intro eventId acknowledgement
  rw [hevents]
  by_cases hid : eventId = event.eventId
  · rw [if_pos hid]
    constructor
    · rintro ⟨record, hrecord, rfl⟩
      cases hrecord
      exact ⟨event, reported.maybeUpdate, hid.symm, List.mem_cons_self⟩
    · rintro ⟨delivered, maybeUpdate, hdelivered, hmem⟩
      rcases List.mem_cons.mp hmem with heq | hmem
      · obtain ⟨hcall, hreply⟩ := Prod.mk.inj heq
        cases hcall
        cases hreply
        exact ⟨_, rfl, rfl⟩
      · -- An earlier acknowledgement would have left a record of this identity.
        obtain ⟨record, hrecord, -⟩ :=
          (hack eventId acknowledgement).mpr ⟨delivered, maybeUpdate, hdelivered, hmem⟩
        exact absurd (hid ▸ Rows.mem_of_lookup hrecord) h.fresh
  · rw [if_neg hid, hack]
    constructor
    · rintro ⟨delivered, maybeUpdate, hdelivered, hmem⟩
      exact ⟨delivered, maybeUpdate, hdelivered, List.mem_cons_of_mem _ hmem⟩
    · rintro ⟨delivered, maybeUpdate, hdelivered, hmem⟩
      rcases List.mem_cons.mp hmem with heq | hmem
      · obtain ⟨hcall, hreply⟩ := Prod.mk.inj heq
        cases hcall
        exact absurd hdelivered.symm hid
      · exact ⟨delivered, maybeUpdate, hdelivered, hmem⟩

theorem Acknowledged.step (hack : Acknowledged history state) (call : ProgressCall) :
    Acknowledged ((call, (progressStep state call).2) :: history) (progressStep state call).1 := by
  cases call with
  | registerChallenge challengeId workRequirement =>
      simp only [progressStep]
      split
      · next reached hreached =>
          obtain ⟨-, rfl⟩ := registerChallenge_cases hreached
          exact hack.silent rfl (by simp)
      · exact hack.silent rfl (by simp)
  | registerSession challengeId sessionId =>
      simp only [progressStep]
      split
      · next reached hreached =>
          obtain ⟨progress, -, rfl⟩ := registerSession_cases hreached
          exact hack.silent rfl (by simp)
      · exact hack.silent rfl (by simp)
  | report event =>
      simp only [progressStep]
      split
      · next reached reported hreported =>
          rcases report_cases hreported with hreplay | ⟨challengeId, progress, accepted, hrecords⟩
          · exact hack.replays hreplay
          · exact hack.records hrecords
      · exact hack.silent rfl (by simp)

theorem ProgressGrows.refl (state : ProgressServiceState) : ProgressGrows state state :=
  fun _ progress hprogress => ⟨progress, hprogress, rfl, le_refl _⟩

theorem ProgressGrows.trans {first second third : ProgressServiceState}
    (hfirst : ProgressGrows first second) (hsecond : ProgressGrows second third) :
    ProgressGrows first third := by
  intro challengeId progress hprogress
  obtain ⟨grown, hgrown, hrequirement, hle⟩ := hfirst challengeId progress hprogress
  obtain ⟨last, hlast, hrequirement', hle'⟩ := hsecond challengeId grown hgrown
  exact ⟨last, hlast, hrequirement'.trans hrequirement, hle.trans hle'⟩

/-- No call lowers the progress of any challenge. -/
theorem progressGrows_step (hinv : ServiceInvariant state) (call : ProgressCall) :
    ProgressGrows state (progressStep state call).1 := by
  cases call with
  | registerChallenge challengeId workRequirement =>
      simp only [progressStep]
      split
      · next reached hreached =>
          obtain ⟨hfresh, rfl⟩ := registerChallenge_cases hreached
          intro account progress hprogress
          have hne : account ≠ challengeId := by
            rintro rfl
            exact hfresh (Rows.mem_of_lookup hprogress)
          exact ⟨progress, by rw [AList.lookup_insert_ne hne, hprogress], rfl, le_refl _⟩
      · exact ProgressGrows.refl state
  | registerSession challengeId sessionId =>
      simp only [progressStep]
      split
      · next reached hreached =>
          obtain ⟨registered, hregistered, rfl⟩ := registerSession_cases hreached
          intro account progress hprogress
          by_cases heq : account = challengeId
          · subst heq
            cases hregistered.symm.trans hprogress
            refine ⟨{ registered with
              workSessions := insert sessionId registered.workSessions }, ?_, rfl, le_refl _⟩
            rw [Rows.lookup_updateRow, hprogress]
            rfl
          · exact ⟨progress, by rw [Rows.lookup_updateRow_ne heq, hprogress], rfl, le_refl _⟩
      · exact ProgressGrows.refl state
  | report event =>
      simp only [progressStep]
      split
      · next reached reported hreported =>
          rcases report_cases hreported with hreplay | ⟨challengeId, progress, accepted, hrecords⟩
          · rw [hreplay.unchanged]
            exact ProgressGrows.refl state
          · have haccepts := hinv.accepts hrecords
            obtain ⟨transition, hspec, -, -, hverified, -⟩ := haccepts.transition
            intro account before hbefore
            rw [hrecords.challenges_eq]
            by_cases heq : account = challengeId
            · subst heq
              cases hrecords.challenge.symm.trans hbefore
              refine ⟨accepted, by rw [Rows.lookup_updateRow, hbefore]; rfl, ?_, ?_⟩
              · rw [haccepts.reached_eq]
              · rw [haccepts.reached_eq]
                simp only [hverified, hspec.progress_eq]
                omega
            · exact ⟨before, by rw [Rows.lookup_updateRow_ne heq, hbefore], rfl, le_refl _⟩
      · exact ProgressGrows.refl state

end Steps

section Results

variable {history : List (ProgressCall × ProgressReply)} {state : ProgressServiceState}

theorem mem_journal_of_mem_acceptedEvents (hinv : ServiceInvariant state)
    {challengeId : ChallengeId} {record : AcceptedEventRecord}
    (hrecord : record ∈ state.acceptedEvents challengeId) :
    journalEntry record.event.eventId ⟨challengeId, record⟩ ∈ state.journal := by
  obtain ⟨eventId, hlookup⟩ := mem_acceptedEvents.mp hrecord
  obtain rfl := (hinv.creditedWork_eq eventId _ hlookup).1
  exact mem_journal.mpr ⟨_, _, hlookup, rfl⟩

/-- A challenge is satisfied exactly when one of its accepted events created the
issuance intent. -/
theorem exists_intent_iff (hinv : ServiceInvariant state) {challengeId : ChallengeId}
    {progress : ChallengeProgress}
    (hprogress : state.challenges.lookup challengeId = some progress) :
    (∃ record ∈ state.acceptedEvents challengeId,
      record.acknowledgement.issuanceIntentCreated = true) ↔ progress.isSatisfied = true := by
  have hgoal : state.goal challengeId = some progress.workRequirement.value.toNat := by
    rw [goal, hprogress]
    rfl
  rw [ChallengeProgress.isSatisfied, VerifiedProgress.meets_iff,
    hinv.progress_eq challengeId progress hprogress,
    ← hinv.valid.exists_closing_iff hgoal progress.workRequirement.positive]
  constructor
  · rintro ⟨record, hrecord, hintent⟩
    exact ⟨_, mem_journal_of_mem_acceptedEvents hinv hrecord, rfl, hintent⟩
  · rintro ⟨entry, hentry, haccount, hclosing⟩
    obtain ⟨eventId, ⟨account, record⟩, hlookup, rfl⟩ := mem_journal.mp hentry
    obtain rfl : account = challengeId := haccount
    exact ⟨record, mem_acceptedEvents.mpr ⟨eventId, hlookup⟩, hclosing⟩

theorem accounting_of_run (hrun : progressService.Run history state) :
    Accounting history state := by
  have hinv := serviceInvariant_of_run hrun
  have hack : Acknowledged history state :=
    Machine.Run.invariant (P := Acknowledged)
      (by intro eventId acknowledgement; simp [progressService, empty])
      (fun _ _ call _ hprior => hprior.step call) hrun
  have hsame : ∀ first second firstId secondId, first ∈ state.acceptedEvents firstId →
      second ∈ state.acceptedEvents secondId → first.event.eventId = second.event.eventId →
        first = second := by
    intro first second firstId secondId hfirst hsecond heq
    obtain ⟨firstEvent, hfirstLookup⟩ := mem_acceptedEvents.mp hfirst
    obtain ⟨secondEvent, hsecondLookup⟩ := mem_acceptedEvents.mp hsecond
    rw [(hinv.creditedWork_eq _ _ hfirstLookup).1, (hinv.creditedWork_eq _ _ hsecondLookup).1]
      at heq
    subst heq
    rw [hfirstLookup] at hsecondLookup
    cases hsecondLookup
    rfl
  refine ⟨hack, nodup_acceptedEvents hinv, ?_, ?_, ?_, ?_, ?_, ?_⟩
  · intro challengeId progress hprogress
    rw [creditedWorkSum_eq_balance]
    exact hinv.progress_eq challengeId progress hprogress
  · intro challengeId record hrecord
    obtain ⟨eventId, hlookup⟩ := mem_acceptedEvents.mp hrecord
    exact (hinv.creditedWork_eq eventId _ hlookup).2
  · intro first second firstId secondId hfirst hsecond hcfirst hcsecond hfingerprint
    have heq := hinv.valid.eq_of_credited_of_mark_eq
      (mem_journal_of_mem_acceptedEvents hinv hfirst)
      (mem_journal_of_mem_acceptedEvents hinv hsecond)
      (by simpa [journalEntry] using hcfirst) (by simpa [journalEntry] using hcsecond) hfingerprint
    exact congrArg JournalEntry.event heq
  · intro challengeId progress _
    exact VerifiedProgress.meets_iff _ _
  · intro challengeId progress hprogress hsatisfied
    obtain ⟨record, hrecord, hintent⟩ := (exists_intent_iff hinv hprogress).mpr hsatisfied
    refine ⟨record, ⟨hrecord, hintent⟩, ?_⟩
    rintro other ⟨hother, hotherIntent⟩
    have heq := hinv.valid.eq_of_closing
      (mem_journal_of_mem_acceptedEvents hinv hother)
      (mem_journal_of_mem_acceptedEvents hinv hrecord) hotherIntent hintent rfl
    exact hsame _ _ _ _ hother hrecord (congrArg JournalEntry.event heq)
  · intro challengeId progress hprogress hsatisfied record hrecord
    by_contra hintent
    rw [Bool.not_eq_false] at hintent
    have hreached := (exists_intent_iff hinv hprogress).mp ⟨record, hrecord, hintent⟩
    rw [hsatisfied] at hreached
    cases hreached

theorem progressGrows_of_continues (hrun : progressService.Run history state)
    {later : List (ProgressCall × ProgressReply)} {reached : ProgressServiceState}
    (hcontinues : progressService.Continues history state later reached) :
    ProgressGrows state reached := by
  have hboth : progressService.Run later reached ∧ ProgressGrows state reached := by
    refine Machine.Continues.preserves
      (P := fun h s => progressService.Run h s ∧ ProgressGrows state s) ?_ hcontinues
      ⟨hrun, ProgressGrows.refl state⟩
    rintro h s call hadmits ⟨hprior, hgrows⟩
    exact ⟨hprior.extend call hadmits,
      hgrows.trans (progressGrows_step (serviceInvariant_of_run hprior) call)⟩
  exact hboth.2

end Results

end ProgressServiceState

/-- Along every run of the service, in every state reached, the totals, the
fingerprints and the issuance intents of all challenges are accounted for, and no
progress is ever taken back. -/
theorem progressService_accounting {history : List (ProgressCall × ProgressReply)}
    {state : ProgressServiceState} (hrun : progressService.Run history state) :
    ProgressServiceState.Accounting history state ∧
      ∀ later reached, progressService.Continues history state later reached →
        ProgressServiceState.ProgressGrows state reached :=
  ⟨ProgressServiceState.accounting_of_run hrun,
    fun _ _ hcontinues => ProgressServiceState.progressGrows_of_continues hrun hcontinues⟩

/-- One challenge that asks for a single expected hash, one session, and a share
delivered twice. -/
def oneShareCalls : List ProgressCall :=
  let challengeId : ChallengeId := ⟨"challenge_a", isChallengeId_a⟩
  let sessionId : WorkSessionId := ⟨"session_a", validSession_a⟩
  let event : AcceptedWorkEvent := {
    eventId := ⟨"event_a", validEvent_a⟩
    workSessionId := sessionId
    assignedTarget := ⟨List.replicate 32 255, length_easiest, easiest_ne_zero⟩
    receivedAt := ⟨1, Nat.one_ne_zero⟩
    shareFingerprint := ⟨"share_a", validShare_a⟩
    networkTargetOutcome := .belowNetworkTarget
    maybeWorkerReport := none }
  [.registerChallenge challengeId ⟨Uint256.one, toNat_one_pos⟩,
    .registerSession challengeId sessionId, .report event, .report event]

theorem oneShareCalls_accounting :
    ProgressServiceState.Accounting (progressService.replay oneShareCalls).1
        (progressService.replay oneShareCalls).2 ∧
      (progressService.replay oneShareCalls).2.challenges.entries.map
        (fun entry => (entry.2.isSatisfied, entry.2.verifiedProgress.value.toNat)) =
          [(true, 1)] :=
  ⟨(progressService_accounting (Machine.run_replay oneShareCalls
    ⟨trivial, trivial, trivial, trivial, trivial⟩)).1, by decide +kernel⟩

end WorkGate
