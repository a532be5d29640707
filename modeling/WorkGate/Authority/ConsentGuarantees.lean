/-
# What trusted consent guarantees

Who may verify a ceremony and when, what stays once a ceremony is over, and what a later
finish is answered.  A finish is not promised the receipt for ever: after the deadline of
the challenge it is refused, whatever the ceremony came to.
-/

import WorkGate.Authority.ConsentRuns

namespace WorkGate

open WorkGate.Library

variable {config : ConsentConfig}

namespace ConsentState

variable (state : ConsentState config.parseUrl)

/-- A ceremony an event verifies is completed by the owner of its unexpired lease, at a
reading of the clock before its deadline, while its challenge still waits for it. -/
def VerifiesInTime (event : ConsentEvent config.parseUrl) : Prop :=
  ∀ key row, (consentStep config state event).1.ceremonies.rows.lookup key = some row →
    row.status = .verified →
    (∀ found, state.ceremonies.rows.lookup key = some found → found.status ≠ .verified) →
    ∃ completed found leaseExpiresAt, state.completion event = some completed ∧
      completed.ceremonyId.text = key ∧ completed.completedAt ≤ state.clock ∧
      state.ceremonies.rows.lookup key = some found ∧ found.status = .verifying ∧
      found.operationOwner = some completed.owner ∧
      found.operationLeaseExpiresAtUnixSeconds = some leaseExpiresAt ∧
      completed.completedAt < leaseExpiresAt ∧
      completed.completedAt < found.expiresAtUnixSeconds ∧
      challengeAwaitsConsent state.authority.challenges found.challengeId found.reason
        completed.completedAt = true ∧
      row.verifiedAtUnixSeconds = some completed.completedAt

/-- The receipt of one ceremony. -/
def receiptOf (key : String) : Option String :=
  (state.ceremonies.rows.lookup key).bind fun row => row.trustedConsentReceipt

/-- Whether an event wrote the receipt of one ceremony. -/
def writesReceipt (key : String) (before : ConsentState config.parseUrl)
    (_ : ConsentEvent config.parseUrl) (after : ConsentState config.parseUrl) : Bool :=
  decide (before.receiptOf key ≠ after.receiptOf key)

/-- A finish that comes to a ceremony with a receipt answers that receipt: it is refused for
another challenge and after the challenge's deadline, and otherwise reads the receipt next. -/
def AnswersReceipt : Prop :=
  ∀ key row compactReceipt, state.ceremonies.rows.lookup key = some row →
    row.trustedConsentReceipt = some compactReceipt →
    (∀ requestId world call, state.requests.lookup requestId = some (.finishCeremony call) →
      call.ceremonyId.text = key → call.challengeId.text = row.challengeId →
      call.now < row.challengeExpiresAtUnixSeconds →
      ∃ ceremony : TrustedConsentCeremony config.parseUrl,
        ceremony.ceremonyId.text = key ∧
        consentStep config state (.proceed requestId world) =
          (state.enter requestId (.finishReceipt ceremony), .silent)) ∧
    ∀ requestId world ceremony,
      state.requests.lookup requestId = some (.finishReceipt ceremony) →
      ceremony.ceremonyId.text = key →
      (consentStep config state (.proceed requestId world)).2 =
        .answered requestId (.ok (receiptResponse ceremony compactReceipt))

variable {state}

theorem Sound.verifiesInTime (hsound : state.Sound) (event : ConsentEvent config.parseUrl) :
    state.VerifiesInTime event := by
  intro key row hrow hverified hbefore
  have hmove := moves_of_step hsound event key
  rw [hrow] at hmove
  generalize hfound : state.ceremonies.rows.lookup key = maybeRow at hmove hbefore
  cases hmove with
  | keeps => exact absurd hverified (hbefore row rfl)
  | reserves => cases hverified
  | initializes => cases hverified
  | claims => cases hverified
  | fails => cases hverified
  | receives hstatus => exact absurd hstatus (hbefore _ rfl)
  | @verifies found completed leaseExpiresAt hcompletion hkey hverifying howner hlease
      hunexpired hawaits hcreated hexpires =>
      have hclock : completed.completedAt ≤ state.clock := by
        cases event with
        | proceed requestId world =>
            obtain ⟨progress, hprogress, hcompletes⟩ := Option.bind_eq_some_iff.mp hcompletion
            have hknows := hsound.requests requestId progress hprogress
            cases progress with
            | finishComplete call owner completedAt =>
                cases hcompletes
                exact hknows.1
            | _ => cases hcompletes
        | _ => cases hcompletion
      exact ⟨completed, found, leaseExpiresAt, hcompletion, hkey, hclock, rfl, hverifying, howner,
        hlease, hunexpired, hexpires, hawaits, rfl⟩

/-- Only a verified ceremony without a receipt gets one, and none loses it. -/
theorem Sound.receiptOf_step (hsound : state.Sound) (event : ConsentEvent config.parseUrl)
    {key compactReceipt : String} (hreceipt : state.receiptOf key = some compactReceipt) :
    (consentStep config state event).1.receiptOf key = some compactReceipt := by
  obtain ⟨row, hrow, hsome⟩ := Option.bind_eq_some_iff.mp hreceipt
  have hkeeps := (moves_of_step hsound event).keepsTerminal
  have hreceipted := (CeremonyTable.receipted_of_lookup hrow hsome).keeps hkeeps
  obtain ⟨kept, hkept, -, hkeptReceipt⟩ := hreceipted
  rw [receiptOf, hkept, Option.bind_some, hkeptReceipt]

theorem Sound.answersReceipt (hsound : state.Sound) : state.AnswersReceipt := by
  intro key row compactReceipt hrow hreceipt
  have hreceipted := CeremonyTable.receipted_of_lookup hrow hreceipt
  refine ⟨?_, ?_⟩
  · intro requestId world call hrequest hkey hchallenge hnow
    subst hkey
    obtain ⟨found, hfound, hverified, -⟩ := hreceipted
    rw [hrow] at hfound
    cases hfound
    obtain ⟨record, hrecord⟩ := hsound.ceremonies.readable _ _ hrow
    have hshows := TrustedConsentRow.shows_of_record hrecord
    have hstatus := hshows.status
    rw [hverified] at hstatus
    cases record with
    | verified ceremony =>
        refine ⟨ceremony, hshows.key, ?_⟩
        have hsame : ceremony.binding.challengeId = call.challengeId.text :=
          hshows.challengeId.trans hchallenge.symm
        have hbefore : ¬ ceremony.binding.challengeExpiresAtUnixSeconds ≤ call.now := by
          rw [show ceremony.binding.challengeExpiresAtUnixSeconds = _ from
            hshows.challengeExpiresAt]
          exact not_le.mpr hnow
        simp [consentStep, hrequest, proceedWith, CeremonyTable.byId, hrow, hrecord, finishRecord,
          TrustedConsentCeremonyRecord.ceremony, hsame, finishResponse, hbefore, settle]
    | starting => cases hstatus
    | pending => cases hstatus
    | verifying => cases hstatus
    | failed => cases hstatus
  · intro requestId world ceremony hrequest hkey
    subst hkey
    have hmaybe := CeremonyTable.maybeReceipt_of_receipted hreceipted
    simp [consentStep, hrequest, proceedWith, hmaybe, settle]

end ConsentState

/-- A receipt is written once: what has one keeps it. -/
theorem consentAuthority_writesReceipt_le_one (key : String)
    {history : List (ConsentEvent config.parseUrl × ConsentReply)}
    {state : ConsentState config.parseUrl} (hrun : (consentAuthority config).Run history state) :
    (consentAuthority config).countSteps (ConsentState.writesReceipt key) history ≤ 1 := by
  refine Machine.Run.countSteps_le_one _ (fun s => (s.receiptOf key).isSome) ?_ ?_ hrun
  · intro _ s event hprior htest
    have hdiffers := of_decide_eq_true htest
    cases hbefore : s.receiptOf key with
    | some compactReceipt =>
        have hkept := (consentAuthority_sound hprior).receiptOf_step event hbefore
        exact absurd (hbefore.trans hkept.symm) hdiffers
    | none =>
        refine ⟨by simp, ?_⟩
        rw [hbefore] at hdiffers
        exact Option.isSome_iff_ne_none.mpr hdiffers.symm
  · intro _ s event hprior hmarked
    obtain ⟨compactReceipt, hreceipt⟩ := Option.isSome_iff_exists.mp hmarked
    exact Option.isSome_iff_exists.mpr
      ⟨_, (consentAuthority_sound hprior).receiptOf_step event hreceipt⟩

/-- Terminal ceremonies stay as they are, along any continuation of a run. -/
theorem consentAuthority_keepsTerminal
    {history later : List (ConsentEvent config.parseUrl × ConsentReply)}
    {state reached : ConsentState config.parseUrl}
    (hrun : (consentAuthority config).Run history state)
    (hcontinues : (consentAuthority config).Continues history state later reached) :
    state.ceremonies.KeepsTerminal reached.ceremonies := by
  have hboth : (consentAuthority config).Run later reached ∧
      state.ceremonies.KeepsTerminal reached.ceremonies := by
    refine Machine.Continues.preserves (P := fun h s => (consentAuthority config).Run h s ∧
      state.ceremonies.KeepsTerminal s.ceremonies) ?_ hcontinues ⟨hrun, .refl⟩
    rintro h s event hadmits ⟨hprior, hkept⟩
    have hmoves := ConsentState.moves_of_step (consentAuthority_sound hprior) event
    exact ⟨hprior.extend event hadmits, hkept.trans hmoves.keepsTerminal⟩
  exact hboth.2

/-- Every receipt answered so far is the receipt of its ceremony. -/
theorem consentAuthority_answered
    {history : List (ConsentEvent config.parseUrl × ConsentReply)}
    {state : ConsentState config.parseUrl} (hrun : (consentAuthority config).Run history state) :
    ∀ event requestId answer, (event, ConsentReply.answered requestId answer) ∈ history →
      AnswerSound state.ceremonies answer := by
  have hboth : (consentAuthority config).Run history state ∧
      ∀ event requestId answer, (event, ConsentReply.answered requestId answer) ∈ history →
        AnswerSound state.ceremonies answer := by
    refine Machine.Run.invariant (P := fun h s => (consentAuthority config).Run h s ∧
      ∀ event requestId answer, (event, ConsentReply.answered requestId answer) ∈ h →
        AnswerSound s.ceremonies answer) ⟨.start, by simp⟩ ?_ hrun
    rintro h s event hadmits ⟨hprior, hanswered⟩
    have hsound := consentAuthority_sound hprior
    have hkeeps := (ConsentState.moves_of_step hsound event).keepsTerminal
    refine ⟨hprior.extend event hadmits, ?_⟩
    intro other requestId answer hmem
    rcases List.mem_cons.mp hmem with hnew | hold
    · obtain ⟨rfl, hreply⟩ := Prod.mk.inj hnew
      cases other with
      | proceed driven world =>
          change _ = (consentStep config s (.proceed driven world)).2 at hreply
          show AnswerSound (consentStep config s (.proceed driven world)).1.ceremonies answer
          simp only [consentStep] at hreply ⊢
          split at hreply
          · cases hreply
          · next progress hprogress =>
              have houtcome := ConsentState.sound_of_proceedWith world
                hsound.ceremonies (hsound.requests driven progress hprogress)
              unfold ConsentState.settle at hreply ⊢
              split at hreply
              · cases hreply
              · next answered hout =>
                  cases hreply
                  rw [hout] at houtcome
                  exact houtcome
      | _ => cases hreply
    · have hprevious := hanswered other requestId answer hold
      unfold AnswerSound at hprevious ⊢
      split
      · next response => exact hprevious.keeps hkeeps
      · trivial
  exact hboth.2

/-- Trusted consent along every run.  Terms have one ceremony at most; terminal ceremonies
stay; a ceremony is verified in time by the owner of its lease; its receipt is written once
and is what every finish with a receipt answers, before the challenge's deadline every finish
that comes to it; and the reader accepts every row. -/
theorem consentAuthority_ceremonies (config : ConsentConfig)
    {history : List (ConsentEvent config.parseUrl × ConsentReply)}
    {state : ConsentState config.parseUrl} (hrun : (consentAuthority config).Run history state) :
    state.ceremonies.OneCeremonyPerTerms ∧
    (∀ later reached, (consentAuthority config).Continues history state later reached →
      state.ceremonies.KeepsTerminal reached.ceremonies) ∧
    (∀ event, state.VerifiesInTime event) ∧
    (∀ key, (consentAuthority config).countSteps (ConsentState.writesReceipt key) history ≤ 1) ∧
    (∀ event requestId answer, (event, ConsentReply.answered requestId answer) ∈ history →
      AnswerSound state.ceremonies answer) ∧
    state.AnswersReceipt ∧
    state.ceremonies.Readable config.parseUrl := by
  have hsound := consentAuthority_sound hrun
  exact ⟨state.ceremonies.oneCeremonyPerTerms,
    fun _ _ hcontinues => consentAuthority_keepsTerminal hrun hcontinues,
    hsound.verifiesInTime,
    fun key => consentAuthority_writesReceipt_le_one key hrun,
    consentAuthority_answered hrun,
    hsound.answersReceipt,
    hsound.ceremonies.readable⟩

/-- An Authority at one origin, which is all its parser knows. -/
def gateConsentConfig : ConsentConfig where
  parseUrl := fun text =>
    if text = "https://gate.example" then
      some ⟨"https", some "gate.example", "", none, "/", none, none, "https://gate.example"⟩
    else none
  issuer := "https://gate.example"

/-- Elevated work with verified offers, and an authenticator that approves. -/
def approvingWorld : ConsentWorld gateConsentConfig.parseUrl where
  lockedReservations := []
  lockedCeremonies := []
  challenge := ⟨1000, "AAAAAAAAAAAAAAAAAAAAAAAAAAAAAAAAAAAAAAAAAAA", true,
    some ⟨"BBBBBBBBBBBBBBBBBBBBBBBBBBBBBBBBBBBBBBBBBBA", some ⟨true, none⟩⟩⟩
  maybeConfirmation := none
  ceremonyUuid := "0"
  operationOwner := ⟨"owner"⟩
  startWebauthn := fun _ => .ok ⟨"options", "state"⟩
  finishWebauthn := fun _ _ => .ok ⟨true, true, "trusted_non_self"⟩
  signReceipt := fun _ => .ok "a.b.c"

/-- One ceremony from its start to its receipt. -/
def confirmedEvents : List (ConsentEvent gateConsentConfig.parseUrl) :=
  [.tick 100,
    .authority (.insertChallenge
      ⟨⟨"challenge_a", isChallengeId_a⟩, ⟨Uint256.one, toNat_one_pos⟩, 1000, "seed", true⟩),
    .beginRequest 0 ⟨"challenge_a", isChallengeId_a⟩
      ⟨"BBBBBBBBBBBBBBBBBBBBBBBBBBBBBBBBBBBBBBBBBBA", "elevated_work", "https://gate.example"⟩] ++
  List.replicate 7 (.proceed 0 approvingWorld) ++
  [.finishRequest 1 ⟨"challenge_a", isChallengeId_a⟩ ⟨"ceremony_0", by decide⟩ "credential"] ++
  List.replicate 9 (.proceed 1 approvingWorld)

theorem confirmedEvents_ceremonies :
    let run := (consentAuthority gateConsentConfig).replay confirmedEvents
    run.2.ceremonies.OneCeremonyPerTerms ∧
    (∀ later reached, (consentAuthority gateConsentConfig).Continues run.1 run.2 later reached →
      run.2.ceremonies.KeepsTerminal reached.ceremonies) ∧
    (∀ event, run.2.VerifiesInTime event) ∧
    (∀ key, (consentAuthority gateConsentConfig).countSteps
      (ConsentState.writesReceipt key) run.1 ≤ 1) ∧
    (∀ event requestId answer, (event, ConsentReply.answered requestId answer) ∈ run.1 →
      AnswerSound run.2.ceremonies answer) ∧
    run.2.AnswersReceipt ∧
    run.2.ceremonies.Readable gateConsentConfig.parseUrl :=
  consentAuthority_ceremonies gateConsentConfig
    (Machine.run_replay (M := consentAuthority gateConsentConfig) confirmedEvents
      (Machine.admitsAll_of_forall (fun _ _ _ => trivial) _ _))

/-- The answer an event shows, when it shows one. -/
def ConsentReply.maybeAnswer :
    ConsentReply → Option (ℕ × Except AuthorityApplicationError ConsentResponse)
  | .silent => none
  | .answered requestId answer => some (requestId, answer)

/-- A finish of the same ceremony that starts when the challenge is over. -/
def lateFinishEvents : List (ConsentEvent gateConsentConfig.parseUrl) :=
  confirmedEvents ++
  [.tick 900,
    .finishRequest 2 ⟨"challenge_a", isChallengeId_a⟩ ⟨"ceremony_0", by decide⟩ "credential",
    .proceed 2 approvingWorld, .proceed 2 approvingWorld]

/-- Not every later finish returns the receipt: the challenge's deadline ends that. -/
theorem lateFinishEvents_refused :
    let run := (consentAuthority gateConsentConfig).replay lateFinishEvents
    (consentAuthority gateConsentConfig).Run run.1 run.2 ∧
    run.1.filterMap (fun entry => entry.2.maybeAnswer) =
      [(2, .error (.trustedConsent .ceremonyExpired)),
        (1, .ok (.finished ⟨"ceremony_0", .verified, "a.b.c"⟩)),
        (0, .ok (.started ⟨"ceremony_0", "AAAAAAAAAAAAAAAAAAAAAAAAAAAAAAAAAAAAAAAAAAA", "options",
          220⟩))] ∧
    run.2.receiptOf "ceremony_0" = some "a.b.c" := by
  refine ⟨Machine.run_replay (M := consentAuthority gateConsentConfig) lateFinishEvents
    (Machine.admitsAll_of_forall (fun _ _ _ => trivial) _ _), ?_⟩
  decide +kernel

end WorkGate
