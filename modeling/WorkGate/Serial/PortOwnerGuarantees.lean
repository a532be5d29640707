/-
# What the lock of the serial port guarantees

The lock is given back once, behind the last native call: whatever settles late, an opening that was
admitted is waited for and closed first.
-/

import WorkGate.Serial.PortOwner

namespace WorkGate

open WorkGate.Library

namespace WorkerSerialPortOwner

variable {owner after : WorkerSerialPortOwner}

theorem channelPortClosed_iff : owner.channelPortClosed = true ↔
    ∃ (channel : ℕ) (errors : Bool), owner.maybeChannel = some channel ∧
      owner.channels[channel]? = some (.done errors true) := by
  rw [channelPortClosed]
  cases owner.maybeChannel with
  | none => simp
  | some channel =>
      simp only [Option.bind_some, Option.some.injEq, exists_and_left, exists_eq_left']
      cases owner.channels[channel]? with
      | none => simp
      | some status =>
          cases status with
          | live => simp
          | cleaning => simp
          | closingPort errors => simp
          | done errors portClosed => simp

/-! ## What the owner knows of the port -/

/-- No native opening is under way or to come. -/
def AllSettled (owner : WorkerSerialPortOwner) : Prop :=
  ∀ (opening : ℕ) (status : NativeOpening), owner.openings[opening]? = some status →
    ∃ opened, status = .settled opened

/-- An opening that has not settled is the current one, there is no channel beside it, and the port
is as it says. -/
structure Under (owner : WorkerSerialPortOwner) (opening : ℕ) (status : NativeOpening) : Prop where
  current : owner.maybeOpening = some opening
  alone : owner.maybeChannel = none
  deferred : status = .deferred → owner.native = .closed
  pending : status = .pending → owner.native = .opening opening

/-- What the fields say of the port. -/
structure Knows (owner : WorkerSerialPortOwner) : Prop where
  under : ∀ (opening : ℕ) (status : NativeOpening), owner.openings[opening]? = some status →
    (∃ opened, status = .settled opened) ∨ owner.Under opening status
  pending : ∀ opening, owner.native = .opening opening →
    owner.openings[opening]? = some .pending
  unopened : owner.maybeOpening = none →
    owner.openings = [] ∧ owner.native = .closed ∧ owner.maybeChannel = none
  failed : ∀ opening : ℕ, owner.maybeOpening = some opening →
    owner.openings[opening]? = some (.settled false) → owner.native = .closed
  portClosed : ∀ (channel : ℕ) (errors : Bool), owner.maybeChannel = some channel →
    owner.channels[channel]? = some (.done errors true) → owner.native = .closed
  clean : ∀ (channel : ℕ) (portClosed : Bool),
    owner.channels[channel]? = some (.done false portClosed) → portClosed = true

/-- Where the close is, and what that means for the port. -/
structure Closes (owner : WorkerSerialPortOwner) : Prop where
  awaitingOpening : ∀ opening, owner.closing = .awaitingOpening opening →
    owner.maybeOpening = some opening
  awaitingChannel : ∀ channel, owner.closing = .awaitingChannel channel →
    owner.maybeChannel = some channel
  awaitingPort : ∀ maybeClosed, owner.closing = .awaitingPort maybeClosed →
    owner.AllSettled ∧ (maybeClosed = some true → owner.native = .closed)
  closer : owner.native = .closing .owner → owner.closing = .awaitingPort none
  released : owner.released = true →
    owner.closeBegun = true ∧ owner.native = .closed ∧ owner.AllSettled
  releases : owner.releases = if owner.released then 1 else 0

/-- All that is known of an owner. -/
structure Sound (owner : WorkerSerialPortOwner) : Prop where
  knows : Knows owner
  closes : Closes owner

theorem Knows.allSettled (hknows : Knows owner) {opening : ℕ} {opened : Bool}
    (hcurrent : owner.maybeOpening = some opening)
    (hsettled : owner.openings[opening]? = some (.settled opened)) : AllSettled owner := by
  intro other status hother
  rcases hknows.under other status hother with hdone | hunder
  · exact hdone
  · have hsame := hunder.current
    rw [hcurrent, Option.some.injEq] at hsame
    rw [← hsame, hsettled] at hother
    exact ⟨opened, (Option.some.inj hother).symm⟩

/-- A channel is beside no opening that has not settled. -/
theorem Knows.allSettled_of_channel (hknows : Knows owner) {channel : ℕ}
    (hchannel : owner.maybeChannel = some channel) : AllSettled owner := by
  intro other status hother
  rcases hknows.under other status hother with hdone | hunder
  · exact hdone
  · rw [hunder.alone] at hchannel
    cases hchannel

/-- An open port has no other opening. -/
theorem Knows.allSettled_of_opened (hknows : Knows owner) (hopened : owner.native = .opened) :
    AllSettled owner := by
  intro other status hother
  rcases hknows.under other status hother with hdone | hunder
  · exact hdone
  · cases status with
    | deferred =>
        rw [hunder.deferred rfl] at hopened
        cases hopened
    | pending =>
        rw [hunder.pending rfl] at hopened
        cases hopened
    | settled opened => exact ⟨opened, rfl⟩

/-! ## Native calls -/

theorem sound_openingStarts (hsound : Sound owner) (opening : ℕ) :
    Sound (owner.openingStarts opening) := by
  obtain ⟨⟨hunder, hpending, hunopened, hfailed, hportClosed, hclean⟩, hcloses⟩ := hsound
  rw [openingStarts]
  split
  · next hdeferred =>
      have hthis : owner.Under opening .deferred := by
        rcases hunder opening _ hdeferred with ⟨opened, hdone⟩ | hthis
        · cases hdone
        · exact hthis
      obtain ⟨hcurrent, halone, hclosed, -⟩ := hthis
      rw [if_pos (hclosed rfl)]
      constructor
      · constructor
        · intro other status hother
          have hbefore := hunder other
          grind [Under]
        · grind
        · grind
        · grind
        · grind
        · grind
      · obtain ⟨hawaitingOpening, hawaitingChannel, hawaitingPort, hcloser, hreleased, hreleases⟩ :=
          hcloses
        constructor
        · exact hawaitingOpening
        · exact hawaitingChannel
        · intro maybeClosed hport
          have hall := (hawaitingPort maybeClosed hport).1 opening _ hdeferred
          grind
        · grind
        · intro hdone
          have hall := (hreleased hdone).2.2 opening _ hdeferred
          grind
        · exact hreleases
  · exact ⟨⟨hunder, hpending, hunopened, hfailed, hportClosed, hclean⟩, hcloses⟩

theorem sound_nativeOpens (hsound : Sound owner) (opened : Bool) :
    Sound (owner.nativeOpens opened) := by
  obtain ⟨⟨hunder, hpending, hunopened, hfailed, hportClosed, hclean⟩, hcloses⟩ := hsound
  rw [nativeOpens]
  split
  · next opening hnative =>
      have hthis : owner.Under opening .pending := by
        rcases hunder opening _ (hpending opening hnative) with ⟨opened, hdone⟩ | hthis
        · cases hdone
        · exact hthis
      obtain ⟨hcurrent, halone, -, -⟩ := hthis
      constructor
      · constructor
        · intro other status hother
          have hbefore := hunder other
          grind [Under]
        · grind
        · grind
        · grind
        · grind
        · grind
      · obtain ⟨hawaitingOpening, hawaitingChannel, hawaitingPort, hcloser, hreleased, hreleases⟩ :=
          hcloses
        constructor
        · exact hawaitingOpening
        · exact hawaitingChannel
        · intro maybeClosed hport
          have hall := (hawaitingPort maybeClosed hport).1 opening _ (hpending opening hnative)
          grind
        · grind
        · intro hdone
          have hclosed := (hreleased hdone).2.1
          grind
        · exact hreleases
  · exact ⟨⟨hunder, hpending, hunopened, hfailed, hportClosed, hclean⟩, hcloses⟩

theorem sound_channelCleaned (hsound : Sound owner) (channel : ℕ) (errors : Bool) :
    Sound (owner.channelCleaned channel errors) := by
  obtain ⟨⟨hunder, hpending, hunopened, hfailed, hportClosed, hclean⟩,
    ⟨hawaitingOpening, hawaitingChannel, hawaitingPort, hcloser, hreleased, hreleases⟩⟩ := hsound
  rw [channelCleaned]
  split
  · next hcleaning =>
      split
      · next hnative =>
          constructor
          · constructor
            · intro other status hother
              have hbefore := hunder other status hother
              grind [Under]
            · grind
            · grind
            · grind
            · grind
            · grind
          · constructor
            · exact hawaitingOpening
            · exact hawaitingChannel
            · grind [AllSettled]
            · grind
            · grind
            · exact hreleases
      · constructor
        · constructor
          · intro other status hother
            have hbefore := hunder other status hother
            grind [Under]
          · grind
          · grind
          · grind
          · grind
          · grind
        · constructor
          · exact hawaitingOpening
          · exact hawaitingChannel
          · exact hawaitingPort
          · exact hcloser
          · exact hreleased
          · exact hreleases
  · exact ⟨⟨hunder, hpending, hunopened, hfailed, hportClosed, hclean⟩,
      ⟨hawaitingOpening, hawaitingChannel, hawaitingPort, hcloser, hreleased, hreleases⟩⟩

theorem sound_nativeCloses (hsound : Sound owner) (closed : Bool) :
    Sound (owner.nativeCloses closed) := by
  obtain ⟨⟨hunder, hpending, hunopened, hfailed, hportClosed, hclean⟩,
    ⟨hawaitingOpening, hawaitingChannel, hawaitingPort, hcloser, hreleased, hreleases⟩⟩ := hsound
  rw [nativeCloses]
  split
  · next closer hnative =>
      cases closer with
      | owner =>
          have hport := hawaitingPort none (hcloser hnative)
          constructor
          · constructor
            · intro other status hother
              obtain ⟨opened, hdone⟩ := hport.1 other status hother
              exact Or.inl ⟨opened, hdone⟩
            · grind [closerGoesOn]
            · grind [closerGoesOn]
            · grind [closerGoesOn]
            · grind [closerGoesOn]
            · grind [closerGoesOn]
          · constructor
            · grind [closerGoesOn]
            · grind [closerGoesOn]
            · grind [closerGoesOn, AllSettled]
            · grind [closerGoesOn]
            · grind [closerGoesOn]
            · exact hreleases
      | channel channel =>
          rw [closerGoesOn]
          constructor
          · constructor
            · intro other status hother
              have hbefore := hunder other status
              grind [Under]
            · grind
            · grind
            · grind
            · grind
            · grind
          · constructor
            · grind
            · grind
            · grind [AllSettled]
            · grind
            · grind [AllSettled]
            · grind
  · exact ⟨⟨hunder, hpending, hunopened, hfailed, hportClosed, hclean⟩,
      ⟨hawaitingOpening, hawaitingChannel, hawaitingPort, hcloser, hreleased, hreleases⟩⟩

/-! ## Calls -/

theorem sound_closeChannel (hsound : Sound owner) (channel : ℕ) :
    Sound (owner.closeChannel channel) := by
  obtain ⟨⟨hunder, hpending, hunopened, hfailed, hportClosed, hclean⟩,
    ⟨hawaitingOpening, hawaitingChannel, hawaitingPort, hcloser, hreleased, hreleases⟩⟩ := hsound
  rw [closeChannel]
  split
  · constructor
    · constructor
      · intro other status hother
        have hbefore := hunder other status hother
        grind [Under]
      · exact hpending
      · exact hunopened
      · exact hfailed
      · grind
      · grind
    · exact ⟨hawaitingOpening, hawaitingChannel, hawaitingPort, hcloser, hreleased, hreleases⟩
  · exact ⟨⟨hunder, hpending, hunopened, hfailed, hportClosed, hclean⟩,
      ⟨hawaitingOpening, hawaitingChannel, hawaitingPort, hcloser, hreleased, hreleases⟩⟩

/-- A first opening finds the port closed and nothing attached. -/
theorem sound_openPort (hsound : Sound owner) : Sound owner.openPort.1 := by
  obtain ⟨⟨hunder, hpending, hunopened, hfailed, hportClosed, hclean⟩,
    ⟨hawaitingOpening, hawaitingChannel, hawaitingPort, hcloser, hreleased, hreleases⟩⟩ := hsound
  rw [openPort]
  split
  · exact ⟨⟨hunder, hpending, hunopened, hfailed, hportClosed, hclean⟩,
      ⟨hawaitingOpening, hawaitingChannel, hawaitingPort, hcloser, hreleased, hreleases⟩⟩
  · next hopen =>
      simp only [Bool.or_eq_true, not_or, Bool.not_eq_true, Option.isSome_eq_false_iff,
        Option.isNone_iff_eq_none] at hopen
      obtain ⟨hnone, hbegun⟩ := hopen
      obtain ⟨hempty, hnative, halone⟩ := hunopened hnone
      have hnot : owner.closing = .notBegun := by
        simpa [closeBegun] using hbegun
      constructor
      · constructor
        · intro other status hother
          grind [Under]
        · grind
        · grind
        · grind
        · grind
        · grind
      · constructor
        · grind
        · grind
        · grind
        · grind
        · grind
        · exact hreleases

theorem sound_attach (hsound : Sound owner) : Sound owner.attach.1 := by
  obtain ⟨⟨hunder, hpending, hunopened, hfailed, hportClosed, hclean⟩,
    ⟨hawaitingOpening, hawaitingChannel, hawaitingPort, hcloser, hreleased, hreleases⟩⟩ := hsound
  rw [attach]
  split
  · exact ⟨⟨hunder, hpending, hunopened, hfailed, hportClosed, hclean⟩,
      ⟨hawaitingOpening, hawaitingChannel, hawaitingPort, hcloser, hreleased, hreleases⟩⟩
  · next hnative =>
      have hopened : owner.native = .opened := by simpa using hnative
      have hall := Knows.allSettled_of_opened
        ⟨hunder, hpending, hunopened, hfailed, hportClosed, hclean⟩ hopened
      have hmade : ∀ maybeChannel : Option ℕ, (maybeChannel = owner.maybeChannel ∨
          (maybeChannel = some owner.channels.length ∧ owner.closeBegun = false)) →
          Sound { owner with
            channels := owner.channels ++ [.live], maybeChannel := maybeChannel } := by
        intro maybeChannel hchoice
        constructor
        · constructor
          · intro other status hother
            exact Or.inl (hall other status hother)
          · grind
          · grind
          · grind
          · grind
          · grind
        · constructor
          · exact hawaitingOpening
          · grind [closeBegun]
          · exact hawaitingPort
          · exact hcloser
          · exact hreleased
          · exact hreleases
      simp only
      split
      · exact hmade _ (Or.inl rfl)
      · next hbegun => exact hmade _ (Or.inr ⟨rfl, by simpa using hbegun⟩)

/-! ## The end of the close -/

/-- The lock is released where the port is closed and nothing can open it. -/
theorem sound_release (hsound : Sound owner) (hbegun : owner.closeBegun = true)
    (hnative : owner.native = .closed) (hall : owner.AllSettled) : Sound owner.release := by
  obtain ⟨⟨hunder, hpending, hunopened, hfailed, hportClosed, hclean⟩,
    ⟨hawaitingOpening, hawaitingChannel, hawaitingPort, hcloser, hreleased, hreleases⟩⟩ := hsound
  rw [release]
  split
  · exact ⟨⟨hunder, hpending, hunopened, hfailed, hportClosed, hclean⟩,
      ⟨hawaitingOpening, hawaitingChannel, hawaitingPort, hcloser, hreleased, hreleases⟩⟩
  · constructor
    · constructor
      · intro other status hother
        exact Or.inl (hall other status hother)
      · exact hpending
      · exact hunopened
      · exact hfailed
      · exact hportClosed
      · exact hclean
    · constructor
      · exact hawaitingOpening
      · exact hawaitingChannel
      · exact hawaitingPort
      · exact hcloser
      · exact fun _ => ⟨hbegun, hnative, hall⟩
      · grind

/-- The close goes on to a phase that says what it awaits. -/
theorem sound_closing (hsound : Sound owner) {phase : OwnerClose}
    (hphase : (phase != .notBegun) = true)
    (hawaits : match phase with
      | .awaitingOpening opening => owner.maybeOpening = some opening
      | .awaitingChannel channel => owner.maybeChannel = some channel
      | .awaitingPort _ => False
      | _ => True)
    (hcloser : owner.native ≠ .closing .owner) : Sound { owner with closing := phase } := by
  obtain ⟨⟨hunder, hpending, hunopened, hfailed, hportClosed, hclean⟩,
    ⟨-, -, -, -, hreleased, hreleases⟩⟩ := hsound
  constructor
  · constructor
    · intro other status hother
      have hbefore := hunder other status hother
      grind [Under]
    · exact hpending
    · exact hunopened
    · exact hfailed
    · exact hportClosed
    · exact hclean
  · constructor
    · rintro opening rfl
      exact hawaits
    · rintro channel rfl
      exact hawaits
    · rintro maybeClosed rfl
      exact hawaits.elim
    · exact fun h => absurd h hcloser
    · exact fun h => ⟨hphase, (hreleased h).2⟩
    · exact hreleases

theorem sound_closeEnds (hsound : Sound owner) (hnative : owner.native = .closed)
    (hall : owner.AllSettled) : Sound owner.closeEnds := by
  have hdone : Sound { owner with closing := .done false } :=
    sound_closing hsound rfl trivial fun h => by
      rw [hnative] at h
      cases h
  exact sound_release hdone rfl hnative hall

theorem sound_closeFails (hsound : Sound owner) (hcloser : owner.native ≠ .closing .owner)
    (hall : owner.AllSettled) : Sound owner.closeFails := by
  have hdone : Sound { owner with closing := .done true } :=
    sound_closing hsound rfl trivial hcloser
  rw [closeFails]
  split
  · next hportClosed =>
      obtain ⟨channel, errors, hchannel, hstatus⟩ := channelPortClosed_iff.mp hportClosed
      have hnative := hsound.knows.portClosed channel errors hchannel hstatus
      exact sound_release hdone rfl hnative hall
  · exact hdone

theorem sound_close (hsound : Sound owner) : Sound owner.close := by
  rw [close]
  split
  · exact hsound
  · next hbegun =>
      split
      · next hcurrent =>
          obtain ⟨hempty, hnative, -⟩ := hsound.knows.unopened hcurrent
          apply sound_closeEnds hsound hnative
          intro other status hother
          rw [hempty] at hother
          cases hother
      · next opening hcurrent =>
          have hnot : owner.closing = .notBegun := by simpa [closeBegun] using hbegun
          apply sound_closing hsound rfl hcurrent
          intro hcloser
          have hawaits := hsound.closes.closer hcloser
          rw [hnot] at hawaits
          cases hawaits

theorem sound_closeOpened (hsound : Sound owner) (hall : owner.AllSettled)
    (hcloser : owner.native ≠ .closing .owner) (hport : owner.maybePort = true) :
    Sound owner.closeOpened := by
  rw [closeOpened]
  split
  · next channel hchannel =>
      apply sound_closeChannel
      exact sound_closing hsound rfl hchannel hcloser
  · next hchannel =>
      rw [if_pos hport]
      split
      · next hopened =>
          obtain ⟨⟨hunder, hpending, hunopened, hfailed, hportClosed, hclean⟩,
            ⟨hawaitingOpening, hawaitingChannel, hawaitingPort, -, hreleased, hreleases⟩⟩ := hsound
          constructor
          · constructor
            · intro other status hother
              exact Or.inl (hall other status hother)
            · grind
            · grind
            · grind
            · grind
            · exact hclean
          · constructor
            · grind
            · grind
            · exact fun maybeClosed h => ⟨hall, fun hsome => by grind⟩
            · grind
            · grind
            · exact hreleases
      · exact sound_closeFails hsound hcloser hall

/-- An opening was given a port. -/
def Given (owner : WorkerSerialPortOwner) : Prop :=
  owner.maybeOpening ≠ none → owner.maybePort = true

theorem sound_closeResumes (hsound : Sound owner) (hgiven : Given owner) :
    Sound owner.closeResumes := by
  have hcloser : ∀ phase, owner.closing = phase → phase ≠ .awaitingPort none →
      owner.native ≠ .closing .owner := by
    intro phase hphase hother hnative
    exact hother (hphase.symm.trans (hsound.closes.closer hnative))
  rw [closeResumes]
  split
  · next opening hclosing =>
      have hcurrent := hsound.closes.awaitingOpening opening hclosing
      have hport : owner.maybePort = true := hgiven (by rw [hcurrent]; exact Option.some_ne_none _)
      split
      · next hopened =>
          exact sound_closeOpened hsound (hsound.knows.allSettled hcurrent hopened)
            (hcloser _ hclosing fun h => by cases h) hport
      · next hfailed =>
          exact sound_closeEnds hsound (hsound.knows.failed opening hcurrent hfailed)
            (hsound.knows.allSettled hcurrent hfailed)
      · exact hsound
  · next channel hclosing =>
      have hchannel := hsound.closes.awaitingChannel channel hclosing
      have hall := hsound.knows.allSettled_of_channel hchannel
      split
      · exact sound_closeFails hsound (hcloser _ hclosing fun h => by cases h) hall
      · next portClosed hstatus =>
          have hportClosed := hsound.knows.clean channel portClosed hstatus
          rw [hportClosed] at hstatus
          exact sound_closeEnds hsound (hsound.knows.portClosed channel false hchannel hstatus) hall
      · exact hsound
  · next hclosing =>
      obtain ⟨hall, hclosed⟩ := hsound.closes.awaitingPort _ hclosing
      exact sound_closeEnds hsound (hclosed rfl) hall
  · next hclosing =>
      exact sound_closeFails hsound (hcloser _ hclosing (by decide))
        (hsound.closes.awaitingPort _ hclosing).1
  · exact hsound

/-! ## The reset -/

theorem sound_reopening (hsound : Sound owner) (reopened : Bool) (reopening : OwnerReopen) :
    Sound { owner with reopened := reopened, reopening := reopening } := by
  obtain ⟨⟨hunder, hpending, hunopened, hfailed, hportClosed, hclean⟩, hcloses⟩ := hsound
  constructor
  · constructor
    · intro other status hother
      have hbefore := hunder other status hother
      grind [Under]
    · exact hpending
    · exact hunopened
    · exact hfailed
    · exact hportClosed
    · exact hclean
  · exact ⟨hcloses.awaitingOpening, hcloses.awaitingChannel, hcloses.awaitingPort, hcloses.closer,
      hcloses.released, hcloses.releases⟩

theorem sound_reopenExpectedReset (hsound : Sound owner) (check : Bool) :
    Sound (owner.reopenExpectedReset check).1 := by
  rw [reopenExpectedReset]
  split
  · exact hsound
  · next channel hchannel =>
      split
      · exact hsound
      split
      · exact hsound
      · apply sound_closeChannel
        exact sound_reopening hsound true (.awaitingChannel channel)

/-- The new opening begins where the old channel has closed the port. -/
theorem sound_reopenOn (hsound : Sound owner) (check : Bool) : Sound (owner.reopenOn check) := by
  rw [reopenOn]
  split
  · exact hsound
  · next hgoes =>
      simp only [Bool.or_eq_true, not_or, Bool.not_eq_true', Bool.not_eq_false,
        Bool.not_eq_true] at hgoes
      obtain ⟨⟨⟨hportClosed, hreleased⟩, hbegun⟩, -⟩ := hgoes
      obtain ⟨channel, errors, hchannel, hstatus⟩ := channelPortClosed_iff.mp hportClosed
      have hnative := hsound.knows.portClosed channel errors hchannel hstatus
      have hall := hsound.knows.allSettled_of_channel hchannel
      have hnot : owner.closing = .notBegun := by simpa [closeBegun] using hbegun
      have hopens : (openPort { owner with maybeChannel := none, maybeOpening := none }).1 =
          { owner with
            maybePort := true
            maybeChannel := none
            maybeOpening := some owner.openings.length
            openings := owner.openings ++ [.deferred] } := by
        rw [openPort, if_neg (by simpa [closeBegun] using hbegun)]
      rw [hopens]
      obtain ⟨⟨-, hpending, -, -, -, hclean⟩, ⟨-, -, -, -, hdone, hreleases⟩⟩ := hsound
      constructor
      · constructor
        · intro other status hother
          have hbefore := hall other status
          grind [Under]
        · grind
        · grind
        · grind
        · grind
        · exact hclean
      · constructor
        · grind
        · grind
        · grind
        · grind
        · grind
        · exact hreleases

theorem sound_reopenResumes (hsound : Sound owner) (check : Bool) :
    Sound (owner.reopenResumes check) := by
  rw [reopenResumes]
  split
  · split
    · exact sound_reopening hsound owner.reopened .done
    · apply sound_reopenOn
      exact sound_reopening hsound owner.reopened .done
    · exact hsound
  · exact hsound

/-! ## Steps -/

theorem given_closing {phase : OwnerClose} (hgiven : Given owner) :
    Given { owner with closing := phase } := hgiven

theorem given_release (hgiven : Given owner) : Given owner.release := by
  rw [release]
  split
  · exact hgiven
  · exact hgiven

theorem given_closeEnds (hgiven : Given owner) : Given owner.closeEnds :=
  given_release (given_closing hgiven)

theorem given_closeFails (hgiven : Given owner) : Given owner.closeFails := by
  rw [closeFails]
  split
  · exact given_release (given_closing hgiven)
  · exact given_closing hgiven

theorem given_closeChannel (hgiven : Given owner) (channel : ℕ) :
    Given (owner.closeChannel channel) := by
  rw [closeChannel]
  split
  · exact hgiven
  · exact hgiven

/-- Only `open` sets an opening, and it sets the port too. -/
theorem given_step (hgiven : Given owner) (event : OwnerEvent) : Given (owner.step event).1 := by
  cases event with
  | openPort =>
      show Given owner.openPort.1
      rw [openPort]
      split
      · exact hgiven
      · exact fun _ => rfl
  | attach =>
      show Given owner.attach.1
      rw [attach]
      split
      · exact hgiven
      · simp only
        split
        · exact hgiven
        · exact hgiven
  | reopenExpectedReset check =>
      show Given (owner.reopenExpectedReset check).1
      rw [reopenExpectedReset]
      split
      · exact hgiven
      split
      · exact hgiven
      split
      · exact hgiven
      · apply given_closeChannel
        exact hgiven
  | close =>
      show Given owner.close
      rw [close]
      split
      · exact hgiven
      split
      · exact given_closeEnds hgiven
      · exact hgiven
  | closeChannel channel => exact given_closeChannel hgiven channel
  | openingStarts opening =>
      show Given (owner.openingStarts opening)
      rw [openingStarts]
      split
      · simp only
        split
        · exact hgiven
        · exact hgiven
      · exact hgiven
  | nativeOpens opened =>
      show Given (owner.nativeOpens opened)
      rw [nativeOpens]
      split
      · exact hgiven
      · exact hgiven
  | channelCleaned channel errors =>
      show Given (owner.channelCleaned channel errors)
      rw [channelCleaned]
      split
      · split
        · exact hgiven
        · exact hgiven
      · exact hgiven
  | nativeCloses closed =>
      show Given (owner.nativeCloses closed)
      rw [nativeCloses]
      split
      · next closer hnative =>
          cases closer with
          | owner => exact hgiven
          | channel channel =>
              rw [closerGoesOn]
              split
              · exact hgiven
              · exact hgiven
      · exact hgiven
  | reopenResumes check =>
      show Given (owner.reopenResumes check)
      rw [reopenResumes]
      split
      · split
        · exact hgiven
        · rw [reopenOn]
          split
          · exact hgiven
          · rw [openPort]
            split
            · exact fun h => absurd rfl h
            · exact fun _ => rfl
        · exact hgiven
      · exact hgiven
  | closeResumes =>
      show Given owner.closeResumes
      rw [closeResumes]
      split
      · split
        · rw [closeOpened]
          split
          · apply given_closeChannel
            exact hgiven
          split
          · split
            · exact hgiven
            · exact given_closeFails hgiven
          · exact given_closeEnds hgiven
        · exact given_closeEnds hgiven
        · exact hgiven
      · split
        · exact given_closeFails hgiven
        · exact given_closeEnds hgiven
        · exact hgiven
      · exact given_closeEnds hgiven
      · exact given_closeFails hgiven
      · exact hgiven

theorem sound_fresh : Sound fresh := by
  constructor
  · constructor
    · intro opening status hstatus
      cases hstatus
    · intro opening hnative
      cases hnative
    · exact fun _ => ⟨rfl, rfl, rfl⟩
    · intro opening hcurrent
      cases hcurrent
    · intro channel errors hchannel
      cases hchannel
    · intro channel portClosed hstatus
      cases hstatus
  · constructor
    · intro opening hclosing
      cases hclosing
    · intro channel hclosing
      cases hclosing
    · intro maybeClosed hclosing
      cases hclosing
    · intro hnative
      cases hnative
    · intro hreleased
      cases hreleased
    · rfl

theorem sound_step (hsound : Sound owner) (hgiven : Given owner) (event : OwnerEvent) :
    Sound (owner.step event).1 := by
  cases event with
  | openPort => exact sound_openPort hsound
  | attach => exact sound_attach hsound
  | reopenExpectedReset check => exact sound_reopenExpectedReset hsound check
  | close => exact sound_close hsound
  | closeChannel channel => exact sound_closeChannel hsound channel
  | openingStarts opening => exact sound_openingStarts hsound opening
  | nativeOpens opened => exact sound_nativeOpens hsound opened
  | channelCleaned channel errors => exact sound_channelCleaned hsound channel errors
  | nativeCloses closed => exact sound_nativeCloses hsound closed
  | reopenResumes check => exact sound_reopenResumes hsound check
  | closeResumes => exact sound_closeResumes hsound hgiven

/-! ## Behind the close -/

/-- What a step may do to the openings once the close has begun. -/
structure Behind (owner after : WorkerSerialPortOwner) : Prop where
  begun : owner.closeBegun = true → after.closeBegun = true
  length : after.openings.length = owner.openings.length
  deferred : ∀ opening : ℕ, after.openings[opening]? = some .deferred →
    owner.openings[opening]? = some .deferred
  started : after.started = owner.started ∨ ∃ opening,
    owner.openings[opening]? = some .deferred ∧
      after.openings[opening]? ≠ some .deferred ∧ after.started = owner.started ++ [opening]

/-- The openings are as they were. -/
theorem behind_of_same (hbegun : owner.closeBegun = true → after.closeBegun = true)
    (hopenings : after.openings = owner.openings) (hstarted : after.started = owner.started) :
    Behind owner after where
  begun := hbegun
  length := by rw [hopenings]
  deferred _ h := by rwa [hopenings] at h
  started := Or.inl hstarted

theorem Behind.refl (owner : WorkerSerialPortOwner) : Behind owner owner :=
  behind_of_same id rfl rfl

theorem release_openings : owner.release.openings = owner.openings := by
  rw [release]
  split <;> rfl

theorem release_started : owner.release.started = owner.started := by
  rw [release]
  split <;> rfl

theorem release_closing : owner.release.closing = owner.closing := by
  rw [release]
  split <;> rfl

theorem closeBegun_iff : owner.closeBegun = true ↔ owner.closing ≠ .notBegun := by
  simp [closeBegun]

theorem behind_closing {phase : OwnerClose} (hphase : phase ≠ .notBegun) :
    Behind owner { owner with closing := phase } :=
  behind_of_same (fun _ => closeBegun_iff.mpr hphase) rfl rfl

theorem behind_closeEnds : Behind owner owner.closeEnds := by
  apply behind_of_same
  · intro _
    rw [closeBegun_iff, closeEnds, release_closing]
    exact OwnerClose.noConfusion
  · exact release_openings
  · exact release_started

theorem behind_closeFails : Behind owner owner.closeFails := by
  rw [closeFails]
  split
  · apply behind_of_same
    · intro _
      rw [closeBegun_iff, release_closing]
      exact OwnerClose.noConfusion
    · exact release_openings
    · exact release_started
  · exact behind_closing OwnerClose.noConfusion

theorem behind_closeChannel {phase : OwnerClose} (hphase : owner.closeBegun = true →
    phase ≠ .notBegun) (channel : ℕ) :
    Behind owner (closeChannel { owner with closing := phase } channel) := by
  rw [closeChannel]
  split
  · exact behind_of_same (fun h => closeBegun_iff.mpr (hphase h)) rfl rfl
  · exact behind_of_same (fun h => closeBegun_iff.mpr (hphase h)) rfl rfl

theorem behind_closeResumes : Behind owner owner.closeResumes := by
  rw [closeResumes]
  split
  · split
    · rw [closeOpened]
      split
      · exact behind_closeChannel (fun _ => OwnerClose.noConfusion) _
      split
      · split
        · exact behind_of_same (fun _ => closeBegun_iff.mpr OwnerClose.noConfusion) rfl rfl
        · exact behind_closeFails
      · exact behind_closeEnds
    · exact behind_closeEnds
    · exact Behind.refl owner
  · split
    · exact behind_closeFails
    · exact behind_closeEnds
    · exact Behind.refl owner
  · exact behind_closeEnds
  · exact behind_closeFails
  · exact Behind.refl owner

/-- The native calls of openings, and what settles them, admit no opening. -/
theorem behind_openingStarts (opening : ℕ) : Behind owner (owner.openingStarts opening) := by
  rw [openingStarts]
  split
  · next hdeferred =>
      have hset : ∀ status : NativeOpening, status ≠ .deferred →
          Behind owner { owner with
            started := owner.started ++ [opening]
            openings := owner.openings.set opening status } := by
        intro status hstatus
        constructor
        · exact id
        · exact List.length_set
        · intro other hother
          by_cases hsame : opening = other
          · rw [← hsame]
            exact hdeferred
          · rwa [List.getElem?_set_ne hsame] at hother
        · refine Or.inr ⟨opening, hdeferred, ?_, rfl⟩
          intro hstill
          rw [List.getElem?_set_self' , hdeferred] at hstill
          exact hstatus (Option.some.inj hstill)
      simp only
      split
      · have hpending := hset .pending NativeOpening.noConfusion
        exact ⟨hpending.begun, hpending.length, hpending.deferred, hpending.started⟩
      · exact hset (.settled false) NativeOpening.noConfusion
  · exact Behind.refl owner

theorem behind_nativeOpens (opened : Bool) : Behind owner (owner.nativeOpens opened) := by
  rw [nativeOpens]
  split
  · next opening hnative =>
      constructor
      · exact id
      · exact List.length_set
      · intro other hother
        by_cases hsame : opening = other
        · rw [← hsame] at hother
          rw [List.getElem?_set_self'] at hother
          cases hcell : owner.openings[opening]? with
          | none =>
              rw [hcell] at hother
              cases hother
          | some status =>
              rw [hcell] at hother
              cases hother
        · rwa [List.getElem?_set_ne hsame] at hother
      · exact Or.inl rfl
  · exact Behind.refl owner

/-- Once the close has begun, no call of `open` gets past its first check. -/
theorem behind_step (hbegun : owner.closeBegun = true) (event : OwnerEvent) :
    Behind owner (owner.step event).1 := by
  cases event with
  | openPort =>
      show Behind owner owner.openPort.1
      rw [openPort, hbegun, Bool.or_true, if_pos rfl]
      exact Behind.refl owner
  | attach =>
      show Behind owner owner.attach.1
      rw [attach]
      split
      · exact Behind.refl owner
      · exact behind_of_same id rfl rfl
  | reopenExpectedReset check =>
      show Behind owner (owner.reopenExpectedReset check).1
      rw [reopenExpectedReset]
      split
      · exact Behind.refl owner
      · rw [hbegun, Bool.or_true, Bool.true_or, Bool.true_or, if_pos rfl]
        exact Behind.refl owner
  | close =>
      show Behind owner owner.close
      rw [close, if_pos hbegun]
      exact Behind.refl owner
  | closeChannel channel =>
      exact behind_closeChannel (fun h => closeBegun_iff.mp h) channel
  | openingStarts opening => exact behind_openingStarts opening
  | nativeOpens opened => exact behind_nativeOpens opened
  | channelCleaned channel errors =>
      show Behind owner (owner.channelCleaned channel errors)
      rw [channelCleaned]
      split
      · split
        · exact behind_of_same id rfl rfl
        · exact behind_of_same id rfl rfl
      · exact Behind.refl owner
  | nativeCloses closed =>
      show Behind owner (owner.nativeCloses closed)
      rw [nativeCloses]
      split
      · next closer hnative =>
          cases closer with
          | owner => exact behind_of_same (fun _ => closeBegun_iff.mpr OwnerClose.noConfusion) rfl rfl
          | channel channel =>
              rw [closerGoesOn]
              split
              · exact behind_of_same id rfl rfl
              · exact behind_of_same id rfl rfl
      · exact Behind.refl owner
  | reopenResumes check =>
      show Behind owner (owner.reopenResumes check)
      rw [reopenResumes]
      split
      · split
        · exact behind_of_same id rfl rfl
        · have hagain : closeBegun { owner with reopening := .done } = true := hbegun
          rw [reopenOn, hagain, Bool.or_true, Bool.true_or, if_pos rfl]
          exact behind_of_same id rfl rfl
        · exact Behind.refl owner
      · exact Behind.refl owner
  | closeResumes => exact behind_closeResumes

/-! ## Runs -/

theorem sound_run {history : List (OwnerEvent × OwnerAnswer)} {owner : WorkerSerialPortOwner}
    (hrun : portOwnerMachine.Run history owner) : Sound owner ∧ Given owner := by
  apply hrun.invariant (P := fun _ owner => Sound owner ∧ Given owner)
  · exact ⟨sound_fresh, fun h => absurd rfl h⟩
  · intro earlier before event _ hbefore
    exact ⟨sound_step hbefore.1 hbefore.2 event, given_step hbefore.2 event⟩

/-- From where the close has begun, all that can start is the opening that was to come. -/
structure StartsNoMore (owner reached : WorkerSerialPortOwner) : Prop where
  begun : reached.closeBegun = true
  length : reached.openings.length = owner.openings.length
  started : (reached.started = owner.started ∧ ∀ opening : ℕ,
      reached.openings[opening]? = some .deferred → owner.openings[opening]? = some .deferred) ∨
    ((∀ opening : ℕ, reached.openings[opening]? ≠ some .deferred) ∧ ∃ opening,
      owner.maybeOpening = some opening ∧ owner.openings[opening]? = some .deferred ∧
        reached.started = owner.started ++ [opening])

theorem StartsNoMore.step (hsound : Sound owner) {reached : WorkerSerialPortOwner}
    (hno : StartsNoMore owner reached) (event : OwnerEvent) :
    StartsNoMore owner (reached.step event).1 := by
  have hbehind := behind_step hno.begun event
  have hcurrent : ∀ opening : ℕ, owner.openings[opening]? = some .deferred →
      owner.maybeOpening = some opening := by
    intro opening hdeferred
    rcases hsound.knows.under opening _ hdeferred with ⟨opened, hdone⟩ | hunder
    · cases hdone
    · exact hunder.current
  constructor
  · exact hbehind.begun hno.begun
  · rw [hbehind.length, hno.length]
  · rcases hno.started with ⟨hsame, hdeferred⟩ | ⟨hnone, opening, hopening, hwas, hstarted⟩
    · rcases hbehind.started with hkept | ⟨opening, hbefore, hafter, hadded⟩
      · exact Or.inl ⟨hkept.trans hsame, fun other h => hdeferred other (hbehind.deferred other h)⟩
      · have hwas := hdeferred opening hbefore
        refine Or.inr ⟨?_, opening, hcurrent opening hwas, hwas, by rw [hadded, hsame]⟩
        intro other hother
        -- only one opening was to come
        have hsecond := hcurrent other (hdeferred other (hbehind.deferred other hother))
        rw [hcurrent opening hwas, Option.some.injEq] at hsecond
        rw [← hsecond] at hother
        exact hafter hother
    · refine Or.inr ⟨fun other h => hnone other (hbehind.deferred other h), opening, hopening,
        hwas, ?_⟩
      rcases hbehind.started with hkept | ⟨second, hbefore, -, -⟩
      · exact hkept.trans hstarted
      · exact absurd hbefore (hnone second)

end WorkerSerialPortOwner

open WorkerSerialPortOwner

/-- The lock is released at most once, and only where the port is closed and no opening is under
way or to come; it stays so.  Once `close` has begun no call of `open` is admitted: the only native
opening that can still start is one that an `open` before it had put off by a turn. -/
theorem portOwner_releases {history : List (OwnerEvent × OwnerAnswer)}
    {owner : WorkerSerialPortOwner} (hrun : portOwnerMachine.Run history owner) :
    owner.releases ≤ 1 ∧
      (owner.releases = 1 ↔ owner.released = true) ∧
      (owner.released = true → owner.native = .closed ∧ owner.AllSettled) ∧
      ∀ later reached, owner.closeBegun = true →
        portOwnerMachine.Continues history owner later reached →
        reached.openings.length = owner.openings.length ∧
          (reached.started = owner.started ∨ ∃ opening,
            owner.maybeOpening = some opening ∧
              owner.openings[opening]? = some .deferred ∧
              reached.started = owner.started ++ [opening]) := by
  obtain ⟨hsound, -⟩ := sound_run hrun
  have hreleases := hsound.closes.releases
  refine ⟨?_, ?_, fun h => (hsound.closes.released h).2, ?_⟩
  · rw [hreleases]
    split
    · exact Nat.le_refl 1
    · exact Nat.zero_le 1
  · rw [hreleases]
    cases owner.released with
    | false => exact ⟨fun h => absurd h Nat.zero_ne_one, fun h => by cases h⟩
    | true => exact ⟨fun _ => rfl, fun _ => rfl⟩
  · intro later reached hbegun hcontinues
    have hno : StartsNoMore owner reached := by
      apply hcontinues.preserves (P := fun _ reached => StartsNoMore owner reached)
      · exact fun _ _ event _ hbefore => hbefore.step hsound event
      · exact ⟨hbegun, rfl, Or.inl ⟨rfl, fun _ h => h⟩⟩
    refine ⟨hno.length, ?_⟩
    rcases hno.started with ⟨hsame, -⟩ | ⟨-, hone⟩
    · exact Or.inl hsame
    · exact Or.inr hone

/-- An opening put off, a close, and the opening with its late success and the close of the port. -/
theorem portOwner_releases_late :
    (portOwnerMachine.replay [.openPort, .close, .openingStarts 0, .nativeOpens true,
      .closeResumes, .nativeCloses true, .closeResumes]).2.releases ≤ 1 :=
  (portOwner_releases (portOwnerMachine.run_replay _
    (portOwnerMachine.admitsAll_of_forall (fun _ _ _ => trivial) _ _))).1

/-- A native opening starts behind the beginning of `close`. -/
theorem portOwner_opens_late :
    ¬ ∀ history owner, portOwnerMachine.Run history owner → ∀ later reached,
      owner.closeBegun = true → portOwnerMachine.Continues history owner later reached →
      reached.started = owner.started := by
  intro hnever
  have hbegun : portOwnerMachine.Run _ _ := portOwnerMachine.run_replay [.openPort, .close]
    (portOwnerMachine.admitsAll_of_forall (fun _ _ _ => trivial) _ _)
  have hlate := hnever _ _ hbegun _ _ rfl
    (portOwnerMachine.continues_replayFrom _ [.openingStarts 0]
      (portOwnerMachine.admitsAll_of_forall (fun _ _ _ => trivial) _ _))
  exact absurd hlate (by decide)

end WorkGate
