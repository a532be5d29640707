/-
# Write credit of the serial channel (web/worker-serial-credit.ts)

A writer reserves bytes before it writes them, and the peer reports how many it has consumed.
Reservations that find the window full wait; a report or the end of the session wakes the one
that waits.  A woken call runs on later, so anything may happen in between, and it then looks at
the window as if it came for the first time.
-/

import WorkGate.Library.JsonText
import WorkGate.Library.Past
import WorkGate.Worker.Admission

namespace WorkGate

open WorkGate.Library

/-- `SerialFailure`: its message is "Worker Serial " and the category. -/
structure SerialFailure where
  category : String
  deriving DecidableEq

/-- `serialFailure`. -/
def serialFailure (category : String) : SerialFailure := ⟨category⟩

/-- A safe integer that is not negative.  No other number passes the checks made beside this one. -/
def maybeSafeNatural : JsNumber → Option ℕ
  | .natural value => if value ≤ maximumSafeInteger then some value else none
  | .other _ => none

theorem maybeSafeNatural_eq_some {number : JsNumber} {value : ℕ}
    (h : maybeSafeNatural number = some value) : number = .natural value := by
  cases number with
  | other text => cases h
  | natural found =>
      rw [maybeSafeNatural] at h
      split at h
      · cases h
        rfl
      · cases h

/-- `SERIAL_RECEIVE_WINDOW`. -/
def serialReceiveWindow : ℕ := 2048

/-- `SERIAL_WRITE_CHUNK`. -/
def serialWriteChunk : ℕ := 1024

/-- The greatest value of a cumulative counter. -/
def maximumSerialCounter : ℕ := 0xffffffff

/-- `reserveSerialBytes`. -/
def reserveSerialBytes (sent received : ℕ) (wanted : JsNumber) : Except SerialFailure ℕ :=
  match maybeSafeNatural wanted with
  | none => .error (serialFailure "credit_counter")
  | some wanted =>
      if sent > maximumSafeInteger ∨ received > maximumSafeInteger ∨ sent < received ∨
          sent - received > serialReceiveWindow ∨ wanted = 0 ∨ sent > maximumSerialCounter ∨
          wanted > maximumSerialCounter - sent then
        .error (serialFailure "credit_counter")
      else
        .ok (min wanted (min serialWriteChunk (serialReceiveWindow - (sent - received))))

theorem reserveSerialBytes_eq_ok {sent received count : ℕ} {wanted : JsNumber}
    (h : reserveSerialBytes sent received wanted = .ok count) :
    ∃ value, wanted = .natural value ∧ count ≤ value ∧ count ≤ serialWriteChunk ∧
      sent + count ≤ received + serialReceiveWindow ∧ sent + count ≤ maximumSerialCounter := by
  rw [reserveSerialBytes] at h
  split at h
  · cases h
  next value hvalue =>
    split at h
    · cases h
    next hchecks =>
      cases h
      refine ⟨value, maybeSafeNatural_eq_some hvalue, ?_, ?_, ?_, ?_⟩
      · exact min_le_left _ _
      · exact (min_le_right _ _).trans (min_le_left _ _)
      · omega
      · omega

/-! ## One session's window -/

/-- `WorkerSerialCredit`.  A wait is named by the call that waits; `woken` lists the waits whose
promise has been resolved and whose call has not run on. -/
structure WorkerSerialCredit where
  sent : ℕ
  received : ℕ
  active : Bool
  cancelled : Bool
  maybeWake : Option ℕ
  woken : List ℕ
  deriving DecidableEq

/-- How far one turn of a waiting loop gets. -/
inductive CreditTurn (α : Type)
  | returns (value : α)
  | throws (failure : SerialFailure)
  | waits
  deriving DecidableEq

namespace WorkerSerialCredit

/-- `new WorkerSerialCredit()`. -/
def fresh : WorkerSerialCredit where
  sent := 0
  received := 0
  active := false
  cancelled := false
  maybeWake := none
  woken := []

/-- `#wake`. -/
def wake (credit : WorkerSerialCredit) : WorkerSerialCredit :=
  { credit with
    maybeWake := none
    woken := credit.maybeWake.toList ++ credit.woken }

/-- `#wait`: the promise of an earlier wait is forgotten. -/
def wait (credit : WorkerSerialCredit) (call : ℕ) : WorkerSerialCredit :=
  { credit with maybeWake := some call }

/-- A woken call runs on. -/
def resumed (credit : WorkerSerialCredit) (call : ℕ) : WorkerSerialCredit :=
  { credit with woken := credit.woken.erase call }

/-- `admit`. -/
def admitSession (credit : WorkerSerialCredit) : Except SerialFailure WorkerSerialCredit :=
  if credit.active || credit.cancelled then .error (serialFailure "credit_session")
  else .ok { credit with active := true }

/-- `acknowledge`. -/
def acknowledge (credit : WorkerSerialCredit) (received : JsValue) :
    Except SerialFailure WorkerSerialCredit :=
  if credit.cancelled then .ok credit
  else if credit.active = false then .error (serialFailure "credit_invalid")
  else match received with
    | .number value =>
      match maybeSafeNatural value with
      | none => .error (serialFailure "credit_invalid")
      | some value =>
          if value ≤ credit.received ∨ value > credit.sent ∨ value > maximumSerialCounter then
            .error (serialFailure "credit_invalid")
          else .ok { credit with received := value }.wake
    | _ => .error (serialFailure "credit_invalid")

/-- `cancel`. -/
def cancel (credit : WorkerSerialCredit) : WorkerSerialCredit :=
  { credit with cancelled := true }.wake

/-- `#requireActive`. -/
def requireActive (credit : WorkerSerialCredit) : Except SerialFailure Unit :=
  if credit.active = false ∨ credit.cancelled = true then .error (serialFailure "credit_closed")
  else .ok ()

/-- One turn of the loop of `reserve`. -/
def reserve (credit : WorkerSerialCredit) (call : ℕ) (wanted : JsNumber) :
    WorkerSerialCredit × CreditTurn ℕ :=
  match credit.requireActive with
  | .error failure => (credit, .throws failure)
  | .ok () =>
    match reserveSerialBytes credit.sent credit.received wanted with
    | .error failure => (credit, .throws failure)
    | .ok 0 => (credit.wait call, .waits)
    | .ok (count + 1) => ({ credit with sent := credit.sent + (count + 1) }, .returns (count + 1))

/-- One turn of the loop of `consumed`. -/
def consumed (credit : WorkerSerialCredit) (call : ℕ) : WorkerSerialCredit × CreditTurn Unit :=
  match credit.requireActive with
  | .error failure => (credit, .throws failure)
  | .ok () =>
      if credit.received = credit.sent then (credit, .returns ())
      else (credit.wait call, .waits)

end WorkerSerialCredit

/-! ## What each operation does -/

namespace WorkerSerialCredit

variable {credit after : WorkerSerialCredit} {call count : ℕ}

/-- The counters stay inside the window and the 32 bits they are sent in. -/
structure InWindow (credit : WorkerSerialCredit) : Prop where
  received_le : credit.received ≤ credit.sent
  sent_le : credit.sent ≤ credit.received + serialReceiveWindow
  ceiling : credit.sent ≤ maximumSerialCounter

/-- What no operation undoes: what was received, and the end of the session. -/
structure Advances (credit after : WorkerSerialCredit) : Prop where
  received_le : credit.received ≤ after.received
  cancelled : credit.cancelled = true → after.cancelled = true
  inWindow : credit.InWindow → after.InWindow

theorem Advances.of_eq (hsent : after.sent = credit.sent) (hreceived : after.received = credit.received)
    (hcancelled : credit.cancelled = true → after.cancelled = true) : credit.Advances after where
  received_le := le_of_eq hreceived.symm
  cancelled := hcancelled
  inWindow := fun hwindow => by
    constructor
    · rw [hsent, hreceived]
      exact hwindow.received_le
    · rw [hsent, hreceived]
      exact hwindow.sent_le
    · rw [hsent]
      exact hwindow.ceiling

theorem Advances.trans {last : WorkerSerialCredit} (first : credit.Advances after)
    (second : after.Advances last) : credit.Advances last where
  received_le := first.received_le.trans second.received_le
  cancelled := second.cancelled ∘ first.cancelled
  inWindow := second.inWindow ∘ first.inWindow

theorem advances_refl (credit : WorkerSerialCredit) : credit.Advances credit :=
  Advances.of_eq rfl rfl id

theorem advances_resumed (credit : WorkerSerialCredit) (call : ℕ) :
    credit.Advances (credit.resumed call) :=
  Advances.of_eq rfl rfl id

theorem advances_cancel (credit : WorkerSerialCredit) : credit.Advances credit.cancel :=
  Advances.of_eq rfl rfl fun _ => rfl

theorem requireActive_eq_ok (h : credit.requireActive = .ok ()) :
    credit.active = true ∧ credit.cancelled = false := by
  rw [requireActive] at h
  split at h
  · cases h
  · next hactive =>
      rw [not_or, Bool.not_eq_false, Bool.not_eq_true] at hactive
      exact hactive

theorem advances_admitSession (h : credit.admitSession = .ok after) : credit.Advances after := by
  rw [admitSession] at h
  split at h
  · cases h
  · cases h
    exact Advances.of_eq rfl rfl id

/-- A report is taken only where it raises the count and stays below what was sent. -/
theorem acknowledge_cases {received : JsValue} (h : credit.acknowledge received = .ok after) :
    (credit.cancelled = true ∧ after = credit) ∨
      ∃ value, received = .number (.natural value) ∧ credit.received < value ∧
        value ≤ credit.sent ∧ after = { credit with received := value }.wake := by
  unfold acknowledge at h
  split at h
  · next hcancelled =>
      cases h
      exact .inl ⟨hcancelled, rfl⟩
  split at h
  · cases h
  split at h
  · next number =>
      split at h
      · cases h
      next value hvalue =>
        split at h
        · cases h
        next hchecks =>
          cases h
          rw [maybeSafeNatural_eq_some hvalue]
          exact .inr ⟨value, rfl, by omega, by omega, rfl⟩
  · cases h

theorem advances_acknowledge {received : JsValue} (h : credit.acknowledge received = .ok after) :
    credit.Advances after := by
  obtain ⟨-, rfl⟩ | ⟨value, -, hmore, hsent, rfl⟩ := acknowledge_cases h
  · exact advances_refl _
  · refine ⟨hmore.le, id, ?_⟩
    intro hwindow
    refine ⟨hsent, ?_, hwindow.ceiling⟩
    have hbefore : credit.sent ≤ credit.received + serialReceiveWindow := hwindow.sent_le
    show credit.sent ≤ value + serialReceiveWindow
    omega

/-- What one turn of a reservation can do.  Only a turn that grants changes a counter. -/
theorem reserve_cases {wanted : JsNumber} {turn : CreditTurn ℕ}
    (h : credit.reserve call wanted = (after, turn)) :
    (∃ failure, turn = .throws failure ∧ after = credit) ∨
    (turn = .waits ∧ after = credit.wait call ∧ credit.active = true ∧
      credit.cancelled = false) ∨
    ∃ count value, turn = .returns count ∧ wanted = .natural value ∧ 1 ≤ count ∧
      count ≤ serialWriteChunk ∧ count ≤ value ∧
      credit.sent + count ≤ credit.received + serialReceiveWindow ∧
      credit.sent + count ≤ maximumSerialCounter ∧ credit.cancelled = false ∧
      after = { credit with sent := credit.sent + count } := by
  rw [reserve] at h
  split at h
  · next failure hactive =>
      cases h
      exact .inl ⟨failure, rfl, rfl⟩
  next hactive =>
    obtain ⟨hactive, hcancelled⟩ := requireActive_eq_ok hactive
    split at h
    · next failure hbytes =>
        cases h
        exact .inl ⟨failure, rfl, rfl⟩
    · cases h
      exact .inr (.inl ⟨rfl, rfl, hactive, hcancelled⟩)
    · next count hbytes =>
        cases h
        obtain ⟨value, hwanted, hvalue, hchunk, hwindow, hceiling⟩ :=
          reserveSerialBytes_eq_ok hbytes
        exact .inr (.inr ⟨count + 1, value, rfl, hwanted, by omega, hchunk, hvalue, hwindow,
          hceiling, hcancelled, rfl⟩)

theorem advances_reserve (credit : WorkerSerialCredit) (call : ℕ) (wanted : JsNumber) :
    credit.Advances (credit.reserve call wanted).1 := by
  cases hreserve : credit.reserve call wanted with
  | mk after turn =>
      obtain ⟨-, -, rfl⟩ | ⟨-, rfl, -⟩ | ⟨count, -, -, -, -, -, -, hwindow, hceiling, -, rfl⟩ :=
        reserve_cases hreserve
      · exact advances_refl _
      · exact Advances.of_eq rfl rfl id
      · refine ⟨le_rfl, id, fun hbefore => ⟨?_, hwindow, hceiling⟩⟩
        exact hbefore.received_le.trans (Nat.le_add_right _ _)

theorem consumed_cases {turn : CreditTurn Unit} (h : credit.consumed call = (after, turn)) :
    (∃ failure, turn = .throws failure ∧ after = credit) ∨
    (turn = .waits ∧ after = credit.wait call) ∨
    (turn = .returns () ∧ after = credit ∧ credit.received = credit.sent ∧
      credit.cancelled = false) := by
  rw [consumed] at h
  split at h
  · next failure hactive =>
      cases h
      exact .inl ⟨failure, rfl, rfl⟩
  next hactive =>
    split at h
    · next hall =>
        cases h
        exact .inr (.inr ⟨rfl, rfl, hall, (requireActive_eq_ok hactive).2⟩)
    · cases h
      exact .inr (.inl ⟨rfl, rfl⟩)

theorem advances_consumed (credit : WorkerSerialCredit) (call : ℕ) :
    credit.Advances (credit.consumed call).1 := by
  cases hconsumed : credit.consumed call with
  | mk after turn =>
      obtain ⟨-, -, rfl⟩ | ⟨-, rfl⟩ | ⟨-, rfl, -⟩ := consumed_cases hconsumed
      · exact advances_refl _
      · exact Advances.of_eq rfl rfl id
      · exact advances_refl _

end WorkerSerialCredit

/-! ## Any order of calls -/

/-- A call that waits. -/
inductive CreditCall
  | reserve (wanted : JsNumber)
  | consumed
  deriving DecidableEq

/-- The credit with the calls that wait for it. -/
structure CreditSystem where
  credit : WorkerSerialCredit
  calls : ℕ → Option CreditCall

/-- What happens to the credit.  A call is named by a number no earlier call had. -/
inductive CreditEvent
  | admitSession
  | acknowledge (received : JsValue)
  | reserve (call : ℕ) (wanted : JsNumber)
  | consumed (call : ℕ)
  | resume (call : ℕ)
  | cancel

/-- The call an event begins. -/
def CreditEvent.begins : CreditEvent → Option ℕ
  | .reserve call _ => some call
  | .consumed call => some call
  | _ => none

/-- The call that runs on. -/
def CreditEvent.resumes : CreditEvent → Option ℕ
  | .resume call => some call
  | _ => none

/-- What an event answers. -/
inductive CreditAnswer
  | returned
  | threw (failure : SerialFailure)
  | granted (count : ℕ)
  | waiting
  deriving DecidableEq

namespace CreditSystem

/-- A method that does not wait. -/
def attempt (system : CreditSystem) :
    Except SerialFailure WorkerSerialCredit → CreditSystem × CreditAnswer
  | .ok credit => ({ system with credit := credit }, .returned)
  | .error failure => (system, .threw failure)

/-- The calls after one of them settled or began to wait. -/
def afterTurn (system : CreditSystem) (credit : WorkerSerialCredit) (call : ℕ)
    (waits : Option CreditCall) : CreditSystem where
  credit := credit
  calls := Function.update system.calls call waits

/-- A reservation looks at the window. -/
def reserveTurn (system : CreditSystem) (call : ℕ) (wanted : JsNumber) :
    CreditSystem × CreditAnswer :=
  match system.credit.reserve call wanted with
  | (credit, .returns count) => (system.afterTurn credit call none, .granted count)
  | (credit, .throws failure) => (system.afterTurn credit call none, .threw failure)
  | (credit, .waits) => (system.afterTurn credit call (some (.reserve wanted)), .waiting)

/-- A call of `consumed` looks at the counters. -/
def consumedTurn (system : CreditSystem) (call : ℕ) : CreditSystem × CreditAnswer :=
  match system.credit.consumed call with
  | (credit, .returns ()) => (system.afterTurn credit call none, .returned)
  | (credit, .throws failure) => (system.afterTurn credit call none, .threw failure)
  | (credit, .waits) => (system.afterTurn credit call (some .consumed), .waiting)

/-- One event. -/
def step (system : CreditSystem) : CreditEvent → CreditSystem × CreditAnswer
  | .admitSession => system.attempt system.credit.admitSession
  | .acknowledge received => system.attempt (system.credit.acknowledge received)
  | .cancel => ({ system with credit := system.credit.cancel }, .returned)
  | .reserve call wanted => system.reserveTurn call wanted
  | .consumed call => system.consumedTurn call
  | .resume call =>
      let woken := { system with credit := system.credit.resumed call }
      match system.calls call with
      | some (.reserve wanted) => woken.reserveTurn call wanted
      | some .consumed => woken.consumedTurn call
      | none => (woken, .returned)

end CreditSystem

/-- A credit in use: calls come in any order, and a woken call runs on at any later time. -/
def workerSerialCredit : Machine CreditSystem CreditEvent CreditAnswer where
  init := ⟨.fresh, fun _ => none⟩
  admits := fun history system event =>
    (∀ call ∈ event.begins, ∀ entry ∈ history, call ∉ entry.1.begins) ∧
      ∀ call ∈ event.resumes, call ∈ system.credit.woken
  step := CreditSystem.step

instance (history : List (CreditEvent × CreditAnswer)) (system : CreditSystem)
    (event : CreditEvent) : Decidable (workerSerialCredit.admits history system event) :=
  inferInstanceAs (Decidable ((∀ call ∈ event.begins, ∀ entry ∈ history, call ∉ entry.1.begins) ∧
    ∀ call ∈ event.resumes, call ∈ system.credit.woken))

/-- The events with their answers, newest first. -/
abbrev CreditHistory := List (CreditEvent × CreditAnswer)

/-- The call an entry grants bytes to, and how many. -/
def grantOf : CreditEvent × CreditAnswer → Option (ℕ × ℕ)
  | (.reserve call _, .granted count) => some (call, count)
  | (.resume call, .granted count) => some (call, count)
  | _ => none

/-- The call asked for that many bytes. -/
def Asked (call value : ℕ) (history : CreditHistory) : Prop :=
  ∃ entry ∈ history, entry.1 = .reserve call (.natural value)

/-- A grant is a chunk of what was asked for, made before the session was cancelled. -/
def GrantSound (earlier : CreditHistory) (entry : CreditEvent × CreditAnswer) : Prop :=
  ∀ call count, grantOf entry = some (call, count) →
    1 ≤ count ∧ count ≤ 1024 ∧ (∃ value, Asked call value (entry :: earlier) ∧ count ≤ value) ∧
      ∀ past ∈ earlier, past.1 ≠ .cancel

/-- What holds of a credit after any run. -/
structure CreditSafe (history : CreditHistory) (system : CreditSystem) : Prop where
  received_le : system.credit.received ≤ system.credit.sent
  window : system.credit.sent - system.credit.received ≤ 2048
  ceiling : system.credit.sent ≤ 2 ^ 32 - 1
  grants : Always GrantSound history
  rejected : ∀ received failure,
    (workerSerialCredit.step system (.acknowledge received)).2 = .threw failure →
      (workerSerialCredit.step system (.acknowledge received)).1 = system
  grows : ∀ later reached, workerSerialCredit.Continues history system later reached →
    system.credit.received ≤ reached.credit.received

section Runs

variable {history : CreditHistory} {system : CreditSystem} {event : CreditEvent}

theorem advances_attempt {result : Except SerialFailure WorkerSerialCredit}
    (h : ∀ after, result = .ok after → system.credit.Advances after) :
    system.credit.Advances (system.attempt result).1.credit := by
  cases result with
  | error failure => exact WorkerSerialCredit.advances_refl _
  | ok after => exact h after rfl

theorem credit_reserveTurn (system : CreditSystem) (call : ℕ) (wanted : JsNumber) :
    (system.reserveTurn call wanted).1.credit = (system.credit.reserve call wanted).1 := by
  rw [CreditSystem.reserveTurn]
  split <;> next hturn => rw [hturn]; rfl

theorem credit_consumedTurn (system : CreditSystem) (call : ℕ) :
    (system.consumedTurn call).1.credit = (system.credit.consumed call).1 := by
  rw [CreditSystem.consumedTurn]
  split <;> next hturn => rw [hturn]; rfl

/-- No event undoes what was received or the end of the session. -/
theorem advances_step (system : CreditSystem) (event : CreditEvent) :
    system.credit.Advances (system.step event).1.credit := by
  cases event with
  | admitSession => exact advances_attempt fun after h => WorkerSerialCredit.advances_admitSession h
  | acknowledge received =>
      exact advances_attempt fun after h => WorkerSerialCredit.advances_acknowledge h
  | cancel => exact WorkerSerialCredit.advances_cancel _
  | reserve call wanted =>
      rw [CreditSystem.step, credit_reserveTurn]
      exact WorkerSerialCredit.advances_reserve _ _ _
  | consumed call =>
      rw [CreditSystem.step, credit_consumedTurn]
      exact WorkerSerialCredit.advances_consumed _ _
  | resume call =>
      have hresumed := WorkerSerialCredit.advances_resumed system.credit call
      simp only [CreditSystem.step]
      split
      · rw [credit_reserveTurn]
        exact hresumed.trans (WorkerSerialCredit.advances_reserve _ _ _)
      · rw [credit_consumedTurn]
        exact hresumed.trans (WorkerSerialCredit.advances_consumed _ _)
      · exact hresumed

/-- What the history says about the credit: a cancelled session stays cancelled, and whoever waits
asked for what it waits for. -/
structure CreditTracked (history : CreditHistory) (system : CreditSystem) : Prop where
  inWindow : system.credit.InWindow
  cancelled : ∀ past ∈ history, past.1 = .cancel → system.credit.cancelled = true
  waiting : ∀ call wanted, system.calls call = some (.reserve wanted) →
    ∃ entry ∈ history, entry.1 = .reserve call wanted

/-- A turn of a reservation leaves only that reservation waiting. -/
theorem calls_reserveTurn {call other : ℕ} {wanted found : JsNumber}
    (h : (system.reserveTurn call wanted).1.calls other = some (.reserve found)) :
    (other = call ∧ found = wanted) ∨ system.calls other = some (.reserve found) := by
  rw [CreditSystem.reserveTurn] at h
  by_cases hother : other = call
  · subst hother
    split at h
    · simp [CreditSystem.afterTurn] at h
    · simp [CreditSystem.afterTurn] at h
    · simp only [CreditSystem.afterTurn, Function.update_self, Option.some.injEq,
        CreditCall.reserve.injEq] at h
      exact .inl ⟨rfl, h.symm⟩
  · right
    split at h <;> simpa [CreditSystem.afterTurn, Function.update_of_ne hother] using h

theorem calls_consumedTurn {call other : ℕ} {found : JsNumber}
    (h : (system.consumedTurn call).1.calls other = some (.reserve found)) :
    system.calls other = some (.reserve found) := by
  rw [CreditSystem.consumedTurn] at h
  by_cases hother : other = call
  · subst hother
    split at h <;> simp [CreditSystem.afterTurn] at h
  · split at h <;> simpa [CreditSystem.afterTurn, Function.update_of_ne hother] using h

/-- Whoever waits after an event waited before or has just begun. -/
theorem waiting_step {call : ℕ} {wanted : JsNumber}
    (h : (system.step event).1.calls call = some (.reserve wanted)) :
    event = .reserve call wanted ∨ system.calls call = some (.reserve wanted) := by
  cases event with
  | admitSession =>
      rw [CreditSystem.step] at h
      cases hadmitted : system.credit.admitSession <;> rw [hadmitted] at h <;> exact .inr h
  | acknowledge received =>
      rw [CreditSystem.step] at h
      cases hadmitted : system.credit.acknowledge received <;> rw [hadmitted] at h <;> exact .inr h
  | cancel => exact .inr h
  | reserve begun asked =>
      obtain ⟨rfl, rfl⟩ | hbefore := calls_reserveTurn h
      · exact .inl rfl
      · exact .inr hbefore
  | consumed begun => exact .inr (calls_consumedTurn h)
  | resume woken =>
      right
      simp only [CreditSystem.step] at h
      split at h
      · next asked hasked =>
          obtain ⟨rfl, rfl⟩ | hbefore := calls_reserveTurn h
          · exact hasked
          · exact hbefore
      · have hbefore := calls_consumedTurn h
        exact hbefore
      · exact h

theorem CreditTracked.step (htracked : CreditTracked history system) (event : CreditEvent) :
    CreditTracked ((event, (system.step event).2) :: history) (system.step event).1 := by
  have hadvances := advances_step system event
  constructor
  · exact hadvances.inWindow htracked.inWindow
  · intro past hpast hcancel
    rcases List.mem_cons.mp hpast with rfl | hpast
    · obtain rfl : event = .cancel := hcancel
      rfl
    · exact hadvances.cancelled (htracked.cancelled past hpast hcancel)
  · intro call wanted hcall
    rcases waiting_step hcall with rfl | hbefore
    · exact ⟨_, List.mem_cons_self, rfl⟩
    · obtain ⟨entry, hentry, hasked⟩ := htracked.waiting call wanted hbefore
      exact ⟨entry, List.mem_cons_of_mem _ hentry, hasked⟩

theorem creditTracked_of_run (hrun : workerSerialCredit.Run history system) :
    CreditTracked history system := by
  refine Machine.Run.invariant (P := CreditTracked)
    ⟨⟨le_rfl, Nat.zero_le _, Nat.zero_le _⟩, ?_, ?_⟩ ?_ hrun
  · exact fun past hpast => absurd hpast List.not_mem_nil
  · intro call wanted hcall
    cases hcall
  · intro earlier before event _ htracked
    exact htracked.step event

/-- A turn that grants, by what it was asked for. -/
theorem granted_reserveTurn {call count : ℕ} {wanted : JsNumber}
    (h : (system.reserveTurn call wanted).2 = .granted count) :
    ∃ value, wanted = .natural value ∧ 1 ≤ count ∧ count ≤ serialWriteChunk ∧ count ≤ value ∧
      system.credit.cancelled = false := by
  rw [CreditSystem.reserveTurn] at h
  split at h
  · next after granted hturn =>
      cases h
      obtain ⟨_, hthrows, -⟩ | ⟨hwaits, -⟩ | ⟨found, value, hfound, hwanted, hpositive, hchunk,
        hvalue, -, -, hcancelled, -⟩ := WorkerSerialCredit.reserve_cases hturn
      · cases hthrows
      · cases hwaits
      · cases hfound
        exact ⟨value, hwanted, hpositive, hchunk, hvalue, hcancelled⟩
  · cases h
  · cases h

theorem granted_consumedTurn {call count : ℕ} :
    (system.consumedTurn call).2 ≠ .granted count := by
  rw [CreditSystem.consumedTurn]
  split <;> exact fun h => by cases h

theorem grantSound_step (htracked : CreditTracked history system) (event : CreditEvent) :
    GrantSound history (event, (system.step event).2) := by
  intro call count hgrant
  -- A grant is a turn of a reservation whose call asked for the bytes now or earlier.
  have hturn : ∃ wanted, (∃ entry ∈ (event, (system.step event).2) :: history,
      entry.1 = .reserve call wanted) ∧
      ∃ turn : CreditSystem, turn.credit.cancelled = system.credit.cancelled ∧
        (turn.reserveTurn call wanted).2 = .granted count := by
    cases event with
    | admitSession => cases hgrant
    | acknowledge received => cases hgrant
    | cancel => cases hgrant
    | consumed begun => cases hgrant
    | reserve begun wanted =>
        cases hanswer : (system.step (.reserve begun wanted)).2 with
        | granted found =>
            rw [hanswer] at hgrant
            cases hgrant
            exact ⟨wanted, ⟨_, List.mem_cons_self, rfl⟩, system, rfl, hanswer⟩
        | returned => rw [hanswer] at hgrant; cases hgrant
        | threw failure => rw [hanswer] at hgrant; cases hgrant
        | waiting => rw [hanswer] at hgrant; cases hgrant
    | resume woken =>
        cases hanswer : (system.step (.resume woken)).2 with
        | granted found =>
            rw [hanswer] at hgrant
            cases hgrant
            simp only [CreditSystem.step] at hanswer
            split at hanswer
            · next wanted hwanted =>
                obtain ⟨entry, hentry, hasked⟩ := htracked.waiting _ _ hwanted
                exact ⟨wanted, ⟨entry, List.mem_cons_of_mem _ hentry, hasked⟩,
                  ⟨system.credit.resumed call, system.calls⟩, rfl, hanswer⟩
            · exact absurd hanswer granted_consumedTurn
            · cases hanswer
        | returned => rw [hanswer] at hgrant; cases hgrant
        | threw failure => rw [hanswer] at hgrant; cases hgrant
        | waiting => rw [hanswer] at hgrant; cases hgrant
  obtain ⟨wanted, ⟨entry, hentry, hasked⟩, turn, hcancelled, hgranted⟩ := hturn
  obtain ⟨value, rfl, hpositive, hchunk, hvalue, hopen⟩ := granted_reserveTurn hgranted
  refine ⟨hpositive, hchunk, ⟨value, ⟨entry, hentry, hasked⟩, hvalue⟩, ?_⟩
  intro past hpast hcancel
  have hclosed := htracked.cancelled past hpast hcancel
  rw [hcancelled, hclosed] at hopen
  cases hopen

theorem received_le_of_continues {later : CreditHistory} {reached : CreditSystem}
    (hcontinues : workerSerialCredit.Continues history system later reached) :
    system.credit.received ≤ reached.credit.received := by
  refine Machine.Continues.preserves
    (P := fun _ after => system.credit.received ≤ after.credit.received) ?_ hcontinues le_rfl
  intro _ before event _ hbefore
  exact hbefore.trans (advances_step before event).received_le

/-- A report that is refused leaves everything as it was. -/
theorem acknowledge_rejected {received : JsValue} {failure : SerialFailure}
    (h : (system.step (.acknowledge received)).2 = .threw failure) :
    (system.step (.acknowledge received)).1 = system := by
  rw [CreditSystem.step] at h ⊢
  cases hresult : system.credit.acknowledge received with
  | error _ => rfl
  | ok after =>
      rw [hresult] at h
      cases h

/-- The write credit of a session is safe in any order of reservations, reports and the end. -/
theorem serialCredit_safe (hrun : workerSerialCredit.Run history system) :
    CreditSafe history system := by
  have htracked := creditTracked_of_run hrun
  constructor
  · exact htracked.inWindow.received_le
  · exact Nat.sub_le_of_le_add (Nat.add_comm _ _ ▸ htracked.inWindow.sent_le)
  · exact htracked.inWindow.ceiling
  · refine Machine.Run.always ?_ hrun
    intro earlier before event hbefore _
    exact grantSound_step (creditTracked_of_run hbefore) event
  · exact fun received failure => acknowledge_rejected
  · exact fun later reached => received_le_of_continues

end Runs

/-- Two chunks fill the window, the third reservation waits until the peer has consumed one, and
the fourth is woken by the end of the session. -/
def fullWindowEvents : List CreditEvent :=
  [.admitSession, .reserve 1 (.natural 3000), .reserve 2 (.natural 1976), .reserve 3 (.natural 2000),
    .acknowledge (.number (.natural 1024)), .resume 3, .reserve 4 (.natural 1), .cancel,
    .resume 4]

theorem fullWindow_safe :
    CreditSafe (workerSerialCredit.replay fullWindowEvents).1
      (workerSerialCredit.replay fullWindowEvents).2 :=
  serialCredit_safe (Machine.run_replay _ (by decide))

end WorkGate
