/-
# What the writer of the serial channel guarantees (web/webserial-worker-port.ts)

The records on the port are whole and numbered but for the last one, every accepted send is settled
once, and one that succeeds was written and consumed.  A greeting is the exception: it is written
before there is credit, and its send does not wait for the peer.
-/

import WorkGate.Serial.ChannelWriting

namespace WorkGate

open WorkGate.Library WorkGate.Library.JsonText

variable {sha256 : List UInt8 → List UInt8}

namespace WorkerSerialChannel

variable {channel after : WorkerSerialChannel}

/-! ## What no event takes back -/

theorem Grows.refl (channel : WorkerSerialChannel) : Grows channel channel :=
  ⟨List.prefix_refl _, List.prefix_refl _, Nat.le_refl _, id⟩

theorem Grows.trans {between : WorkerSerialChannel} (hfirst : Grows channel between)
    (hsecond : Grows between after) : Grows channel after :=
  ⟨hfirst.begun.trans hsecond.begun, hfirst.written.trans hsecond.written,
    hfirst.received.trans hsecond.received, hsecond.writeFailed ∘ hfirst.writeFailed⟩

theorem WriterTurn.grows (hturn : WriterTurn channel after) : Grows channel after :=
  ⟨hturn.begun ▸ List.prefix_refl _, hturn.written, hturn.received ▸ Nat.le_refl _,
    fun h => hturn.writeFailed.trans h⟩

theorem grows_recordFails (send : ℕ) (failure : SerialFailure) :
    Grows channel (channel.recordFails send failure) :=
  ⟨List.prefix_refl _, List.prefix_refl _, Nat.le_refl _, fun _ => rfl⟩

theorem grows_drainTurn (channel : WorkerSerialChannel) : Grows channel channel.drainTurn := by
  rw [drainTurn]
  split
  · exact ⟨List.prefix_refl _, List.prefix_refl _, Nat.le_refl _, id⟩
  split
  · exact ⟨List.prefix_refl _, List.prefix_refl _, Nat.le_refl _, id⟩
  simp only
  split
  · exact ⟨List.prefix_refl _, List.prefix_refl _, Nat.le_refl _, fun _ => rfl⟩
  · exact ⟨List.prefix_append _ _, List.prefix_refl _, Nat.le_refl _, id⟩

theorem grows_drainStep (awaited : AwaitedRecord) (event : ChannelEvent) :
    Grows channel (channel.drainStep awaited event) := by
  unfold drainStep
  split
  · split
    · exact ⟨List.prefix_refl _, List.prefix_refl _, Nat.le_refl _, id⟩
    · exact Grows.refl _
  · split
    · exact Grows.refl _
    · refine Grows.trans ?_ (grows_drainTurn _)
      exact ⟨List.prefix_refl _, List.prefix_refl _, Nat.le_refl _, id⟩
    · exact grows_recordFails _ _
  · exact Grows.refl _

theorem grows_send (frame : List (CodeUnits × JsValue)) : Grows channel (channel.send frame).1 := by
  rw [send]
  split
  · exact ⟨List.prefix_refl _, List.prefix_refl _, Nat.le_refl _, id⟩
  · simp only
    split
    · exact ⟨List.prefix_refl _, List.prefix_refl _, Nat.le_refl _, id⟩
    · refine Grows.trans ?_ (grows_drainTurn _)
      exact ⟨List.prefix_refl _, List.prefix_refl _, Nat.le_refl _, id⟩

theorem grows_writer (sha256 : List UInt8 → List UInt8) (event : ChannelEvent) :
    Grows channel ((channel.maybeWriter.map fun writer =>
      channel.writerStep sha256 writer event).getD channel) := by
  cases channel.maybeWriter with
  | none => exact Grows.refl _
  | some writer => exact (writerTurn_writerStep sha256 channel writer event).grows

theorem grows_drain (event : ChannelEvent) :
    Grows channel ((channel.maybeAwaited.map fun awaited =>
      channel.drainStep awaited event).getD channel) := by
  cases channel.maybeAwaited with
  | none => exact Grows.refl _
  | some awaited => exact grows_drainStep awaited event

/-- What was written stays written, and what was consumed stays consumed. -/
theorem grows_step (sha256 : List UInt8 → List UInt8) (event : ChannelEvent) :
    Grows channel (channel.step sha256 event).1 := by
  cases event with
  | send frame => exact grows_send frame
  | admitReceiveCredit =>
      rw [step]
      cases hcredit : channel.credit.admitSession with
      | error failure => exact Grows.refl _
      | ok credit =>
          exact ⟨List.prefix_refl _, List.prefix_refl _,
            (WorkerSerialCredit.advances_admitSession hcredit).received_le, id⟩
  | receiveCredit received =>
      rw [step]
      cases hcredit : channel.credit.acknowledge received with
      | error failure => exact Grows.refl _
      | ok credit =>
          exact ⟨List.prefix_refl _, List.prefix_refl _,
            (WorkerSerialCredit.advances_acknowledge hcredit).received_le, id⟩
  | abortRecord => exact ⟨List.prefix_refl _, List.prefix_refl _, Nat.le_refl _, fun _ => rfl⟩
  | close =>
      rw [step, close]
      split
      · exact Grows.refl _
      · exact ⟨List.prefix_refl _, List.prefix_refl _, Nat.le_refl _, fun _ => rfl⟩
  | timedOut => exact grows_drain .timedOut
  | drainResumes => exact grows_drain .drainResumes
  | encoded => exact grows_writer sha256 .encoded
  | resumed => exact grows_writer sha256 .resumed
  | reserved => exact grows_writer sha256 .reserved
  | portTakes count => exact grows_writer sha256 (.portTakes count)
  | writeResolved => exact grows_writer sha256 .writeResolved
  | writeRejected => exact grows_writer sha256 .writeRejected
  | consumed => exact grows_writer sha256 .consumed

/-! ## Sequence numbers -/

/-- The records taken up are numbered, and the counter is at the last number. -/
structure Counted (channel : WorkerSerialChannel) : Prop where
  numbered : Numbered 0 channel.begun
  sequence : channel.sequence = (channel.begun.filter fun record => !record.hello).length

theorem Counted.of_eq (hcounted : Counted channel) (hbegun : after.begun = channel.begun)
    (hsequence : after.sequence = channel.sequence) : Counted after := by
  constructor
  · rw [hbegun]
    exact hcounted.numbered
  · rw [hsequence, hbegun]
    exact hcounted.sequence

theorem counted_takeUp (hcounted : Counted channel) (next : PendingWrite) :
    Counted (channel.takeUp next) := by
  rw [takeUp]
  by_cases hhello : isHello next.frame = true
  · simp only [if_pos hhello]
    constructor
    · apply numbered_concat hcounted.numbered
      simp [hhello]
    · simp only [List.filter_append, hhello]
      simpa [hhello] using hcounted.sequence
  · simp only [if_neg hhello]
    constructor
    · apply numbered_concat hcounted.numbered
      simp [hhello, hcounted.sequence]
    · simp [hhello, List.filter_append, hcounted.sequence]

theorem counted_drainTurn (hcounted : Counted channel) : Counted channel.drainTurn := by
  rw [drainTurn]
  split
  · exact hcounted.of_eq rfl rfl
  split
  · exact hcounted.of_eq rfl rfl
  simp only
  split
  · exact hcounted.of_eq rfl rfl
  · apply counted_takeUp
    exact hcounted.of_eq rfl rfl

/-- Numbers are given where a record is taken up, and nowhere else. -/
theorem counted_step (sha256 : List UInt8 → List UInt8) (hcounted : Counted channel)
    (event : ChannelEvent) : Counted (channel.step sha256 event).1 := by
  have hwriter : ∀ event, Counted ((channel.maybeWriter.map fun writer =>
      channel.writerStep sha256 writer event).getD channel) := by
    intro event
    cases channel.maybeWriter with
    | none => exact hcounted
    | some writer =>
        have hturn := writerTurn_writerStep sha256 channel writer event
        exact hcounted.of_eq hturn.begun hturn.sequence
  have hdrain : ∀ event, Counted ((channel.maybeAwaited.map fun awaited =>
      channel.drainStep awaited event).getD channel) := by
    intro event
    cases channel.maybeAwaited with
    | none => exact hcounted
    | some awaited =>
        show Counted (channel.drainStep awaited event)
        unfold drainStep
        split
        · split
          · exact hcounted.of_eq rfl rfl
          · exact hcounted
        · split
          · exact hcounted
          · apply counted_drainTurn
            exact hcounted.of_eq rfl rfl
          · exact hcounted.of_eq rfl rfl
        · exact hcounted
  cases event with
  | send frame =>
      show Counted (channel.send frame).1
      rw [send]
      split
      · exact hcounted.of_eq rfl rfl
      simp only
      split
      · exact hcounted.of_eq rfl rfl
      · apply counted_drainTurn
        exact hcounted.of_eq rfl rfl
  | admitReceiveCredit =>
      rw [step]
      split
      · exact hcounted.of_eq rfl rfl
      · exact hcounted
  | receiveCredit received =>
      rw [step]
      split
      · exact hcounted.of_eq rfl rfl
      · exact hcounted
  | abortRecord => exact hcounted.of_eq rfl rfl
  | close =>
      rw [step, close]
      split
      · exact hcounted
      · exact hcounted.of_eq rfl rfl
  | timedOut => exact hdrain .timedOut
  | drainResumes => exact hdrain .drainResumes
  | encoded => exact hwriter .encoded
  | resumed => exact hwriter .resumed
  | reserved => exact hwriter .reserved
  | portTakes count => exact hwriter (.portTakes count)
  | writeResolved => exact hwriter .writeResolved
  | writeRejected => exact hwriter .writeRejected
  | consumed => exact hwriter .consumed

/-! ## Sends -/

/-- The sends that are not settled: the one whose record is written, and the queued ones. -/
def unsettled (channel : WorkerSerialChannel) : List ℕ :=
  (channel.maybeAwaited.map AwaitedRecord.send).toList ++ channel.pending.map PendingWrite.send

/-- Every accepted send is settled once, or is not settled and has its place. -/
structure Placed (channel : WorkerSerialChannel) : Prop where
  places : (channel.settled.map Prod.fst ++ channel.unsettled).Perm channel.accepted
  called : ∀ send ∈ channel.accepted, send < channel.sends
  nodup : channel.accepted.Nodup
  bound : channel.pending.length ≤ 3
  idle : channel.writing = false → channel.pending = []
  closed : channel.closed = true → channel.pending = []

/-- The same before the loop decides what to do with the queue. -/
structure Queued (channel : WorkerSerialChannel) : Prop where
  places : (channel.settled.map Prod.fst ++ channel.pending.map PendingWrite.send).Perm
    channel.accepted
  called : ∀ send ∈ channel.accepted, send < channel.sends
  nodup : channel.accepted.Nodup
  bound : channel.pending.length ≤ 3
  closed : channel.closed = true → channel.pending = []

theorem placed_recordFails {send : ℕ} (failure : SerialFailure)
    (hplaces : (channel.settled.map Prod.fst ++ send :: channel.pending.map PendingWrite.send).Perm
      channel.accepted)
    (hcalled : ∀ send ∈ channel.accepted, send < channel.sends)
    (hnodup : channel.accepted.Nodup) : Placed (channel.recordFails send failure) where
  places := by
    refine List.Perm.trans (List.Perm.of_eq ?_) hplaces
    simp [recordFails, drainEnds, rejectQueued, settle, abortRecord, unsettled, Function.comp_def]
  called := hcalled
  nodup := hnodup
  bound := Nat.zero_le _
  idle := fun _ => rfl
  closed := fun _ => rfl

theorem placed_drainTurn (hqueued : Queued channel) (hwriting : channel.writing = true) :
    Placed channel.drainTurn := by
  have hplaces := hqueued.places
  have hbound := hqueued.bound
  rw [drainTurn]
  split
  · next hempty =>
      rw [hempty] at hplaces
      exact {
        places := by
          rw [unsettled]
          show (channel.settled.map Prod.fst ++ ([] ++ channel.pending.map _)).Perm _
          rw [hempty]
          exact hplaces
        called := hqueued.called
        nodup := hqueued.nodup
        bound := hbound
        idle := fun _ => hempty
        closed := fun _ => hempty }
  · next next rest hpending =>
      rw [hpending] at hplaces hbound
      rw [List.length_cons] at hbound
      split
      · next hclosed =>
          rw [hqueued.closed hclosed] at hpending
          cases hpending
      simp only
      split
      · exact placed_recordFails _ hplaces hqueued.called hqueued.nodup
      · next hopen hmore =>
          exact {
            places := hplaces
            called := hqueued.called
            nodup := hqueued.nodup
            bound := Nat.le_of_succ_le hbound
            idle := fun hidle => absurd (hwriting.symm.trans hidle) (by decide)
            closed := fun hclosed => absurd hclosed hopen }

/-- A queue takes one more send at either end. -/
theorem perm_queue (frame : List (CodeUnits × JsValue)) (channel : WorkerSerialChannel) :
    ((if isText (fieldOf frame "kind") "heartbeat" then
        { send := channel.sends, frame := frame } :: channel.pending
      else channel.pending ++ [{ send := channel.sends, frame := frame }]).map
        PendingWrite.send).Perm (channel.pending.map PendingWrite.send ++ [channel.sends]) := by
  split
  · rw [List.map_cons]
    exact (List.perm_append_singleton _ _).symm
  · rw [List.map_append]
    exact List.Perm.refl _

theorem placed_send (hsound : Sound sha256 channel) (hplaced : Placed channel)
    (frame : List (CodeUnits × JsValue)) : Placed (channel.send frame).1 := by
  rw [send]
  split
  · exact {
      places := hplaced.places
      called := fun send hsend => Nat.lt_succ_of_lt (hplaced.called send hsend)
      nodup := hplaced.nodup
      bound := hplaced.bound
      idle := hplaced.idle
      closed := hplaced.closed }
  · next hopen =>
      simp only [Bool.or_eq_true, decide_eq_true_eq, not_or, Bool.not_eq_true, Nat.not_le] at hopen
      have hcalled : ∀ send ∈ channel.accepted ++ [channel.sends], send < channel.sends + 1 := by
        intro send hsend
        rcases List.mem_append.mp hsend with hsend | hsend
        · exact Nat.lt_succ_of_lt (hplaced.called send hsend)
        · rw [List.mem_singleton.mp hsend]
          exact Nat.lt_succ_self _
      have hnodup : (channel.accepted ++ [channel.sends]).Nodup := by
        rw [List.nodup_append]
        refine ⟨hplaced.nodup, List.nodup_singleton _, ?_⟩
        rintro first hfirst second hsecond rfl
        rw [List.mem_singleton.mp hsecond] at hfirst
        exact Nat.lt_irrefl _ (hplaced.called _ hfirst)
      have hqueue := perm_queue frame channel
      have hlength := hqueue.length_eq
      simp only [List.length_map, List.length_append, List.length_singleton] at hlength
      have hplaces : (channel.settled.map Prod.fst ++
          ((channel.maybeAwaited.map AwaitedRecord.send).toList ++
            (channel.pending.map PendingWrite.send ++ [channel.sends]))).Perm
              (channel.accepted ++ [channel.sends]) := by
        rw [← List.append_assoc, ← List.append_assoc, List.append_assoc (List.map _ _)]
        exact hplaced.places.append_right _
      simp only
      split
      · next hwriting =>
          exact {
            places := by
              refine List.Perm.trans ?_ hplaces
              exact (hqueue.append_left _).append_left _
            called := hcalled
            nodup := hnodup
            bound := by
              show List.length (if _ then _ else _) ≤ 3
              rw [hlength]
              omega
            idle := fun hidle => absurd (hwriting.symm.trans hidle) (by decide)
            closed := fun hclosed => by
              rw [hopen.1.1] at hclosed
              cases hclosed }
      · next hidle =>
          have hnone : channel.maybeAwaited = none := by
            have hwriting := hsound.writing
            rw [Bool.eq_false_iff.mpr hidle] at hwriting
            exact Option.isNone_iff_eq_none.mp (by simpa using hwriting.symm)
          apply placed_drainTurn _ rfl
          exact {
            places := by
              rw [hnone] at hplaces
              exact (hqueue.append_left _).trans hplaces
            called := hcalled
            nodup := hnodup
            bound := by
              show List.length (if _ then _ else _) ≤ 3
              rw [hlength]
              omega
            closed := fun hclosed => by
              rw [hopen.1.1] at hclosed
              cases hclosed }

theorem placed_close (hplaced : Placed channel) : Placed channel.close := by
  rw [close]
  split
  · exact hplaced
  · exact {
      places := by
        refine List.Perm.trans ?_ hplaced.places
        rw [unsettled, unsettled]
        show ((channel.settled ++ channel.pending.map _).map Prod.fst ++
          ((channel.maybeAwaited.map AwaitedRecord.send).toList ++ [])).Perm _
        rw [List.map_append, List.map_map, List.append_nil, List.append_assoc]
        exact List.Perm.append_left _ List.perm_append_comm
      called := hplaced.called
      nodup := hplaced.nodup
      bound := Nat.zero_le _
      idle := fun _ => rfl
      closed := fun _ => rfl }

theorem placed_writer (sha256 : List UInt8 → List UInt8) (hplaced : Placed channel)
    (event : ChannelEvent) : Placed ((channel.maybeWriter.map fun writer =>
      channel.writerStep sha256 writer event).getD channel) := by
  cases channel.maybeWriter with
  | none => exact hplaced
  | some writer =>
      have hturn := writerTurn_writerStep sha256 channel writer event
      show Placed (channel.writerStep sha256 writer event)
      exact {
        places := by
          rw [unsettled, hturn.settled, hturn.awaited, hturn.pending, hturn.accepted]
          exact hplaced.places
        called := by
          rw [hturn.accepted, hturn.sends]
          exact hplaced.called
        nodup := by
          rw [hturn.accepted]
          exact hplaced.nodup
        bound := by
          rw [hturn.pending]
          exact hplaced.bound
        idle := by
          rw [hturn.writing, hturn.pending]
          exact hplaced.idle
        closed := by
          rw [hturn.closed, hturn.pending]
          exact hplaced.closed }

theorem placed_drain (hsound : Sound sha256 channel) (hplaced : Placed channel)
    (event : ChannelEvent) : Placed ((channel.maybeAwaited.map fun awaited =>
      channel.drainStep awaited event).getD channel) := by
  cases hawaited : channel.maybeAwaited with
  | none => exact hplaced
  | some awaited =>
      have hwriting : channel.writing = true := by
        rw [hsound.writing, hawaited]
        rfl
      have hplaces := hplaced.places
      rw [unsettled, hawaited, Option.map_some, Option.toList_some, List.singleton_append] at hplaces
      show Placed (channel.drainStep awaited event)
      unfold drainStep
      split
      · split
        · exact {
            places := hplaces
            called := hplaced.called
            nodup := hplaced.nodup
            bound := hplaced.bound
            idle := hplaced.idle
            closed := hplaced.closed }
        · exact hplaced
      · split
        · exact hplaced
        · apply placed_drainTurn
          · exact {
              places := by
                show ((channel.settled ++ [(awaited.send, _)]).map Prod.fst ++ _).Perm _
                rw [List.map_append, List.append_assoc]
                exact hplaces
              called := hplaced.called
              nodup := hplaced.nodup
              bound := hplaced.bound
              closed := hplaced.closed }
          · exact hwriting
        · exact placed_recordFails _ hplaces hplaced.called hplaced.nodup
      · exact hplaced

theorem Placed.of_credit (hplaced : Placed channel) (credit : WorkerSerialCredit) :
    Placed { channel with credit := credit } :=
  ⟨hplaced.places, hplaced.called, hplaced.nodup, hplaced.bound, hplaced.idle, hplaced.closed⟩

/-- No event loses a send or settles one twice. -/
theorem placed_step (hsound : Sound sha256 channel) (hplaced : Placed channel)
    (event : ChannelEvent) : Placed (channel.step sha256 event).1 := by
  cases event with
  | send frame => exact placed_send hsound hplaced frame
  | admitReceiveCredit =>
      rw [step]
      split
      · exact hplaced.of_credit _
      · exact hplaced
  | receiveCredit received =>
      rw [step]
      split
      · exact hplaced.of_credit _
      · exact hplaced
  | abortRecord =>
      exact ⟨hplaced.places, hplaced.called, hplaced.nodup, hplaced.bound, hplaced.idle,
        hplaced.closed⟩
  | close => exact placed_close hplaced
  | timedOut => exact placed_drain hsound hplaced .timedOut
  | drainResumes => exact placed_drain hsound hplaced .drainResumes
  | encoded => exact placed_writer sha256 hplaced .encoded
  | resumed => exact placed_writer sha256 hplaced .resumed
  | reserved => exact placed_writer sha256 hplaced .reserved
  | portTakes count => exact placed_writer sha256 hplaced (.portTakes count)
  | writeResolved => exact placed_writer sha256 hplaced .writeResolved
  | writeRejected => exact placed_writer sha256 hplaced .writeRejected
  | consumed => exact placed_writer sha256 hplaced .consumed

/-! ## Successful sends -/

/-- The record of the send is on the port as a whole, behind the whole records before it; and
unless it is a greeting, the peer has consumed it and all credited bytes before it. -/
def Delivered (sha256 : List UInt8 → List UInt8) (channel : WorkerSerialChannel) (send : ℕ) :
    Prop :=
  ∃ before record later, channel.begun = before ++ record :: later ∧ record.send = send ∧
    AllEncoded sha256 (before ++ [record]) ∧
    recordBytes sha256 (before ++ [record]) <+: channel.written ∧
    (record.hello = false →
      creditedBytes sha256 (before ++ [record]) ≤ channel.credit.received)

theorem Delivered.of_grows {send : ℕ} (hdelivered : Delivered sha256 channel send)
    (hgrows : Grows channel after) : Delivered sha256 after send := by
  obtain ⟨before, record, later, hbegun, hsend, hencoded, hwritten, hconsumed⟩ := hdelivered
  obtain ⟨more, hmore⟩ := hgrows.begun
  refine ⟨before, record, later ++ more, ?_, hsend, hencoded, hwritten.trans hgrows.written,
    fun hhello => (hconsumed hhello).trans hgrows.received⟩
  rw [← hmore, hbegun, List.append_assoc, List.cons_append]

/-- A send that succeeded was delivered. -/
def Honest (sha256 : List UInt8 → List UInt8) (channel : WorkerSerialChannel) : Prop :=
  ∀ send, (send, .ok ()) ∈ channel.settled → Delivered sha256 channel send

theorem settled_drainTurn {send : ℕ} (h : (send, .ok ()) ∈ channel.drainTurn.settled) :
    (send, .ok ()) ∈ channel.settled := by
  rw [drainTurn] at h
  split at h
  · exact h
  split at h
  · exact h
  simp only at h
  split at h
  · simpa [recordFails, drainEnds, rejectQueued, settle, abortRecord] using h
  · exact h

/-- Only the loop settles a send as a success: the one whose record it has waited for. -/
theorem settled_step {send : ℕ} {event : ChannelEvent}
    (h : (send, .ok ()) ∈ (channel.step sha256 event).1.settled) :
    (send, .ok ()) ∈ channel.settled ∨ channel.maybeAwaited = some ⟨send, some (.ok ())⟩ := by
  have hwriter : ∀ event, (send, .ok ()) ∈ ((channel.maybeWriter.map fun writer =>
      channel.writerStep sha256 writer event).getD channel).settled →
        (send, .ok ()) ∈ channel.settled := by
    intro event hmem
    cases hpresent : channel.maybeWriter with
    | none =>
        rw [hpresent] at hmem
        exact hmem
    | some writer =>
        rw [hpresent] at hmem
        rw [← (writerTurn_writerStep sha256 channel writer event).settled]
        exact hmem
  have hdrain : ∀ event, (send, .ok ()) ∈ ((channel.maybeAwaited.map fun awaited =>
      channel.drainStep awaited event).getD channel).settled →
        (send, .ok ()) ∈ channel.settled ∨
          channel.maybeAwaited = some ⟨send, some (.ok ())⟩ := by
    intro event hmem
    cases hawaited : channel.maybeAwaited with
    | none =>
        rw [hawaited] at hmem
        exact Or.inl hmem
    | some awaited =>
        rw [hawaited] at hmem
        change (send, .ok ()) ∈ (channel.drainStep awaited event).settled at hmem
        unfold drainStep at hmem
        split at hmem
        · split at hmem
          · exact Or.inl hmem
          · exact Or.inl hmem
        · split at hmem
          · exact Or.inl hmem
          · next hdone =>
              have hsettled := settled_drainTurn hmem
              change (send, Except.ok ()) ∈ channel.settled ++ [(awaited.send, .ok ())] at hsettled
              rcases List.mem_append.mp hsettled with hsettled | hsettled
              · exact Or.inl hsettled
              · obtain ⟨rfl, -⟩ := Prod.mk.inj (List.mem_singleton.mp hsettled)
                rw [← hdone]
                exact Or.inr rfl
          · apply Or.inl
            simpa [recordFails, drainEnds, rejectQueued, settle, abortRecord] using hmem
        · exact Or.inl hmem
  cases event with
  | send frame =>
      apply Or.inl
      change (send, .ok ()) ∈ (channel.send frame).1.settled at h
      rw [WorkerSerialChannel.send] at h
      split at h
      · exact h
      simp only at h
      split at h
      · exact h
      · exact (settled_drainTurn h :)
  | admitReceiveCredit =>
      rw [step] at h
      split at h
      · exact Or.inl h
      · exact Or.inl h
  | receiveCredit received =>
      rw [step] at h
      split at h
      · exact Or.inl h
      · exact Or.inl h
  | abortRecord => exact Or.inl h
  | close =>
      rw [step, close] at h
      split at h
      · exact Or.inl h
      · apply Or.inl
        simpa [rejectQueued, abortRecord] using h
  | timedOut => exact hdrain .timedOut h
  | drainResumes => exact hdrain .drainResumes h
  | encoded => exact Or.inl (hwriter .encoded h)
  | resumed => exact Or.inl (hwriter .resumed h)
  | reserved => exact Or.inl (hwriter .reserved h)
  | portTakes count => exact Or.inl (hwriter (.portTakes count) h)
  | writeResolved => exact Or.inl (hwriter .writeResolved h)
  | writeRejected => exact Or.inl (hwriter .writeRejected h)
  | consumed => exact Or.inl (hwriter .consumed h)

theorem honest_step (hsound : Sound sha256 channel) (hhonest : Honest sha256 channel)
    (event : ChannelEvent) : Honest sha256 (channel.step sha256 event).1 := by
  intro send hsend
  have hgrows : Grows channel (channel.step sha256 event).1 := grows_step sha256 event
  rcases settled_step hsend with hsettled | hawaited
  · exact (hhonest send hsettled).of_grows hgrows
  · apply Delivered.of_grows _ hgrows
    cases hsound.stage with
    | idle hother hwriter hwhole =>
        rw [hother] at hawaited
        cases hawaited
    | running writer hother hwork =>
        rw [hother] at hawaited
        cases hawaited
    | finished before record hother hwriter hwhole hbegun hconsumed =>
        rw [hother] at hawaited
        cases hawaited
        have hencoded := hwhole.encoded
        have hwritten := hwhole.written
        rw [hbegun] at hencoded hwritten hconsumed
        exact ⟨before, record, [], hbegun, rfl, hencoded, hwritten ▸ List.prefix_refl _, hconsumed⟩
    | failing other failure hother hremains =>
        rw [hother] at hawaited
        cases hawaited
    | failed hother hfailed hremains =>
        rw [hother] at hawaited
        cases hawaited

/-! ## Where records come from -/

/-- Every queued frame and every record is that of an accepted send. -/
structure FromSends (history : List (ChannelEvent × ChannelAnswer))
    (channel : WorkerSerialChannel) : Prop where
  queued : ∀ next ∈ channel.pending,
    (ChannelEvent.send next.frame, ChannelAnswer.accepted next.send) ∈ history
  begun : ∀ record ∈ channel.begun, ∃ frame,
    (ChannelEvent.send frame, ChannelAnswer.accepted record.send) ∈ history ∧
      record.frame = withMember "sequence" (jsNatural record.sequence) frame ∧
      record.hello = isHello frame

variable {history : List (ChannelEvent × ChannelAnswer)}

theorem FromSends.of_subset (hfrom : FromSends history channel)
    (hpending : after.pending ⊆ channel.pending) (hbegun : after.begun = channel.begun) :
    FromSends history after where
  queued := fun next hnext => hfrom.queued next (hpending hnext)
  begun := by
    rw [hbegun]
    exact hfrom.begun

theorem FromSends.later (hfrom : FromSends history channel)
    (entry : ChannelEvent × ChannelAnswer) : FromSends (entry :: history) channel where
  queued := fun next hnext => List.mem_cons_of_mem _ (hfrom.queued next hnext)
  begun := fun record hrecord => by
    obtain ⟨frame, hmem, hframe⟩ := hfrom.begun record hrecord
    exact ⟨frame, List.mem_cons_of_mem _ hmem, hframe⟩

theorem fromSends_drainTurn (hfrom : FromSends history channel) :
    FromSends history channel.drainTurn := by
  rw [drainTurn]
  split
  · exact hfrom.of_subset (List.Subset.refl _) rfl
  · next next rest hpending =>
      split
      · exact hfrom.of_subset (List.Subset.refl _) rfl
      simp only
      split
      · exact hfrom.of_subset (List.nil_subset _) rfl
      · have hnext : next ∈ channel.pending := by
          rw [hpending]
          exact List.mem_cons_self
        exact {
          queued := fun other hother => hfrom.queued other (by
            rw [hpending]
            exact List.mem_cons_of_mem _ hother)
          begun := by
            intro record hrecord
            rcases List.mem_append.mp hrecord with hrecord | hrecord
            · exact hfrom.begun record hrecord
            · rw [List.mem_singleton.mp hrecord]
              exact ⟨next.frame, hfrom.queued next hnext, rfl, rfl⟩ }

theorem fromSends_send (hfrom : FromSends history channel)
    (frame : List (CodeUnits × JsValue)) :
    FromSends ((.send frame, (channel.send frame).2) :: history) (channel.send frame).1 := by
  rw [send]
  split
  · apply FromSends.later
    exact hfrom.of_subset (List.Subset.refl _) rfl
  · have hqueued : ∀ next ∈ (if isText (fieldOf frame "kind") "heartbeat" then
        { send := channel.sends, frame := frame } :: channel.pending
      else channel.pending ++ [{ send := channel.sends, frame := frame }]),
        (ChannelEvent.send next.frame, ChannelAnswer.accepted next.send) ∈
          (ChannelEvent.send frame, ChannelAnswer.accepted channel.sends) :: history := by
      intro next hnext
      have hcases : next = { send := channel.sends, frame := frame } ∨ next ∈ channel.pending := by
        split at hnext
        · exact List.mem_cons.mp hnext
        · rcases List.mem_append.mp hnext with hnext | hnext
          · exact Or.inr hnext
          · exact Or.inl (List.mem_singleton.mp hnext)
      rcases hcases with rfl | hold
      · exact List.mem_cons_self
      · exact List.mem_cons_of_mem _ (hfrom.queued next hold)
    simp only
    split
    · exact ⟨hqueued, (hfrom.later _).begun⟩
    · apply fromSends_drainTurn
      exact ⟨hqueued, (hfrom.later _).begun⟩

theorem fromSends_step (sha256 : List UInt8 → List UInt8) (hfrom : FromSends history channel)
    (event : ChannelEvent) :
    FromSends ((event, (channel.step sha256 event).2) :: history)
      (channel.step sha256 event).1 := by
  have hwriter : ∀ event, FromSends history ((channel.maybeWriter.map fun writer =>
      channel.writerStep sha256 writer event).getD channel) := by
    intro event
    cases channel.maybeWriter with
    | none => exact hfrom
    | some writer =>
        have hturn := writerTurn_writerStep sha256 channel writer event
        exact hfrom.of_subset (hturn.pending ▸ List.Subset.refl _) hturn.begun
  have hdrain : ∀ event, FromSends history ((channel.maybeAwaited.map fun awaited =>
      channel.drainStep awaited event).getD channel) := by
    intro event
    cases channel.maybeAwaited with
    | none => exact hfrom
    | some awaited =>
        show FromSends history (channel.drainStep awaited event)
        unfold drainStep
        split
        · split
          · exact hfrom.of_subset (List.Subset.refl _) rfl
          · exact hfrom
        · split
          · exact hfrom
          · apply fromSends_drainTurn
            exact hfrom.of_subset (List.Subset.refl _) rfl
          · exact hfrom.of_subset (List.nil_subset _) rfl
        · exact hfrom
  cases event with
  | send frame => exact fromSends_send hfrom frame
  | admitReceiveCredit =>
      apply FromSends.later
      rw [step]
      split
      · exact hfrom.of_subset (List.Subset.refl _) rfl
      · exact hfrom
  | receiveCredit received =>
      apply FromSends.later
      rw [step]
      split
      · exact hfrom.of_subset (List.Subset.refl _) rfl
      · exact hfrom
  | abortRecord =>
      apply FromSends.later
      exact hfrom.of_subset (List.Subset.refl _) rfl
  | close =>
      apply FromSends.later
      rw [step, close]
      split
      · exact hfrom
      · exact hfrom.of_subset (List.nil_subset _) rfl
  | timedOut => exact (hdrain .timedOut).later _
  | drainResumes => exact (hdrain .drainResumes).later _
  | encoded => exact (hwriter .encoded).later _
  | resumed => exact (hwriter .resumed).later _
  | reserved => exact (hwriter .reserved).later _
  | portTakes count => exact (hwriter (.portTakes count)).later _
  | writeResolved => exact (hwriter .writeResolved).later _
  | writeRejected => exact (hwriter .writeRejected).later _
  | consumed => exact (hwriter .consumed).later _

/-! ## The time limit -/

/-- The time limit of the awaited record passes, and the loop goes on. -/
def afterLimit (sha256 : List UInt8 → List UInt8) (channel : WorkerSerialChannel) :
    WorkerSerialChannel :=
  ((channel.step sha256 .timedOut).1.step sha256 .drainResumes).1

theorem unsettled_recordFails (send : ℕ) (failure : SerialFailure) :
    (channel.recordFails send failure).unsettled = [] := rfl

/-- A record that has not succeeded settles every send. -/
theorem unsettled_afterLimit {awaited : AwaitedRecord}
    (hawaited : channel.maybeAwaited = some awaited) (houtcome : awaited.outcome ≠ some (.ok ())) :
    (channel.afterLimit sha256).unsettled = [] := by
  cases hfound : awaited.outcome with
  | none => simp [afterLimit, step, hawaited, drainStep, hfound, unsettled_recordFails]
  | some outcome =>
      cases outcome with
      | error failure => simp [afterLimit, step, hawaited, drainStep, hfound, unsettled_recordFails]
      | ok done => exact absurd hfound houtcome

/-- After a turn of the loop nothing is unsettled, or the next record is being written. -/
theorem unsettled_drainTurn (hclosed : channel.closed = true → channel.pending = []) :
    channel.drainTurn.unsettled = [] ∨
      ∃ send, channel.drainTurn.maybeAwaited = some ⟨send, none⟩ := by
  rw [drainTurn]
  split
  · next hempty =>
      apply Or.inl
      show [] ++ channel.pending.map _ = []
      rw [hempty]
      rfl
  · next next rest hpending =>
      split
      · next hstopped =>
          rw [hclosed hstopped] at hpending
          cases hpending
      simp only
      split
      · exact Or.inl rfl
      · exact Or.inr ⟨next.send, rfl⟩

theorem unsettled_afterLimit_of_none (hunsettled : channel.unsettled = []) :
    (channel.afterLimit sha256).unsettled = [] := by
  have hnone : channel.maybeAwaited = none := by
    rw [unsettled, List.append_eq_nil_iff] at hunsettled
    cases hawaited : channel.maybeAwaited with
    | none => rfl
    | some awaited =>
        rw [hawaited] at hunsettled
        cases hunsettled.1
  simp [afterLimit, step, hnone, hunsettled]

/-- Two time limits settle everything. -/
theorem unsettled_two_limits (hsound : Sound sha256 channel) (hplaced : Placed channel) :
    ((channel.afterLimit sha256).afterLimit sha256).unsettled = [] := by
  cases hawaited : channel.maybeAwaited with
  | none =>
      have hidle : channel.writing = false := by
        rw [hsound.writing, hawaited]
        rfl
      apply unsettled_afterLimit_of_none
      apply unsettled_afterLimit_of_none
      rw [unsettled, hawaited, hplaced.idle hidle]
      rfl
  | some awaited =>
      by_cases houtcome : awaited.outcome = some (.ok ())
      · have hafter : channel.afterLimit sha256 =
            (settle { channel with recordActive := false } awaited.send (.ok ())).drainTurn := by
          simp [afterLimit, step, hawaited, drainStep, houtcome]
        rw [hafter]
        generalize hturned : settle { channel with recordActive := false } awaited.send (.ok ()) =
          turned
        have hclosed : turned.closed = true → turned.pending = [] := by
          rw [← hturned]
          exact hplaced.closed
        rcases unsettled_drainTurn hclosed with hnone | ⟨send, hnext⟩
        · exact unsettled_afterLimit_of_none hnone
        · exact unsettled_afterLimit hnext fun h => by cases h
      · exact unsettled_afterLimit_of_none (unsettled_afterLimit hawaited houtcome)

/-! ## A channel that failed -/

/-- Nothing is awaited and the channel has failed. -/
def GivenUp (channel : WorkerSerialChannel) : Prop :=
  channel.maybeAwaited = none ∧ channel.writeFailed = true

/-- A channel that was given up takes up nothing more. -/
theorem givenUp_step (sha256 : List UInt8 → List UInt8) (hgivenUp : GivenUp channel)
    (event : ChannelEvent) : GivenUp (channel.step sha256 event).1 ∧
      (channel.step sha256 event).1.begun = channel.begun := by
  obtain ⟨hnone, hfailed⟩ := hgivenUp
  have hwriter : ∀ event, GivenUp ((channel.maybeWriter.map fun writer =>
      channel.writerStep sha256 writer event).getD channel) ∧
        ((channel.maybeWriter.map fun writer =>
          channel.writerStep sha256 writer event).getD channel).begun = channel.begun := by
    intro event
    cases channel.maybeWriter with
    | none => exact ⟨⟨hnone, hfailed⟩, rfl⟩
    | some writer =>
        have hturn := writerTurn_writerStep sha256 channel writer event
        have hawaited := hturn.awaited
        rw [hnone, Option.map_none, Option.map_eq_none_iff] at hawaited
        exact ⟨⟨hawaited, hturn.writeFailed.trans hfailed⟩, hturn.begun⟩
  cases event with
  | send frame =>
      show GivenUp (channel.send frame).1 ∧ (channel.send frame).1.begun = channel.begun
      have hstopped : (channel.closed || channel.writeFailed ||
          decide (3 ≤ channel.pending.length)) = true := by
        rw [hfailed, Bool.or_true, Bool.true_or]
      rw [send, if_pos hstopped]
      exact ⟨⟨hnone, hfailed⟩, rfl⟩
  | admitReceiveCredit =>
      rw [step]
      split
      · exact ⟨⟨hnone, hfailed⟩, rfl⟩
      · exact ⟨⟨hnone, hfailed⟩, rfl⟩
  | receiveCredit received =>
      rw [step]
      split
      · exact ⟨⟨hnone, hfailed⟩, rfl⟩
      · exact ⟨⟨hnone, hfailed⟩, rfl⟩
  | abortRecord => exact ⟨⟨hnone, rfl⟩, rfl⟩
  | close =>
      rw [step, close]
      split
      · exact ⟨⟨hnone, hfailed⟩, rfl⟩
      · exact ⟨⟨hnone, rfl⟩, rfl⟩
  | timedOut =>
      rw [step, hnone]
      exact ⟨⟨hnone, hfailed⟩, rfl⟩
  | drainResumes =>
      rw [step, hnone]
      exact ⟨⟨hnone, hfailed⟩, rfl⟩
  | encoded => exact hwriter .encoded
  | resumed => exact hwriter .resumed
  | reserved => exact hwriter .reserved
  | portTakes count => exact hwriter (.portTakes count)
  | writeResolved => exact hwriter .writeResolved
  | writeRejected => exact hwriter .writeRejected
  | consumed => exact hwriter .consumed

/-! ## Answers -/

theorem accepted_drainTurn (channel : WorkerSerialChannel) :
    channel.drainTurn.accepted = channel.accepted := by
  rw [drainTurn]
  split
  · rfl
  split
  · rfl
  simp only
  split
  · rfl
  · rfl

/-- A send is accepted where its caller is given its promise. -/
theorem accepted_step (sha256 : List UInt8 → List UInt8) (channel : WorkerSerialChannel)
    (event : ChannelEvent) : (channel.step sha256 event).1.accepted =
      channel.accepted ++ (channel.step sha256 event).2.maybeAccepted.toList := by
  have hsame : ∀ {after : WorkerSerialChannel}, after.accepted = channel.accepted →
      after.accepted = channel.accepted ++ [] := by
    intro after h
    rw [h, List.append_nil]
  have hwriter : ∀ event, ((channel.maybeWriter.map fun writer =>
      channel.writerStep sha256 writer event).getD channel).accepted = channel.accepted := by
    intro event
    cases channel.maybeWriter with
    | none => rfl
    | some writer => exact (writerTurn_writerStep sha256 channel writer event).accepted
  have hdrain : ∀ event, ((channel.maybeAwaited.map fun awaited =>
      channel.drainStep awaited event).getD channel).accepted = channel.accepted := by
    intro event
    cases channel.maybeAwaited with
    | none => rfl
    | some awaited =>
        show (channel.drainStep awaited event).accepted = channel.accepted
        unfold drainStep
        split
        · split
          · rfl
          · rfl
        · split
          · rfl
          · rw [accepted_drainTurn]
            rfl
          · rfl
        · rfl
  cases event with
  | send frame =>
      show (channel.send frame).1.accepted = _ ++ (channel.send frame).2.maybeAccepted.toList
      rw [send]
      split
      · exact hsame rfl
      simp only
      split
      · rfl
      · rw [accepted_drainTurn]
        rfl
  | admitReceiveCredit =>
      rw [step]
      split
      · exact hsame rfl
      · exact hsame rfl
  | receiveCredit received =>
      rw [step]
      split
      · exact hsame rfl
      · exact hsame rfl
  | abortRecord => exact hsame rfl
  | close =>
      apply hsame
      rw [step, close]
      split
      · rfl
      · rfl
  | timedOut => exact hsame (hdrain .timedOut)
  | drainResumes => exact hsame (hdrain .drainResumes)
  | encoded => exact hsame (hwriter .encoded)
  | resumed => exact hsame (hwriter .resumed)
  | reserved => exact hsame (hwriter .reserved)
  | portTakes count => exact hsame (hwriter (.portTakes count))
  | writeResolved => exact hsame (hwriter .writeResolved)
  | writeRejected => exact hsame (hwriter .writeRejected)
  | consumed => exact hsame (hwriter .consumed)

end WorkerSerialChannel

/-! ## Every run -/

section Runs

variable {history : List (ChannelEvent × ChannelAnswer)} {channel : WorkerSerialChannel}

/-- The sends that were accepted, in order. -/
def acceptedSends (history : List (ChannelEvent × ChannelAnswer)) : List ℕ :=
  (history.filterMap fun entry => entry.2.maybeAccepted).reverse

/-- All that is known of a channel after a run. -/
structure ChannelInvariant (sha256 : List UInt8 → List UInt8)
    (history : List (ChannelEvent × ChannelAnswer)) (channel : WorkerSerialChannel) : Prop where
  sound : channel.Sound sha256
  counted : channel.Counted
  placed : channel.Placed
  honest : channel.Honest sha256
  fromSends : channel.FromSends history
  accepted : channel.accepted = acceptedSends history

theorem channelInvariant_step (hinvariant : ChannelInvariant sha256 history channel)
    (event : ChannelEvent) :
    ChannelInvariant sha256 ((event, (channel.step sha256 event).2) :: history)
      (channel.step sha256 event).1 where
  sound := WorkerSerialChannel.sound_step hinvariant.sound event
  counted := WorkerSerialChannel.counted_step sha256 hinvariant.counted event
  placed := WorkerSerialChannel.placed_step hinvariant.sound hinvariant.placed event
  honest := WorkerSerialChannel.honest_step hinvariant.sound hinvariant.honest event
  fromSends := WorkerSerialChannel.fromSends_step sha256 hinvariant.fromSends event
  accepted := by
    rw [WorkerSerialChannel.accepted_step, hinvariant.accepted, acceptedSends, acceptedSends,
      List.filterMap_cons]
    cases (channel.step sha256 event).2.maybeAccepted with
    | none => rw [Option.toList_none, List.append_nil]
    | some send => rw [Option.toList_some, List.reverse_cons]

theorem channelInvariant_run (hrun : (channelMachine sha256).Run history channel) :
    ChannelInvariant sha256 history channel := by
  apply Machine.Run.invariant (P := ChannelInvariant sha256) _ _ hrun
  · have hwhole : WorkerSerialChannel.Whole sha256 .newSession :=
      ⟨fun _ hmem => absurd hmem List.not_mem_nil, rfl, rfl⟩
    exact {
      sound := ⟨.idle rfl rfl hwhole, rfl⟩
      counted := ⟨trivial, rfl⟩
      placed := ⟨List.Perm.refl _, fun _ hmem => absurd hmem List.not_mem_nil, List.nodup_nil,
        Nat.zero_le _, fun _ => rfl, fun _ => rfl⟩
      honest := fun _ hmem => absurd hmem List.not_mem_nil
      fromSends := ⟨fun _ hmem => absurd hmem List.not_mem_nil,
        fun _ hmem => absurd hmem List.not_mem_nil⟩
      accepted := rfl }
  · intro history channel event _ hinvariant
    exact channelInvariant_step hinvariant event

theorem grows_run {later : List (ChannelEvent × ChannelAnswer)} {reached : WorkerSerialChannel}
    (hcontinues : (channelMachine sha256).Continues history channel later reached) :
    WorkerSerialChannel.Grows channel reached := by
  apply Machine.Continues.preserves (P := fun _ reached => channel.Grows reached) _ hcontinues
    (WorkerSerialChannel.Grows.refl channel)
  intro history between event _ hgrows
  exact hgrows.trans (WorkerSerialChannel.grows_step sha256 event)

theorem givenUp_run {later : List (ChannelEvent × ChannelAnswer)} {reached : WorkerSerialChannel}
    (hgivenUp : channel.GivenUp)
    (hcontinues : (channelMachine sha256).Continues history channel later reached) :
    reached.begun = channel.begun := by
  have hboth : reached.GivenUp ∧ reached.begun = channel.begun := by
    apply Machine.Continues.preserves
      (P := fun _ reached => reached.GivenUp ∧ reached.begun = channel.begun) _ hcontinues
      ⟨hgivenUp, rfl⟩
    intro history between event _ hbetween
    have hstep := WorkerSerialChannel.givenUp_step sha256 hbetween.1 event
    exact ⟨hstep.1, hstep.2.trans hbetween.2⟩
  exact hboth.2

/-- What holds of a channel after the events of one session. -/
structure ChannelGuarantees (sha256 : List UInt8 → List UInt8)
    (history : List (ChannelEvent × ChannelAnswer)) (channel : WorkerSerialChannel) : Prop where
  /-- The port took whole records, and a part of the last one at most. -/
  framed : channel.Framed sha256
  /-- The records are numbered 1, 2, 3 and so on, and the greetings 0. -/
  numbered : Numbered 0 channel.begun
  /-- A record is the frame of an accepted send, with its number. -/
  records : ∀ record ∈ channel.begun,
    fieldOf record.frame "sequence" = jsNatural record.sequence ∧
      ∃ frame, (ChannelEvent.send frame, ChannelAnswer.accepted record.send) ∈ history ∧
        record.frame = withMember "sequence" (jsNatural record.sequence) frame ∧
        record.hello = isHello frame
  /-- What the port took stays, and once a failure has ended the loop no other record is begun. -/
  stays : ∀ later reached, (channelMachine sha256).Continues history channel later reached →
    channel.written <+: reached.written ∧ (channel.writing = false →
      channel.writeFailed = true → reached.begun = channel.begun)
  /-- A send that succeeded is whole on the port and, but for a greeting, consumed. -/
  delivered : ∀ send, (send, .ok ()) ∈ channel.settled → channel.Delivered sha256 send
  /-- Every accepted send was settled once, or it is not settled and has its place. -/
  places : (channel.settled.map Prod.fst ++ channel.unsettled).Perm (acceptedSends history)
  nodup : (acceptedSends history).Nodup
  /-- Two time limits settle every send. -/
  settles : ((channel.afterLimit sha256).afterLimit sha256).unsettled = []
  bound : channel.pending.length ≤ 3

/-- The guarantees hold after every run. -/
theorem channel_guarantees (sha256 : List UInt8 → List UInt8)
    (hrun : (channelMachine sha256).Run history channel) :
    ChannelGuarantees sha256 history channel := by
  have hinvariant := channelInvariant_run hrun
  have hplaced := hinvariant.placed
  exact {
    framed := hinvariant.sound.stage.framed
    numbered := hinvariant.counted.numbered
    records := by
      intro record hrecord
      obtain ⟨frame, hsend, hframe, hhello⟩ := hinvariant.fromSends.begun record hrecord
      refine ⟨?_, frame, hsend, hframe, hhello⟩
      rw [hframe, fieldOf, withMember, lookup_setMember, if_pos rfl]
      rfl
    stays := by
      intro later reached hcontinues
      refine ⟨(grows_run hcontinues).written, fun hidle hfailed => ?_⟩
      apply givenUp_run _ hcontinues
      have hwriting := hinvariant.sound.writing
      rw [hidle] at hwriting
      exact ⟨Option.isNone_iff_eq_none.mp (by simpa using hwriting.symm), hfailed⟩
    delivered := hinvariant.honest
    places := hinvariant.accepted ▸ hplaced.places
    nodup := hinvariant.accepted ▸ hplaced.nodup
    settles := WorkerSerialChannel.unsettled_two_limits hinvariant.sound hplaced
    bound := hplaced.bound }

end Runs

/-! ## A greeting -/

/-- The digest of the payload of a greeting. -/
def greetingSha256 (_ : List UInt8) : List UInt8 :=
  [15, 14, 39, 42, 114, 23, 194, 197, 23, 100, 240, 206, 141, 128, 63, 119, 206, 249, 63, 121, 58,
    152, 54, 222, 129, 190, 176, 98, 44, 157, 36, 205]

/-- A greeting. -/
def greetingFrame : List (CodeUnits × JsValue) :=
  [(CodeUnits.ofString "profile", jsText workerSerialProfile),
    (CodeUnits.ofString "kind", jsText "session"),
    (CodeUnits.ofString "sessionId", .null),
    (CodeUnits.ofString "sequence", jsNatural 0),
    (CodeUnits.ofString "payload", .object [(CodeUnits.ofString "op", jsText "hello")])]

/-- A greeting is sent and written in one chunk. -/
def greetingEvents : List ChannelEvent :=
  [.send greetingFrame, .encoded, .portTakes 1024, .writeResolved, .drainResumes]

theorem greeting_run : (channelMachine greetingSha256).Run
    ((channelMachine greetingSha256).replay greetingEvents).1
    ((channelMachine greetingSha256).replay greetingEvents).2 :=
  Machine.run_replay greetingEvents (Machine.admitsAll_of_forall (fun _ _ _ => trivial) _ _)

/-- The send of a greeting succeeds although the peer has reported nothing. -/
theorem greeting_unconsumed : ∃ history channel,
    (channelMachine greetingSha256).Run history channel ∧
      channel.settled = [(0, .ok ())] ∧ channel.credit.received = 0 ∧
      ∀ entry ∈ history, ∀ received, entry.1 ≠ ChannelEvent.receiveCredit received := by
  have houtcome : ((channelMachine greetingSha256).replay greetingEvents).2.settled =
        [(0, .ok ())] ∧
      ((channelMachine greetingSha256).replay greetingEvents).2.credit.received = 0 := by
    decide +kernel
  refine ⟨_, _, greeting_run, houtcome.1, houtcome.2, ?_⟩
  intro entry hentry received
  simp only [Machine.replay, Machine.replayFrom, greetingEvents, List.mem_cons, List.not_mem_nil,
    or_false] at hentry
  rcases hentry with rfl | rfl | rfl | rfl | rfl
  all_goals exact ChannelEvent.noConfusion

/-! ## A session -/

/-- The digests of the payloads below. -/
def sessionSha256 (payload : List UInt8) : List UInt8 :=
  if payload = textBytes "\x7b\x7d".toList then
    [68, 19, 111, 163, 85, 179, 103, 138, 17, 70, 173, 22, 247, 232, 100, 158, 148, 251, 79, 194,
      31, 231, 126, 131, 16, 192, 96, 246, 28, 170, 255, 138]
  else if payload = textBytes "\x7b\"op\":\"status\"\x7d".toList then
    [44, 144, 126, 139, 226, 97, 227, 232, 226, 23, 154, 252, 237, 137, 242, 29, 2, 29, 115, 35,
      114, 47, 72, 101, 115, 156, 157, 95, 23, 218, 87, 240]
  else greetingSha256 payload

/-- A frame of a session. -/
def sessionFrame (kind : String) (payload : List (CodeUnits × JsValue)) :
    List (CodeUnits × JsValue) :=
  [(CodeUnits.ofString "profile", jsText workerSerialProfile),
    (CodeUnits.ofString "kind", jsText kind),
    (CodeUnits.ofString "sessionId", jsText "AgICAgICAgICAgICAgICAg"),
    (CodeUnits.ofString "sequence", jsNatural 0),
    (CodeUnits.ofString "payload", .object payload)]

def statusFrame : List (CodeUnits × JsValue) :=
  sessionFrame "control" [(CodeUnits.ofString "op", jsText "status")]

def heartbeatFrame : List (CodeUnits × JsValue) := sessionFrame "heartbeat" []

/-- A first control record is consumed, a heartbeat overtakes the second, and the time limit
strikes while the port has part of the heartbeat. -/
def sessionEvents : List ChannelEvent :=
  [.admitReceiveCredit, .send statusFrame, .encoded, .reserved, .portTakes 100, .send statusFrame,
    .send heartbeatFrame, .portTakes 1024, .writeResolved, .receiveCredit (jsNatural 209),
    .resumed, .consumed, .drainResumes, .encoded, .reserved, .portTakes 10, .timedOut,
    .drainResumes]

def sessionReplay : List (ChannelEvent × ChannelAnswer) × WorkerSerialChannel :=
  (channelMachine sessionSha256).replay sessionEvents

theorem session_guarantees : ChannelGuarantees sessionSha256 sessionReplay.1 sessionReplay.2 ∧
    sessionReplay.2.settled = [(0, .ok ()), (2, .error (serialFailure "timeout")),
      (1, .error (serialFailure "timeout"))] ∧
    sessionReplay.2.begun.map (·.sequence) = [1, 2] := by
  have hrun : (channelMachine sessionSha256).Run sessionReplay.1 sessionReplay.2 :=
    Machine.run_replay sessionEvents (Machine.admitsAll_of_forall (fun _ _ _ => trivial) _ _)
  have houtcome : sessionReplay.2.settled = [(0, .ok ()), (2, .error (serialFailure "timeout")),
      (1, .error (serialFailure "timeout"))] ∧
      sessionReplay.2.begun.map (·.sequence) = [1, 2] := by
    decide +kernel
  exact ⟨channel_guarantees sessionSha256 hrun, houtcome⟩

end WorkGate
