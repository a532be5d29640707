/-
# How records are written (web/webserial-worker-port.ts)

While a record is written, the port has taken the records before it and the bytes up to where the
writer is, and credit was asked for as many.  Each turn of the writer keeps this or ends the record;
so a channel goes through few stages, and only a channel whose records are all whole takes up the
next one.
-/

import WorkGate.Serial.Channel

namespace WorkGate

open WorkGate.Library WorkGate.Library.JsonText

/-! ## Records and their bytes -/

variable (sha256 : List UInt8 → List UInt8)

/-- The encoder accepts every one of the records. -/
def AllEncoded (records : List SerialRecord) : Prop :=
  ∀ record ∈ records, ∃ bytes, encodeWorkerSerialEnvelope sha256 record.frame = .ok bytes

/-- The bytes of the records one after the other. -/
def recordBytes (records : List SerialRecord) : List UInt8 :=
  records.flatMap (SerialRecord.bytes sha256)

/-- How many of them need credit. -/
def creditedBytes (records : List SerialRecord) : ℕ :=
  (recordBytes sha256 (records.filter fun record => !record.hello)).length

/-- The records carry 1, 2, 3 and so on, and the greetings 0. -/
def Numbered : ℕ → List SerialRecord → Prop
  | _, [] => True
  | last, record :: records =>
      if record.hello then record.sequence = 0 ∧ Numbered last records
      else record.sequence = last + 1 ∧ Numbered (last + 1) records

variable {sha256}

theorem recordBytes_append (first second : List SerialRecord) :
    recordBytes sha256 (first ++ second) = recordBytes sha256 first ++ recordBytes sha256 second :=
  List.flatMap_append

theorem recordBytes_singleton (record : SerialRecord) :
    recordBytes sha256 [record] = record.bytes sha256 := List.flatMap_singleton _ _

theorem creditedBytes_concat (records : List SerialRecord) (record : SerialRecord) :
    creditedBytes sha256 (records ++ [record]) = creditedBytes sha256 records +
      if record.hello then 0 else (record.bytes sha256).length := by
  rw [creditedBytes, creditedBytes, List.filter_append, recordBytes_append, List.length_append]
  by_cases hhello : record.hello = true
  · simp [hhello, recordBytes]
  · simp [hhello, recordBytes]

theorem AllEncoded.concat {records : List SerialRecord} {record : SerialRecord}
    (hrecords : AllEncoded sha256 records)
    (hrecord : ∃ bytes, encodeWorkerSerialEnvelope sha256 record.frame = .ok bytes) :
    AllEncoded sha256 (records ++ [record]) := by
  intro other hother
  rcases List.mem_append.mp hother with hother | hother
  · exact hrecords other hother
  · rw [List.mem_singleton.mp hother]
    exact hrecord

theorem numbered_concat {last : ℕ} {records : List SerialRecord} {record : SerialRecord}
    (hnumbered : Numbered last records)
    (hsequence : record.sequence = if record.hello then 0 else
      last + (records.filter fun record => !record.hello).length + 1) :
    Numbered last (records ++ [record]) := by
  induction records generalizing last with
  | nil =>
      rw [List.nil_append, Numbered]
      by_cases hhello : record.hello = true
      · simpa [hhello, Numbered] using hsequence
      · simpa [hhello, Numbered] using hsequence
  | cons first records ih =>
      rw [List.cons_append, Numbered]
      rw [Numbered] at hnumbered
      by_cases hfirst : first.hello = true
      · rw [if_pos hfirst] at hnumbered ⊢
        exact ⟨hnumbered.1, ih hnumbered.2 (by simpa [hfirst] using hsequence)⟩
      · rw [if_neg hfirst] at hnumbered ⊢
        apply And.intro hnumbered.1
        apply ih hnumbered.2
        rw [hsequence, List.filter_cons_of_pos (by simpa using hfirst), List.length_cons]
        by_cases hhello : record.hello = true
        · rw [if_pos hhello, if_pos hhello]
        · rw [if_neg hhello, if_neg hhello]
          omega

namespace WorkerSerialChannel

variable {channel : WorkerSerialChannel} {record : SerialRecord}

/-! ## What the port has taken -/

/-- Every record taken up is on the port, except that of the last one there may be a part. -/
def Framed (sha256 : List UInt8 → List UInt8) (channel : WorkerSerialChannel) : Prop :=
  ∃ finished rest, channel.begun = finished ++ rest ∧ rest.length ≤ 1 ∧
    AllEncoded sha256 finished ∧ ∃ part, part <+: recordBytes sha256 rest ∧
      channel.written = recordBytes sha256 finished ++ part

/-- Every record taken up is on the port. -/
structure Whole (sha256 : List UInt8 → List UInt8) (channel : WorkerSerialChannel) : Prop where
  encoded : AllEncoded sha256 channel.begun
  written : channel.written = recordBytes sha256 channel.begun
  sent : channel.credit.sent = creditedBytes sha256 channel.begun

/-- The last record is the one that is written: so many of its bytes are on the port, and credit
was asked for so many. -/
structure Midway (sha256 : List UInt8 → List UInt8) (channel : WorkerSerialChannel)
    (record : SerialRecord) (taken asked : ℕ) : Prop where
  parts : ∃ finished, channel.begun = finished ++ [record] ∧ AllEncoded sha256 finished ∧
    channel.written = recordBytes sha256 finished ++ (record.bytes sha256).take taken ∧
    channel.credit.sent = creditedBytes sha256 finished + if record.hello then 0 else asked

theorem Whole.framed (hwhole : Whole sha256 channel) : Framed sha256 channel := by
  refine ⟨channel.begun, [], (List.append_nil _).symm, Nat.zero_le _, hwhole.encoded, [],
    List.nil_prefix, ?_⟩
  rw [List.append_nil, hwhole.written]

theorem Midway.framed {taken asked : ℕ} (hmidway : Midway sha256 channel record taken asked) :
    Framed sha256 channel := by
  obtain ⟨finished, hbegun, hencoded, hwritten, -⟩ := hmidway.parts
  refine ⟨finished, [record], hbegun, Nat.le_refl _, hencoded, _, ?_, hwritten⟩
  rw [recordBytes_singleton]
  exact List.take_prefix _ _

theorem Midway.whole {taken asked : ℕ} (hmidway : Midway sha256 channel record taken asked)
    (hrecord : ∃ bytes, encodeWorkerSerialEnvelope sha256 record.frame = .ok bytes)
    (htaken : (record.bytes sha256).length ≤ taken)
    (hasked : record.hello = false → asked = (record.bytes sha256).length) :
    Whole sha256 channel := by
  obtain ⟨finished, hbegun, hencoded, hwritten, hsent⟩ := hmidway.parts
  constructor
  · rw [hbegun]
    exact hencoded.concat hrecord
  · rw [hwritten, hbegun, recordBytes_append, recordBytes_singleton,
      List.take_of_length_le htaken]
  · rw [hsent, hbegun, creditedBytes_concat]
    by_cases hhello : record.hello = true
    · rw [if_pos hhello, if_pos hhello]
    · rw [if_neg hhello, if_neg hhello, hasked (Bool.eq_false_iff.mpr hhello)]

end WorkerSerialChannel

/-! ## Where the writer is -/

namespace WritePhase

/-- How many bytes of a record of that length are on the port. -/
def taken (length : ℕ) : WritePhase → ℕ
  | .encoding => 0
  | .reserving offset => offset
  | .reserved offset _ => offset
  | .writing offset _ taken => offset + taken
  | .consuming => length
  | .consumed => length

/-- How many bytes credit was asked for. -/
def asked (length : ℕ) : WritePhase → ℕ
  | .encoding => 0
  | .reserving offset => offset
  | .reserved offset count => offset + count
  | .writing offset count _ => offset + count
  | .consuming => length
  | .consumed => length

/-- The chunk is part of the record, and only what needs credit waits for it. -/
def Within (length : ℕ) (hello : Bool) : WritePhase → Prop
  | .encoding => True
  | .reserving offset => offset ≤ length ∧ hello = false
  | .reserved offset count => offset + count ≤ length ∧ hello = false
  | .writing offset count taken => taken ≤ count ∧ offset + count ≤ length
  | .consuming => hello = false
  | .consumed => hello = false

end WritePhase

namespace WorkerSerialChannel

variable {channel after : WorkerSerialChannel} {record : SerialRecord} {writer : RecordWriter}

/-- The writer is midway in its record. -/
structure AtWork (sha256 : List UInt8 → List UInt8) (channel : WorkerSerialChannel)
    (writer : RecordWriter) : Prop where
  present : channel.maybeWriter = some writer
  midway : Midway sha256 channel writer.record
    (writer.phase.taken (writer.record.bytes sha256).length)
    (writer.phase.asked (writer.record.bytes sha256).length)
  within : writer.phase.Within (writer.record.bytes sha256).length writer.record.hello
  encoded : writer.phase ≠ .encoding →
    ∃ bytes, encodeWorkerSerialEnvelope sha256 writer.record.frame = .ok bytes
  consumed : writer.phase = .consumed →
    creditedBytes sha256 channel.begun ≤ channel.credit.received

/-- What the end of a record means: what is on the port, and that a success is whole and, but for a
greeting, consumed. -/
structure Ended (sha256 : List UInt8 → List UInt8) (channel after : WorkerSerialChannel)
    (record : SerialRecord) (outcome : Except SerialFailure Unit) : Prop where
  absent : after.maybeWriter = none
  awaited : after.maybeAwaited = (channel.writerEnds record outcome).maybeAwaited
  framed : Framed sha256 after
  whole : outcome = .ok () → Whole sha256 after
  consumed : outcome = .ok () → record.hello = false →
    creditedBytes sha256 after.begun ≤ after.credit.received
  last : ∃ finished, after.begun = finished ++ [record]

/-- What no event takes back. -/
structure Grows (channel after : WorkerSerialChannel) : Prop where
  begun : channel.begun <+: after.begun
  written : channel.written <+: after.written
  received : channel.credit.received ≤ after.credit.received
  writeFailed : channel.writeFailed = true → after.writeFailed = true

/-- What a turn of the writer leads to. -/
inductive Progress (sha256 : List UInt8 → List UInt8) (channel : WorkerSerialChannel)
    (record : SerialRecord) (after : WorkerSerialChannel) : Prop
  | stays (phase : WritePhase) (hwork : AtWork sha256 after { record := record, phase := phase })
      (hawaited : after.maybeAwaited = channel.maybeAwaited)
  | ends (outcome : Except SerialFailure Unit)
      (hended : Ended sha256 channel after record outcome)

/-! ## Turns of the writer -/

/-- The writer is midway, wherever it is suspended next. -/
structure Ready (sha256 : List UInt8 → List UInt8) (channel : WorkerSerialChannel)
    (record : SerialRecord) (offset : ℕ) : Prop where
  midway : Midway sha256 channel record offset offset
  encoded : ∃ bytes, encodeWorkerSerialEnvelope sha256 record.frame = .ok bytes
  offset_le : offset ≤ (record.bytes sha256).length

theorem Midway.of_eq {taken asked : ℕ} (hmidway : Midway sha256 channel record taken asked)
    (hbegun : after.begun = channel.begun) (hwritten : after.written = channel.written)
    (hsent : after.credit.sent = channel.credit.sent) :
    Midway sha256 after record taken asked := by
  constructor
  rw [hbegun, hwritten, hsent]
  exact hmidway.parts

/-- A record that fails leaves what is on the port. -/
theorem ended_error {taken asked : ℕ} (hmidway : Midway sha256 channel record taken asked)
    (failure : SerialFailure) :
    Ended sha256 channel (channel.writerEnds record (.error failure)) record (.error failure) where
  absent := rfl
  awaited := rfl
  framed := hmidway.framed
  whole := fun h => by cases h
  consumed := fun h => by cases h
  last := by
    obtain ⟨finished, hbegun, -⟩ := hmidway.parts
    exact ⟨finished, hbegun⟩

/-- A record that is whole ends as the last check says. -/
theorem ended_returns {taken asked : ℕ} (hmidway : Midway sha256 channel record taken asked)
    (hwhole : Whole sha256 channel)
    (hconsumed : record.hello = false →
      creditedBytes sha256 channel.begun ≤ channel.credit.received) :
    ∃ outcome, Ended sha256 channel (channel.writerReturns record) record outcome := by
  apply Exists.intro (if channel.stopped then .error (serialFailure "closed") else .ok ())
  exact {
    absent := rfl
    awaited := rfl
    framed := hmidway.framed
    whole := fun _ => ⟨hwhole.encoded, hwhole.written, hwhole.sent⟩
    consumed := fun _ => hconsumed
    last := by
      obtain ⟨finished, hbegun, -⟩ := hmidway.parts
      exact ⟨finished, hbegun⟩ }

theorem Ended.of_awaited {outcome : Except SerialFailure Unit} {before : WorkerSerialChannel}
    (hended : Ended sha256 channel after record outcome)
    (hawaited : channel.maybeAwaited = before.maybeAwaited) :
    Ended sha256 before after record outcome where
  absent := hended.absent
  awaited := by
    rw [hended.awaited, writerEnds, writerEnds, hawaited]
  framed := hended.framed
  whole := hended.whole
  consumed := hended.consumed
  last := hended.last

theorem Progress.of_awaited {before : WorkerSerialChannel}
    (hprogress : Progress sha256 channel record after)
    (hawaited : channel.maybeAwaited = before.maybeAwaited) :
    Progress sha256 before record after := by
  cases hprogress with
  | stays phase hwork hsame => exact .stays phase hwork (hsame.trans hawaited)
  | ends outcome hended => exact .ends outcome (hended.of_awaited hawaited)

/-- `consumed` is called, or looks again. -/
theorem progress_awaitConsumed (hmidway : Midway sha256 channel record
      (record.bytes sha256).length (record.bytes sha256).length)
    (hencoded : ∃ bytes, encodeWorkerSerialEnvelope sha256 record.frame = .ok bytes)
    (hhello : record.hello = false) :
    Progress sha256 channel record (channel.awaitConsumed record) := by
  rw [awaitConsumed]
  cases hturn : channel.credit.consumed record.send with
  | mk credit turn =>
      obtain ⟨failure, rfl, rfl⟩ | ⟨rfl, rfl⟩ | ⟨rfl, rfl, hall, -⟩ :=
        WorkerSerialCredit.consumed_cases hturn
      · exact .ends _ (ended_error hmidway failure)
      · show Progress sha256 channel record (suspend { channel with
          credit := channel.credit.wait record.send } record .consuming)
        refine Progress.stays .consuming ?_ rfl
        exact {
          present := rfl
          midway := hmidway.of_eq rfl rfl rfl
          within := hhello
          encoded := fun _ => hencoded
          consumed := fun h => by cases h }
      · show Progress sha256 channel record (suspend channel record .consumed)
        refine Progress.stays .consumed ?_ rfl
        exact {
          present := rfl
          midway := hmidway.of_eq rfl rfl rfl
          within := hhello
          encoded := fun _ => hencoded
          consumed := fun _ => by
            have hwhole := hmidway.whole hencoded (Nat.le_refl _) fun _ => rfl
            show creditedBytes sha256 channel.begun ≤ channel.credit.received
            rw [hall, hwhole.sent] }

/-- `reserve` is called, or looks again. -/
theorem progress_awaitCredit {offset : ℕ} (hready : Ready sha256 channel record offset)
    (hhello : record.hello = false) :
    Progress sha256 channel record (channel.awaitCredit sha256 record offset) := by
  rw [awaitCredit]
  cases hturn : channel.credit.reserve record.send
      (.natural ((record.bytes sha256).length - offset)) with
  | mk credit turn =>
      obtain ⟨failure, rfl, rfl⟩ | ⟨rfl, rfl, -⟩ | ⟨count, value, rfl, hwanted, -, -, hcount, -, -, -,
        rfl⟩ := WorkerSerialCredit.reserve_cases hturn
      · exact .ends _ (ended_error hready.midway failure)
      · show Progress sha256 channel record (suspend { channel with
          credit := channel.credit.wait record.send } record (.reserving offset))
        refine Progress.stays (.reserving offset) ?_ rfl
        exact {
          present := rfl
          midway := hready.midway.of_eq rfl rfl rfl
          within := ⟨hready.offset_le, hhello⟩
          encoded := fun _ => hready.encoded
          consumed := fun h => by cases h }
      · cases hwanted
        have hle := hready.offset_le
        have hwithin : offset + count ≤ (record.bytes sha256).length := by omega
        show Progress sha256 channel record (suspend { channel with
          credit := { channel.credit with sent := channel.credit.sent + count } } record
            (.reserved offset count))
        refine Progress.stays (.reserved offset count) ?_ rfl
        exact {
          present := rfl
          midway := by
            obtain ⟨finished, hbegun, hfinished, hwritten, hsent⟩ := hready.midway.parts
            refine ⟨finished, hbegun, hfinished, hwritten, ?_⟩
            show channel.credit.sent + count = _
            rw [hsent, hhello]
            exact Nat.add_assoc _ _ _
          within := ⟨hwithin, hhello⟩
          encoded := fun _ => hready.encoded
          consumed := fun h => by cases h }

/-- A native write begins. -/
theorem progress_beginWrite {offset count asked : ℕ}
    (hmidway : Midway sha256 channel record offset asked)
    (hasked : record.hello = false → asked = offset + count)
    (hencoded : ∃ bytes, encodeWorkerSerialEnvelope sha256 record.frame = .ok bytes)
    (hwithin : offset + count ≤ (record.bytes sha256).length) :
    Progress sha256 channel record (channel.beginWrite record offset count) := by
  rw [beginWrite]
  split
  · exact .ends _ (ended_error hmidway _)
  · refine Progress.stays (.writing offset count 0) ?_ rfl
    exact {
      present := rfl
      midway := by
        obtain ⟨finished, hbegun, hfinished, hwritten, hsent⟩ := hmidway.parts
        refine ⟨finished, hbegun, hfinished, hwritten, ?_⟩
        show channel.credit.sent = _
        rw [hsent]
        by_cases hhello : record.hello = true
        · rw [if_pos hhello, if_pos hhello]
        · rw [if_neg hhello, if_neg hhello, hasked (Bool.eq_false_iff.mpr hhello)]
          rfl
      within := ⟨Nat.zero_le _, hwithin⟩
      encoded := fun _ => hencoded
      consumed := fun h => by cases h }

/-- The head of the loop. -/
theorem progress_writeOn {offset : ℕ} (hready : Ready sha256 channel record offset) :
    Progress sha256 channel record (channel.writeOn sha256 record offset) := by
  have hle := hready.offset_le
  rw [writeOn]
  by_cases hend : (record.bytes sha256).length ≤ offset
  · have hoffset : offset = (record.bytes sha256).length := Nat.le_antisymm hle hend
    have hmidway := hready.midway
    rw [hoffset] at hmidway
    rw [if_pos hend]
    by_cases hhello : record.hello = true
    · rw [if_pos hhello]
      have hwhole := hmidway.whole hready.encoded (Nat.le_refl _) fun _ => rfl
      obtain ⟨outcome, hended⟩ := ended_returns hmidway hwhole fun hother => by
        rw [hhello] at hother
        cases hother
      exact .ends outcome hended
    · rw [if_neg hhello]
      exact progress_awaitConsumed hmidway hready.encoded (Bool.eq_false_iff.mpr hhello)
  · rw [if_neg hend]
    by_cases hstopped : channel.stopped = true
    · rw [if_pos hstopped]
      exact .ends _ (ended_error hready.midway _)
    · rw [if_neg hstopped]
      by_cases hhello : record.hello = true
      · rw [if_pos hhello]
        apply progress_beginWrite hready.midway _ hready.encoded
        · omega
        · intro hother
          rw [hhello] at hother
          cases hother
      · rw [if_neg hhello]
        exact progress_awaitCredit hready (Bool.eq_false_iff.mpr hhello)

/-- The encoder is done. -/
theorem progress_encoded (hmidway : Midway sha256 channel record 0 0) :
    Progress sha256 channel record (channel.encoded sha256 record) := by
  rw [encoded]
  cases hencode : encodeWorkerSerialEnvelope sha256 record.frame with
  | error error => exact .ends _ (ended_error hmidway _)
  | ok bytes =>
      simp only
      split
      · exact .ends _ (ended_error hmidway _)
      · exact progress_writeOn ⟨hmidway, ⟨bytes, hencode⟩, Nat.zero_le _⟩

/-- The port takes some bytes. -/
theorem progress_portTakes {offset count taken : ℕ} (more : ℕ)
    (hwork : AtWork sha256 channel { record := record, phase := .writing offset count taken }) :
    Progress sha256 channel record
      (channel.portTakes sha256 record offset count taken more) := by
  obtain ⟨htaken, hin⟩ := hwork.within
  obtain ⟨finished, hbegun, hfinished, hwritten, hsent⟩ := hwork.midway.parts
  rw [portTakes]
  refine Progress.stays (.writing offset count (taken + min more (count - taken))) ?_ rfl
  exact {
    present := rfl
    midway := by
      refine ⟨finished, hbegun, hfinished, ?_, hsent⟩
      show channel.written ++ _ = _
      rw [hwritten, List.append_assoc]
      congr 1
      show (record.bytes sha256).take (offset + taken) ++ _ =
        (record.bytes sha256).take (offset + (taken + min more (count - taken)))
      rw [← Nat.add_assoc]
      exact List.take_add.symm
    within := ⟨by omega, hin⟩
    encoded := fun _ => hwork.encoded fun h => by cases h
    consumed := fun h => by cases h }

/-- Every turn of the writer leaves it midway, or ends its record. -/
theorem progress_writerStep (hwork : AtWork sha256 channel writer) (event : ChannelEvent) :
    Progress sha256 channel writer.record (channel.writerStep sha256 writer event) := by
  have hidle : Progress sha256 channel writer.record channel :=
    .stays writer.phase hwork rfl
  obtain ⟨record, phase⟩ := writer
  have hmidway := hwork.midway
  have hencoded := hwork.encoded
  have hwithin := hwork.within
  cases event with
  | send frame => exact hidle
  | admitReceiveCredit => exact hidle
  | receiveCredit received => exact hidle
  | abortRecord => exact hidle
  | close => exact hidle
  | timedOut => exact hidle
  | drainResumes => exact hidle
  | encoded =>
      cases phase with
      | encoding => exact progress_encoded hmidway
      | reserving offset => exact hidle
      | reserved offset count => exact hidle
      | writing offset count taken => exact hidle
      | consuming => exact hidle
      | consumed => exact hidle
  | resumed =>
      rw [writerStep]
      split
      · generalize hwake : { channel with
          credit := channel.credit.resumed record.send } = woken
        have hwoken : Midway sha256 woken record
            (phase.taken (record.bytes sha256).length) (phase.asked (record.bytes sha256).length) := by
          rw [← hwake]
          exact hmidway.of_eq rfl rfl rfl
        have hawaited : woken.maybeAwaited = channel.maybeAwaited := by rw [← hwake]
        cases phase with
        | encoding => exact hidle
        | reserving offset =>
            have hready : Ready sha256 woken record offset :=
              ⟨hwoken, hencoded (fun h => by cases h), hwithin.1⟩
            exact (progress_awaitCredit hready hwithin.2).of_awaited hawaited
        | reserved offset count => exact hidle
        | writing offset count taken => exact hidle
        | consuming =>
            exact (progress_awaitConsumed hwoken (hencoded (fun h => by cases h))
              hwithin).of_awaited hawaited
        | consumed => exact hidle
      · exact hidle
  | reserved =>
      cases phase with
      | encoding => exact hidle
      | reserving offset => exact hidle
      | reserved offset count =>
          exact progress_beginWrite hmidway (fun _ => rfl) (hencoded fun h => by cases h) hwithin.1
      | writing offset count taken => exact hidle
      | consuming => exact hidle
      | consumed => exact hidle
  | portTakes more =>
      cases phase with
      | encoding => exact hidle
      | reserving offset => exact hidle
      | reserved offset count => exact hidle
      | writing offset count taken => exact progress_portTakes more hwork
      | consuming => exact hidle
      | consumed => exact hidle
  | writeResolved =>
      cases phase with
      | encoding => exact hidle
      | reserving offset => exact hidle
      | reserved offset count => exact hidle
      | writing offset count taken =>
          rw [writerStep]
          simp only
          split
          · next htaken =>
              subst htaken
              exact progress_writeOn ⟨hmidway, hencoded (fun h => by cases h), hwithin.2⟩
          · exact hidle
      | consuming => exact hidle
      | consumed => exact hidle
  | writeRejected =>
      cases phase with
      | encoding => exact hidle
      | reserving offset => exact hidle
      | reserved offset count => exact hidle
      | writing offset count taken => exact .ends _ (ended_error hmidway _)
      | consuming => exact hidle
      | consumed => exact hidle
  | consumed =>
      cases phase with
      | encoding => exact hidle
      | reserving offset => exact hidle
      | reserved offset count => exact hidle
      | writing offset count taken => exact hidle
      | consuming => exact hidle
      | consumed =>
          have hwhole := hmidway.whole (hencoded fun h => by cases h) (Nat.le_refl _) fun _ => rfl
          obtain ⟨outcome, hended⟩ := ended_returns hmidway hwhole fun _ => hwork.consumed rfl
          exact .ends outcome hended

/-! ## What a turn of the writer leaves alone -/

/-- Only the writer's own part of the channel changes. -/
structure WriterTurn (channel after : WorkerSerialChannel) : Prop where
  pending : after.pending = channel.pending
  writing : after.writing = channel.writing
  writeFailed : after.writeFailed = channel.writeFailed
  closed : after.closed = channel.closed
  sequence : after.sequence = channel.sequence
  sends : after.sends = channel.sends
  accepted : after.accepted = channel.accepted
  settled : after.settled = channel.settled
  begun : after.begun = channel.begun
  written : channel.written <+: after.written
  received : after.credit.received = channel.credit.received
  awaited : after.maybeAwaited.map AwaitedRecord.send = channel.maybeAwaited.map AwaitedRecord.send

theorem WriterTurn.refl (channel : WorkerSerialChannel) : WriterTurn channel channel :=
  ⟨rfl, rfl, rfl, rfl, rfl, rfl, rfl, rfl, rfl, List.prefix_refl _, rfl, rfl⟩

theorem writerTurn_suspend (record : SerialRecord) (phase : WritePhase) :
    WriterTurn channel (channel.suspend record phase) :=
  ⟨rfl, rfl, rfl, rfl, rfl, rfl, rfl, rfl, rfl, List.prefix_refl _, rfl, rfl⟩

theorem writerTurn_writerEnds (record : SerialRecord) (outcome : Except SerialFailure Unit) :
    WriterTurn channel (channel.writerEnds record outcome) := by
  refine ⟨rfl, rfl, rfl, rfl, rfl, rfl, rfl, rfl, rfl, List.prefix_refl _, rfl, ?_⟩
  rw [writerEnds, Option.map_map]
  congr 1
  funext awaited
  simp only [Function.comp]
  split
  · rfl
  · rfl

theorem WriterTurn.of_credit {credit : WorkerSerialCredit}
    (hturn : WriterTurn { channel with credit := credit } after)
    (hreceived : credit.received = channel.credit.received) : WriterTurn channel after :=
  ⟨hturn.pending, hturn.writing, hturn.writeFailed, hturn.closed, hturn.sequence, hturn.sends,
    hturn.accepted, hturn.settled, hturn.begun, hturn.written, hturn.received.trans hreceived,
    hturn.awaited⟩

theorem writerTurn_awaitConsumed (record : SerialRecord) :
    WriterTurn channel (channel.awaitConsumed record) := by
  rw [awaitConsumed]
  cases hturn : channel.credit.consumed record.send with
  | mk credit turn =>
      obtain ⟨failure, rfl, rfl⟩ | ⟨rfl, rfl⟩ | ⟨rfl, rfl, -⟩ :=
        WorkerSerialCredit.consumed_cases hturn
      · exact writerTurn_writerEnds record _
      · exact (writerTurn_suspend record .consuming).of_credit rfl
      · exact writerTurn_suspend record .consumed

theorem writerTurn_awaitCredit (record : SerialRecord) (offset : ℕ) :
    WriterTurn channel (channel.awaitCredit sha256 record offset) := by
  rw [awaitCredit]
  cases hturn : channel.credit.reserve record.send
      (.natural ((record.bytes sha256).length - offset)) with
  | mk credit turn =>
      obtain ⟨failure, rfl, rfl⟩ | ⟨rfl, rfl, -⟩ | ⟨count, value, rfl, -, -, -, -, -, -, -,
        rfl⟩ := WorkerSerialCredit.reserve_cases hturn
      · exact writerTurn_writerEnds record _
      · exact (writerTurn_suspend record (.reserving offset)).of_credit rfl
      · exact (writerTurn_suspend record (.reserved offset count)).of_credit rfl

theorem writerTurn_beginWrite (record : SerialRecord) (offset count : ℕ) :
    WriterTurn channel (channel.beginWrite record offset count) := by
  rw [beginWrite]
  split
  · exact writerTurn_writerEnds record _
  · exact writerTurn_suspend record _

theorem writerTurn_writeOn (record : SerialRecord) (offset : ℕ) :
    WriterTurn channel (channel.writeOn sha256 record offset) := by
  rw [writeOn]
  split
  · split
    · exact writerTurn_writerEnds record _
    · exact writerTurn_awaitConsumed record
  split
  · exact writerTurn_writerEnds record _
  split
  · exact writerTurn_beginWrite record _ _
  · exact writerTurn_awaitCredit record offset

theorem writerTurn_encoded (record : SerialRecord) :
    WriterTurn channel (channel.encoded sha256 record) := by
  rw [encoded]
  split
  · exact writerTurn_writerEnds record _
  split
  · exact writerTurn_writerEnds record _
  · exact writerTurn_writeOn record 0

theorem writerTurn_portTakes (record : SerialRecord) (offset count taken more : ℕ) :
    WriterTurn channel (channel.portTakes sha256 record offset count taken more) :=
  ⟨rfl, rfl, rfl, rfl, rfl, rfl, rfl, rfl, rfl, List.prefix_append _ _, rfl, rfl⟩

theorem writerTurn_writerStep (sha256 : List UInt8 → List UInt8) (channel : WorkerSerialChannel)
    (writer : RecordWriter) (event : ChannelEvent) :
    WriterTurn channel (channel.writerStep sha256 writer event) := by
  unfold writerStep
  split
  · split
    · exact writerTurn_encoded _
    · exact WriterTurn.refl _
  · split
    · split
      · exact (writerTurn_awaitCredit _ _).of_credit rfl
      · exact (writerTurn_awaitConsumed _).of_credit rfl
      · exact WriterTurn.refl _
    · exact WriterTurn.refl _
  · split
    · exact writerTurn_beginWrite _ _ _
    · exact WriterTurn.refl _
  · split
    · exact writerTurn_portTakes _ _ _ _ _
    · exact WriterTurn.refl _
  · split
    · split
      · exact writerTurn_writeOn _ _
      · exact WriterTurn.refl _
    · exact WriterTurn.refl _
  · split
    · exact writerTurn_writerEnds _ _
    · exact WriterTurn.refl _
  · split
    · exact writerTurn_writerEnds _ _
    · exact WriterTurn.refl _
  · exact WriterTurn.refl _

/-! ## Stages of the channel -/

/-- What a record that failed leaves: nothing, or its writer, which will find the channel
stopped. -/
inductive Remains (sha256 : List UInt8 → List UInt8) (channel : WorkerSerialChannel) : Prop
  | nothing (hwriter : channel.maybeWriter = none) (hframed : Framed sha256 channel)
  | writer (writer : RecordWriter) (hwork : AtWork sha256 channel writer)

/-- Where a channel is between two events. -/
inductive Stage (sha256 : List UInt8 → List UInt8) (channel : WorkerSerialChannel) : Prop
  | idle (hawaited : channel.maybeAwaited = none) (hwriter : channel.maybeWriter = none)
      (hwhole : Whole sha256 channel)
  | running (writer : RecordWriter)
      (hawaited : channel.maybeAwaited = some ⟨writer.record.send, none⟩)
      (hwork : AtWork sha256 channel writer)
  | finished (before : List SerialRecord) (record : SerialRecord)
      (hawaited : channel.maybeAwaited = some ⟨record.send, some (.ok ())⟩)
      (hwriter : channel.maybeWriter = none) (hwhole : Whole sha256 channel)
      (hbegun : channel.begun = before ++ [record])
      (hconsumed : record.hello = false →
        creditedBytes sha256 channel.begun ≤ channel.credit.received)
  | failing (send : ℕ) (failure : SerialFailure)
      (hawaited : channel.maybeAwaited = some ⟨send, some (.error failure)⟩)
      (hremains : Remains sha256 channel)
  | failed (hawaited : channel.maybeAwaited = none) (hfailed : channel.writeFailed = true)
      (hremains : Remains sha256 channel)

theorem Remains.framed (hremains : Remains sha256 channel) : Framed sha256 channel := by
  cases hremains with
  | nothing hwriter hframed => exact hframed
  | writer writer hwork => exact hwork.midway.framed

theorem Stage.framed (hstage : Stage sha256 channel) : Framed sha256 channel := by
  cases hstage with
  | idle hawaited hwriter hwhole => exact hwhole.framed
  | running writer hawaited hwork => exact hwork.midway.framed
  | finished before record hawaited hwriter hwhole hbegun hconsumed => exact hwhole.framed
  | failing send failure hawaited hremains => exact hremains.framed
  | failed hawaited hfailed hremains => exact hremains.framed

/-- What is written and who writes it stays the same. -/
structure SameWriting (channel after : WorkerSerialChannel) : Prop where
  begun : after.begun = channel.begun
  written : after.written = channel.written
  writer : after.maybeWriter = channel.maybeWriter
  sent : after.credit.sent = channel.credit.sent
  received : channel.credit.received ≤ after.credit.received

theorem Whole.of_same (hwhole : Whole sha256 channel) (hsame : SameWriting channel after) :
    Whole sha256 after := by
  constructor
  · rw [hsame.begun]
    exact hwhole.encoded
  · rw [hsame.written, hsame.begun, hwhole.written]
  · rw [hsame.sent, hsame.begun, hwhole.sent]

theorem AtWork.of_same (hwork : AtWork sha256 channel writer)
    (hsame : SameWriting channel after) : AtWork sha256 after writer where
  present := hsame.writer.trans hwork.present
  midway := hwork.midway.of_eq hsame.begun hsame.written hsame.sent
  within := hwork.within
  encoded := hwork.encoded
  consumed := fun hphase => by
    rw [hsame.begun]
    exact (hwork.consumed hphase).trans hsame.received

theorem Remains.of_same (hremains : Remains sha256 channel) (hsame : SameWriting channel after) :
    Remains sha256 after := by
  cases hremains with
  | nothing hwriter hframed =>
      apply Remains.nothing (hsame.writer.trans hwriter)
      rw [Framed, hsame.begun, hsame.written]
      exact hframed
  | writer writer hwork => exact .writer writer (hwork.of_same hsame)

theorem Stage.of_same (hstage : Stage sha256 channel) (hsame : SameWriting channel after)
    (hawaited : after.maybeAwaited = channel.maybeAwaited)
    (hfails : channel.writeFailed = true → after.writeFailed = true) : Stage sha256 after := by
  cases hstage with
  | idle hnone hwriter hwhole =>
      exact .idle (hawaited.trans hnone) (hsame.writer.trans hwriter) (hwhole.of_same hsame)
  | running writer hsome hwork =>
      exact .running writer (hawaited.trans hsome) (hwork.of_same hsame)
  | finished before record hsome hwriter hwhole hbegun hconsumed =>
      apply Stage.finished before record (hawaited.trans hsome) (hsame.writer.trans hwriter)
        (hwhole.of_same hsame) (hsame.begun.trans hbegun)
      intro hhello
      rw [hsame.begun]
      exact (hconsumed hhello).trans hsame.received
  | failing send failure hsome hremains =>
      exact .failing send failure (hawaited.trans hsome) (hremains.of_same hsame)
  | failed hnone hfailed hremains =>
      exact .failed (hawaited.trans hnone) (hfails hfailed) (hremains.of_same hsame)

/-- What is left of a record after one more turn of its writer. -/
theorem remains_of_progress {record : SerialRecord}
    (hprogress : Progress sha256 channel record after) : Remains sha256 after := by
  cases hprogress with
  | stays phase hwork hawaited => exact .writer _ hwork
  | ends outcome hended => exact .nothing hended.absent hended.framed

/-- A turn of the writer leads from stage to stage. -/
theorem stage_writerStep (hstage : Stage sha256 channel)
    (hpresent : channel.maybeWriter = some writer) (event : ChannelEvent) :
    Stage sha256 (channel.writerStep sha256 writer event) := by
  have hturn := writerTurn_writerStep sha256 channel writer event
  have hmoves : AtWork sha256 channel writer → Progress sha256 channel writer.record
      (channel.writerStep sha256 writer event) := fun hwork => progress_writerStep hwork event
  generalize channel.writerStep sha256 writer event = after at hturn hmoves
  have hkept : ∀ awaited, channel.maybeAwaited = some awaited → awaited.outcome.isSome = true →
      AtWork sha256 channel writer → after.maybeAwaited = some awaited := by
    intro awaited hawaited houtcome hwork
    cases hmoves hwork with
    | stays phase hstays hsame => rw [hsame, hawaited]
    | ends outcome hended =>
        rw [hended.awaited, writerEnds, hawaited, Option.map_some]
        cases hfound : awaited.outcome with
        | none =>
            rw [hfound] at houtcome
            cases houtcome
        | some found => simp
  cases hstage with
  | idle hawaited hwriter hwhole =>
      rw [hwriter] at hpresent
      cases hpresent
  | finished before record hawaited hwriter hwhole hbegun hconsumed =>
      rw [hwriter] at hpresent
      cases hpresent
  | running found hawaited hwork =>
      have hfound : found = writer := by
        rw [hwork.present] at hpresent
        exact Option.some.inj hpresent
      subst hfound
      cases hmoves hwork with
      | stays phase hstays hsame =>
          exact .running { record := found.record, phase := phase } (hsame.trans hawaited) hstays
      | ends outcome hended =>
          have hsettled : after.maybeAwaited =
              some ⟨found.record.send, some outcome⟩ := by
            rw [hended.awaited, writerEnds, hawaited]
            simp
          cases outcome with
          | error failure => exact .failing _ failure hsettled (.nothing hended.absent hended.framed)
          | ok done =>
              obtain ⟨finished, hbegun⟩ := hended.last
              exact .finished finished found.record hsettled hended.absent (hended.whole rfl) hbegun
                (hended.consumed rfl)
  | failing send failure hawaited hremains =>
      cases hremains with
      | nothing hwriter hframed =>
          rw [hwriter] at hpresent
          cases hpresent
      | writer found hwork =>
          have hfound : found = writer := by
            rw [hwork.present] at hpresent
            exact Option.some.inj hpresent
          subst hfound
          exact .failing send failure (hkept _ hawaited rfl hwork)
            (remains_of_progress (hmoves hwork))
  | failed hawaited hfailed hremains =>
      cases hremains with
      | nothing hwriter hframed =>
          rw [hwriter] at hpresent
          cases hpresent
      | writer found hwork =>
          have hfound : found = writer := by
            rw [hwork.present] at hpresent
            exact Option.some.inj hpresent
          subst hfound
          have hnone : after.maybeAwaited = none := by
            have hsends := hturn.awaited
            rw [hawaited, Option.map_none, Option.map_eq_none_iff] at hsends
            exact hsends
          exact .failed hnone (hturn.writeFailed.trans hfailed)
            (remains_of_progress (hmoves hwork))

/-! ## Turns of the loop -/

/-- A record that failed stops the channel. -/
theorem stage_recordFails (send : ℕ) (failure : SerialFailure)
    (hremains : Remains sha256 channel) : Stage sha256 (channel.recordFails send failure) :=
  .failed rfl rfl (hremains.of_same ⟨rfl, rfl, rfl, rfl, Nat.le_refl _⟩)

/-- A record is taken up where every other one is whole. -/
theorem stage_takeUp (next : PendingWrite) (hwhole : Whole sha256 channel) :
    Stage sha256 (channel.takeUp next) := by
  rw [takeUp]
  generalize hrecord : SerialRecord.mk next.send (withMember "sequence"
    (jsNatural (if isHello next.frame then 0 else channel.sequence + 1)) next.frame)
      (isHello next.frame) (if isHello next.frame then 0 else channel.sequence + 1) = record
  have hsend : record.send = next.send := by rw [← hrecord]
  apply Stage.running { record := record, phase := .encoding }
  · simp only [hsend]
  · exact {
      present := rfl
      midway := by
        refine ⟨channel.begun, rfl, hwhole.encoded, ?_, ?_⟩
        · exact hwhole.written.trans (List.append_nil _).symm
        · show channel.credit.sent = _
          rw [hwhole.sent]
          show creditedBytes sha256 channel.begun = _ + if record.hello then 0 else 0
          rw [ite_self, Nat.add_zero]
      within := trivial
      encoded := fun h => absurd rfl h
      consumed := fun h => by cases h }

/-- The loop goes on where every record is whole. -/
theorem stage_drainTurn (hwriter : channel.maybeWriter = none) (hwhole : Whole sha256 channel) :
    Stage sha256 channel.drainTurn := by
  have hends : Stage sha256 channel.drainEnds :=
    .idle rfl hwriter (hwhole.of_same ⟨rfl, rfl, rfl, rfl, Nat.le_refl _⟩)
  rw [drainTurn]
  split
  · exact hends
  split
  · exact hends
  simp only
  split
  · exact stage_recordFails _ _ (.nothing hwriter hwhole.framed)
  · exact stage_takeUp _ (hwhole.of_same ⟨rfl, rfl, rfl, rfl, Nat.le_refl _⟩)

/-! ## Every event -/

/-- Where a channel is, and that it waits for a record exactly while it drains. -/
structure Sound (sha256 : List UInt8 → List UInt8) (channel : WorkerSerialChannel) : Prop where
  stage : Stage sha256 channel
  writing : channel.writing = channel.maybeAwaited.isSome

theorem writing_drainTurn (hwriting : channel.writing = true) :
    channel.drainTurn.writing = channel.drainTurn.maybeAwaited.isSome := by
  rw [drainTurn]
  split
  · rfl
  split
  · rfl
  simp only
  split
  · rfl
  · exact hwriting

theorem sound_send (hsound : Sound sha256 channel) (frame : List (CodeUnits × JsValue)) :
    Sound sha256 (channel.send frame).1 := by
  have hsame : ∀ after, SameWriting channel after → after.maybeAwaited = channel.maybeAwaited →
      after.writeFailed = channel.writeFailed → Stage sha256 after := by
    intro after hsame hawaited hfails
    exact hsound.stage.of_same hsame hawaited fun h => hfails.trans h
  rw [send]
  split
  · exact ⟨hsame _ ⟨rfl, rfl, rfl, rfl, Nat.le_refl _⟩ rfl rfl, hsound.writing⟩
  · next hopen =>
      simp only [Bool.or_eq_true, not_or, Bool.not_eq_true] at hopen
      simp only
      split
      · exact ⟨hsame _ ⟨rfl, rfl, rfl, rfl, Nat.le_refl _⟩ rfl rfl, hsound.writing⟩
      · next hidle =>
          have hnone : channel.maybeAwaited = none := by
            have hwriting := hsound.writing
            rw [Bool.eq_false_iff.mpr hidle] at hwriting
            exact Option.isNone_iff_eq_none.mp (by simpa using hwriting.symm)
          cases hsound.stage with
          | idle hawaited hwriter hwhole =>
              constructor
              · exact stage_drainTurn hwriter (hwhole.of_same ⟨rfl, rfl, rfl, rfl, Nat.le_refl _⟩)
              · exact writing_drainTurn rfl
          | running writer hawaited hwork =>
              rw [hnone] at hawaited
              cases hawaited
          | finished before record hawaited hwriter hwhole hbegun hconsumed =>
              rw [hnone] at hawaited
              cases hawaited
          | failing send failure hawaited hremains =>
              rw [hnone] at hawaited
              cases hawaited
          | failed hawaited hfailed hremains =>
              rw [hfailed] at hopen
              cases hopen.1.2

theorem sound_writer (hsound : Sound sha256 channel) (event : ChannelEvent) :
    Sound sha256 ((channel.maybeWriter.map fun writer =>
      channel.writerStep sha256 writer event).getD channel) := by
  cases hpresent : channel.maybeWriter with
  | none => exact hsound
  | some writer =>
      constructor
      · exact stage_writerStep hsound.stage hpresent event
      · have hturn := writerTurn_writerStep sha256 channel writer event
        show (channel.writerStep sha256 writer event).writing = _
        rw [hturn.writing, hsound.writing, ← Option.isSome_map, ← hturn.awaited,
          Option.isSome_map]
        rfl

theorem sound_drain (hsound : Sound sha256 channel) {awaited : AwaitedRecord}
    (hawaited : channel.maybeAwaited = some awaited) (event : ChannelEvent) :
    Sound sha256 (channel.drainStep awaited event) := by
  have hwriting : channel.writing = true := by
    rw [hsound.writing, hawaited]
    rfl
  unfold drainStep
  split
  · split
    · next hnone =>
        constructor
        · cases hsound.stage with
          | idle hother hwriter hwhole =>
              rw [hother] at hawaited
              cases hawaited
          | running writer hother hwork =>
              exact .failing awaited.send _ rfl
                (.writer writer (hwork.of_same ⟨rfl, rfl, rfl, rfl, Nat.le_refl _⟩))
          | finished before record hother hwriter hwhole hbegun hconsumed =>
              rw [hother] at hawaited
              cases hawaited
              cases hnone
          | failing send failure hother hremains =>
              rw [hother] at hawaited
              cases hawaited
              cases hnone
          | failed hother hfailed hremains =>
              rw [hother] at hawaited
              cases hawaited
        · exact hwriting
    · exact hsound
  · split
    · exact hsound
    · next hdone =>
        cases hsound.stage with
        | idle hother hwriter hwhole =>
            rw [hother] at hawaited
            cases hawaited
        | running writer hother hwork =>
            rw [hother] at hawaited
            cases hawaited
            cases hdone
        | finished before record hother hwriter hwhole hbegun hconsumed =>
            constructor
            · exact stage_drainTurn hwriter (hwhole.of_same ⟨rfl, rfl, rfl, rfl, Nat.le_refl _⟩)
            · exact writing_drainTurn hwriting
        | failing send failure hother hremains =>
            rw [hother] at hawaited
            cases hawaited
            cases hdone
        | failed hother hfailed hremains =>
            rw [hother] at hawaited
            cases hawaited
    · next failure hfailure =>
        constructor
        · cases hsound.stage with
          | idle hother hwriter hwhole =>
              rw [hother] at hawaited
              cases hawaited
          | running writer hother hwork =>
              rw [hother] at hawaited
              cases hawaited
              cases hfailure
          | finished before record hother hwriter hwhole hbegun hconsumed =>
              rw [hother] at hawaited
              cases hawaited
              cases hfailure
          | failing send failure hother hremains => exact stage_recordFails _ _ hremains
          | failed hother hfailed hremains =>
              rw [hother] at hawaited
              cases hawaited
        · rfl
  · exact hsound

theorem sound_close (hsound : Sound sha256 channel) : Sound sha256 channel.close := by
  rw [close]
  split
  · exact hsound
  · exact ⟨hsound.stage.of_same ⟨rfl, rfl, rfl, rfl, Nat.le_refl _⟩ rfl fun _ => rfl,
      hsound.writing⟩

/-- Every event leads from stage to stage. -/
theorem sound_step (hsound : Sound sha256 channel) (event : ChannelEvent) :
    Sound sha256 (channel.step sha256 event).1 := by
  cases event with
  | send frame => exact sound_send hsound frame
  | admitReceiveCredit =>
      rw [step]
      cases hcredit : channel.credit.admitSession with
      | error failure => exact hsound
      | ok credit =>
          have hadvances := WorkerSerialCredit.advances_admitSession hcredit
          have hsent : credit.sent = channel.credit.sent := by
            rw [WorkerSerialCredit.admitSession] at hcredit
            split at hcredit
            · cases hcredit
            · cases hcredit
              rfl
          exact ⟨hsound.stage.of_same ⟨rfl, rfl, rfl, hsent, hadvances.received_le⟩ rfl id,
            hsound.writing⟩
  | receiveCredit received =>
      rw [step]
      cases hcredit : channel.credit.acknowledge received with
      | error failure => exact hsound
      | ok credit =>
          have hadvances := WorkerSerialCredit.advances_acknowledge hcredit
          have hsent : credit.sent = channel.credit.sent := by
            obtain ⟨-, rfl⟩ | ⟨value, -, -, -, rfl⟩ :=
              WorkerSerialCredit.acknowledge_cases hcredit
            · rfl
            · rfl
          exact ⟨hsound.stage.of_same ⟨rfl, rfl, rfl, hsent, hadvances.received_le⟩ rfl id,
            hsound.writing⟩
  | abortRecord =>
      exact ⟨hsound.stage.of_same ⟨rfl, rfl, rfl, rfl, Nat.le_refl _⟩ rfl fun _ => rfl,
        hsound.writing⟩
  | close => exact sound_close hsound
  | timedOut =>
      rw [step]
      cases hawaited : channel.maybeAwaited with
      | none => exact hsound
      | some awaited => exact sound_drain hsound hawaited .timedOut
  | drainResumes =>
      rw [step]
      cases hawaited : channel.maybeAwaited with
      | none => exact hsound
      | some awaited => exact sound_drain hsound hawaited .drainResumes
  | encoded => exact sound_writer hsound .encoded
  | resumed => exact sound_writer hsound .resumed
  | reserved => exact sound_writer hsound .reserved
  | portTakes count => exact sound_writer hsound (.portTakes count)
  | writeResolved => exact sound_writer hsound .writeResolved
  | writeRejected => exact sound_writer hsound .writeRejected
  | consumed => exact sound_writer hsound .consumed

end WorkerSerialChannel

end WorkGate
