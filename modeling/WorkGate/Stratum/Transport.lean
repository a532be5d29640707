/-
# Framing of the TCP proxy (src/stratum_v1/tcp.rs)

The established connection races two reads in every turn, one of the Worker and one of
the pool.  A read moves the bytes that arrived into its own buffer until it has a whole
line; the read that loses the race is dropped, and its buffer with it.  Frames stay
intact exactly as long as the losing read had not started on a line.
-/

import WorkGate.Library.Lines
import WorkGate.Library.Past
import WorkGate.Stratum.Session

namespace WorkGate

open WorkGate.Library

/-- The two ends of a proxied connection. -/
inductive Side
  | worker
  | upstream
  deriving DecidableEq

def Side.other : Side → Side
  | .worker => .upstream
  | .upstream => .worker

/-- The byte of a line feed. -/
def lineFeed : UInt8 := 10

/-- The byte of a carriage return. -/
def carriageReturn : UInt8 := 13

/-- One end as the proxy reads it: the bytes that arrived and no read has taken, whether more
can arrive, and the buffer of the read under way. -/
structure Reader where
  arrived : List UInt8
  closed : Bool
  bytes : List UInt8

namespace Reader

/-- A poll of `take(..).read_until(b'\n', &mut bytes)`: whether it finished, and the reader it
leaves. -/
def readUntil (reader : Reader) : Bool × Reader :=
  let (taken, left) := takeThrough lineFeed
    (maximumStratumFrameBytes + 1 - reader.bytes.length) reader.arrived
  let bytes := reader.bytes ++ taken
  (decide (bytes.getLast? = some lineFeed ∨ bytes.length = maximumStratumFrameBytes + 1 ∨
      (left = [] ∧ reader.closed = true)),
    { reader with
      arrived := left
      bytes := bytes })

/-- A read that starts over. -/
def dropRead (reader : Reader) : Reader := { reader with bytes := [] }

end Reader

/-- A line without its carriage return. -/
def trimLine (line : List UInt8) : List UInt8 :=
  if line.getLast? = some carriageReturn then line.dropLast else line

/-- What `read_bounded_frame` makes of the bytes it read. -/
def boundedFrame (bytes : List UInt8) : Except StratumV1Error (Option String) :=
  if bytes.length = 0 then .ok none
  else if bytes.length > maximumStratumFrameBytes ∨ bytes.getLast? ≠ some lineFeed then
    .error .frameTooLarge
  else match String.fromUTF8? ⟨(trimLine bytes.dropLast).toArray⟩ with
    | none => .error .invalidFrame
    | some frame => .ok (some frame)

/-- The established connection, as far as its framing goes. -/
structure Transport where
  worker : Reader
  upstream : Reader
  ended : Bool

namespace Transport

def reader (transport : Transport) : Side → Reader
  | .worker => transport.worker
  | .upstream => transport.upstream

/-- The connection with another reader on one side. -/
def setReader (transport : Transport) (side : Side) (reader : Reader) : Transport :=
  match side with
  | .worker => { transport with worker := reader }
  | .upstream => { transport with upstream := reader }

/-- Both reads of a turn are fresh. -/
def nextTurn (transport : Transport) : Transport :=
  { transport with
    worker := transport.worker.dropRead
    upstream := transport.upstream.dropRead }

end Transport

/-- What happens to the connection.  A poll says whether the loop goes on with the frame it may
find: refreshing the session, its answer and the effects of that can all end it. -/
inductive TransportEvent
  | arrive (side : Side) (bytes : List UInt8)
  | close (side : Side)
  | poll (side : Side) (goesOn : Bool)
  | timeout (side : Side)

/-- One event, with the frame it hands to the session. -/
def Transport.step (transport : Transport) : TransportEvent → Transport × Option (Side × String)
  | .arrive side bytes =>
      let reader := transport.reader side
      (transport.setReader side { reader with arrived := reader.arrived ++ bytes }, none)
  | .close side => (transport.setReader side { transport.reader side with closed := true }, none)
  | .timeout _ => ({ transport with ended := true }, none)
  | .poll side goesOn =>
      let (finished, reader) := (transport.reader side).readUntil
      let polled := transport.setReader side reader
      if finished then
        match boundedFrame reader.bytes with
        | .ok (some frame) =>
            if goesOn then (polled.nextTurn, some (side, frame))
            else ({ polled with ended := true }, none)
        | _ => ({ polled with ended := true }, none)
      else (polled, none)

/-- `run_established`: both ends are read until the loop ends. -/
def establishedConnection : Machine Transport TransportEvent (Option (Side × String)) where
  init := ⟨⟨[], false, []⟩, ⟨[], false, []⟩, false⟩
  admits := fun _ transport event => transport.ended = false ∧
    ∀ side bytes, event = .arrive side bytes → (transport.reader side).closed = false
  step := Transport.step

/-- The events of a connection with the frames they handed over, newest first. -/
abbrev TransportHistory := List (TransportEvent × Option (Side × String))

/-- The bytes one side sent. -/
def stream (side : Side) : TransportHistory → List UInt8
  | [] => []
  | (.arrive sender bytes, _) :: earlier =>
      if sender = side then stream side earlier ++ bytes else stream side earlier
  | _ :: earlier => stream side earlier

/-- The frames handed to the session from one side, oldest first. -/
def handedFrames (side : Side) : TransportHistory → List String
  | [] => []
  | (_, some (sender, frame)) :: earlier =>
      if sender = side then handedFrames side earlier ++ [frame] else handedFrames side earlier
  | (_, none) :: earlier => handedFrames side earlier

/-- The lines one side completed. -/
def lines (bytes : List UInt8) : List (List UInt8) := (segments lineFeed bytes).map trimLine

/-- The frames handed over from a side are the first lines it sent. -/
def FramesIntact (history : TransportHistory) : Prop :=
  ∀ side, (handedFrames side history).map asBytes <+: lines (stream side history)

/-- When a read is about to find a whole line, the other read has not started on one. -/
def NoPartialLine (_ : TransportHistory) (transport : Transport) : TransportEvent → Prop
  | .poll side _ =>
      lineFeed ∈ (transport.reader side).arrived.take
        (maximumStratumFrameBytes - (transport.reader side).bytes.length) →
          (transport.reader side.other).bytes = []
  | _ => True

instance (history : TransportHistory) (transport : Transport) :
    (event : TransportEvent) → Decidable (NoPartialLine history transport event)
  | .poll side _ => inferInstanceAs (Decidable (lineFeed ∈ (transport.reader side).arrived.take
      (maximumStratumFrameBytes - (transport.reader side).bytes.length) →
        (transport.reader side.other).bytes = []))
  | .arrive _ _ => isTrue trivial
  | .close _ => isTrue trivial
  | .timeout _ => isTrue trivial

instance (history : TransportHistory) (transport : Transport) :
    (event : TransportEvent) → Decidable (establishedConnection.admits history transport event)
  | .arrive side bytes => decidable_of_iff
      (transport.ended = false ∧ (transport.reader side).closed = false) (by
        simp [establishedConnection])
  | .poll side goesOn => decidable_of_iff (transport.ended = false) (by
      simp [establishedConnection])
  | .close side => decidable_of_iff (transport.ended = false) (by simp [establishedConnection])
  | .timeout side => decidable_of_iff (transport.ended = false) (by simp [establishedConnection])

/-! ## Readers of a connection -/

namespace Transport

variable {transport : Transport} {side : Side} {reader : Reader}

@[simp]
theorem reader_setReader : (transport.setReader side reader).reader side = reader := by
  cases side with
  | worker => rfl
  | upstream => rfl

theorem reader_setReader_of_ne {other : Side} (hne : other ≠ side) :
    (transport.setReader side reader).reader other = transport.reader other := by
  cases side with
  | worker =>
      cases other with
      | worker => exact absurd rfl hne
      | upstream => rfl
  | upstream =>
      cases other with
      | worker => rfl
      | upstream => exact absurd rfl hne

@[simp]
theorem reader_nextTurn : transport.nextTurn.reader side = (transport.reader side).dropRead := by
  cases side with
  | worker => rfl
  | upstream => rfl

end Transport

theorem Side.eq_other {side other : Side} (hne : other ≠ side) : side.other = other := by
  cases side with
  | worker =>
      cases other with
      | worker => exact absurd rfl hne
      | upstream => rfl
  | upstream =>
      cases other with
      | worker => rfl
      | upstream => exact absurd rfl hne

/-! ## One read -/

theorem asBytes_of_fromUTF8 {bytes : List UInt8} {text : String}
    (h : String.fromUTF8? ⟨bytes.toArray⟩ = some text) : asBytes text = bytes := by
  rw [String.fromUTF8?] at h
  split at h
  · cases h
    rfl
  · cases h

/-- A read that yields a frame ends with a line feed within the bound. -/
theorem boundedFrame_eq_some {bytes : List UInt8} {frame : String}
    (h : boundedFrame bytes = .ok (some frame)) :
    bytes.length ≤ maximumStratumFrameBytes ∧ bytes.getLast? = some lineFeed ∧
      asBytes frame = trimLine bytes.dropLast := by
  rw [boundedFrame] at h
  split at h
  · cases h
  · split at h
    · cases h
    · next hbound =>
        rw [not_or, Nat.not_lt, not_not] at hbound
        split at h
        · cases h
        · next text htext =>
            cases h
            exact ⟨hbound.1, hbound.2, asBytes_of_fromUTF8 htext⟩

namespace Reader

variable {reader after : Reader} {finished : Bool}

/-- Dropping a read that took nothing loses nothing. -/
theorem dropRead_of_empty (hempty : reader.bytes = []) : reader.dropRead = reader := by
  rw [dropRead, ← hempty]

/-- A poll moves bytes from what arrived to its buffer. -/
theorem append_of_readUntil (h : reader.readUntil = (finished, after)) :
    after.bytes ++ after.arrived = reader.bytes ++ reader.arrived := by
  simp only [readUntil, Prod.mk.injEq] at h
  obtain ⟨-, rfl⟩ := h
  rw [List.append_assoc, takeThrough_append]

/-- A poll that does not finish has not seen a line feed. -/
theorem not_mem_of_readUntil (h : reader.readUntil = (false, after))
    (hbytes : lineFeed ∉ reader.bytes) : lineFeed ∉ after.bytes := by
  simp only [readUntil, Prod.mk.injEq, decide_eq_false_iff_not, not_or] at h
  obtain ⟨⟨hlast, -⟩, rfl⟩ := h
  rw [List.mem_append, not_or]
  refine ⟨hbytes, ?_⟩
  rcases takeThrough_cases lineFeed (maximumStratumFrameBytes + 1 - reader.bytes.length)
    reader.arrived with habsent | ⟨segment, htaken, -⟩
  · exact habsent
  · rw [htaken, ← List.append_assoc, List.getLast?_concat] at hlast
    exact absurd rfl hlast

/-- A poll that finishes a frame took the rest of its line from what arrived. -/
theorem line_of_readUntil (h : reader.readUntil = (true, after))
    (hbytes : lineFeed ∉ reader.bytes) {frame : String}
    (hframe : boundedFrame after.bytes = .ok (some frame)) :
    ∃ segment, lineFeed ∉ segment ∧ reader.arrived = segment ++ lineFeed :: after.arrived ∧
      reader.bytes.length + segment.length < maximumStratumFrameBytes ∧
      asBytes frame = trimLine (reader.bytes ++ segment) := by
  obtain ⟨hlength, hlast, hline⟩ := boundedFrame_eq_some hframe
  have happend := takeThrough_append lineFeed
    (maximumStratumFrameBytes + 1 - reader.bytes.length) reader.arrived
  simp only [readUntil, Prod.mk.injEq] at h
  obtain ⟨-, rfl⟩ := h
  rcases takeThrough_cases lineFeed (maximumStratumFrameBytes + 1 - reader.bytes.length)
    reader.arrived with habsent | ⟨segment, htaken, hsegment⟩
  · -- without a line feed among the taken bytes the buffer could not end in one
    have hmem := List.mem_of_getLast? hlast
    rw [List.mem_append] at hmem
    exact absurd hmem (not_or.mpr ⟨hbytes, habsent⟩)
  · rw [htaken] at hlength hline happend
    refine ⟨segment, hsegment, ?_, ?_, ?_⟩
    · rw [List.append_assoc, List.singleton_append] at happend
      exact happend.symm
    · rw [List.length_append, List.length_append, List.length_singleton] at hlength
      omega
    · rw [hline, ← List.append_assoc, List.dropLast_concat]

end Reader

/-! ## Whole runs -/

theorem lines_append_cons {line : List UInt8} (hline : lineFeed ∉ line) (rest : List UInt8) :
    lines (line ++ lineFeed :: rest) = trimLine line :: lines rest := by
  rw [lines, segments_append_cons hline, List.map_cons, lines]

/-- Everything one side sent was handed over as whole lines, is held by the read under way or
has not been taken. -/
structure SideIntact (history : TransportHistory) (transport : Transport) (side : Side) : Prop where
  partialLine : lineFeed ∉ (transport.reader side).bytes
  accounted : ∃ consumed, stream side history =
      consumed ++ ((transport.reader side).bytes ++ (transport.reader side).arrived) ∧
    ∀ rest, lines (consumed ++ rest) = (handedFrames side history).map asBytes ++ lines rest

section Step

variable {history : TransportHistory} {transport : Transport} {side : Side}

theorem SideIntact.framesIntact (hintact : SideIntact history transport side) :
    (handedFrames side history).map asBytes <+: lines (stream side history) := by
  obtain ⟨consumed, hstream, hlines⟩ := hintact.accounted
  rw [hstream, hlines]
  exact List.prefix_append _ _

/-- An event that leaves a side's reader, bytes and frames alone leaves it intact. -/
theorem SideIntact.frame {later : TransportHistory} {after : Transport}
    (hintact : SideIntact history transport side)
    (hreader : after.reader side = transport.reader side)
    (hstream : stream side later = stream side history)
    (hframes : handedFrames side later = handedFrames side history) :
    SideIntact later after side where
  partialLine := by
    rw [hreader]
    exact hintact.partialLine
  accounted := by
    rw [hreader, hstream, hframes]
    exact hintact.accounted

theorem sideIntact_arrive {sender : Side} {bytes : List UInt8}
    (hintact : SideIntact history transport side) :
    SideIntact ((.arrive sender bytes, none) :: history)
      (transport.step (.arrive sender bytes)).1 side := by
  by_cases hside : side = sender
  · subst hside
    constructor
    · rw [Transport.step, Transport.reader_setReader]
      exact hintact.partialLine
    · obtain ⟨consumed, hstream, hlines⟩ := hintact.accounted
      refine ⟨consumed, ?_, hlines⟩
      rw [Transport.step, Transport.reader_setReader, stream, if_pos rfl, hstream]
      simp only [List.append_assoc]
  · apply hintact.frame
    · exact Transport.reader_setReader_of_ne hside
    · rw [stream, if_neg (Ne.symm hside)]
    · rfl

theorem sideIntact_close {sender : Side} (hintact : SideIntact history transport side) :
    SideIntact ((.close sender, none) :: history) (transport.step (.close sender)).1 side := by
  by_cases hside : side = sender
  · subst hside
    constructor
    · rw [Transport.step, Transport.reader_setReader]
      exact hintact.partialLine
    · rw [Transport.step, Transport.reader_setReader]
      exact hintact.accounted
  · exact hintact.frame (Transport.reader_setReader_of_ne hside) rfl rfl

/-- A poll that does not finish only moves bytes into its buffer. -/
theorem sideIntact_pending {polled : Side} {goesOn : Bool} {after : Reader}
    (hintact : SideIntact history transport side)
    (hread : (transport.reader polled).readUntil = (false, after)) :
    SideIntact ((.poll polled goesOn, none) :: history) (transport.setReader polled after)
      side := by
  by_cases hside : side = polled
  · subst hside
    constructor
    · rw [Transport.reader_setReader]
      exact Reader.not_mem_of_readUntil hread hintact.partialLine
    · rw [Transport.reader_setReader, Reader.append_of_readUntil hread]
      exact hintact.accounted
  · exact hintact.frame (Transport.reader_setReader_of_ne hside) rfl rfl

/-- A poll that finishes a frame completes a line of its side. -/
theorem sideIntact_handed {goesOn : Bool} {after : Reader} {frame : String}
    (hintact : SideIntact history transport side)
    (hread : (transport.reader side).readUntil = (true, after))
    (hframe : boundedFrame after.bytes = .ok (some frame)) :
    SideIntact ((.poll side goesOn, some (side, frame)) :: history)
      (transport.setReader side after).nextTurn side := by
  obtain ⟨segment, hsegment, harrived, -, hline⟩ :=
    Reader.line_of_readUntil hread hintact.partialLine hframe
  obtain ⟨consumed, hstream, hlines⟩ := hintact.accounted
  constructor
  · rw [Transport.reader_nextTurn]
    exact List.not_mem_nil
  · refine ⟨consumed ++ ((transport.reader side).bytes ++ segment ++ [lineFeed]), ?_, ?_⟩
    · rw [Transport.reader_nextTurn, Transport.reader_setReader, Reader.dropRead,
        List.nil_append, stream, hstream, harrived]
      simp only [List.append_assoc, List.singleton_append]
      exact nofun
    · intro rest
      have habsent : lineFeed ∉ (transport.reader side).bytes ++ segment := by
        rw [List.mem_append, not_or]
        exact ⟨hintact.partialLine, hsegment⟩
      rw [List.append_assoc, hlines, List.append_assoc _ [lineFeed], List.singleton_append,
        lines_append_cons habsent, handedFrames, if_pos rfl, List.map_append, List.append_assoc,
        List.map_singleton, hline, List.singleton_append]

/-- The other side of a finished frame loses nothing when it had not started on a line. -/
theorem sideIntact_dropped {polled : Side} {goesOn : Bool} {after : Reader} {frame : String}
    (hintact : SideIntact history transport side) (hside : side ≠ polled)
    (hempty : (transport.reader side).bytes = []) :
    SideIntact ((.poll polled goesOn, some (polled, frame)) :: history)
      (transport.setReader polled after).nextTurn side := by
  apply hintact.frame
  · rw [Transport.reader_nextTurn, Transport.reader_setReader_of_ne hside,
      Reader.dropRead_of_empty hempty]
  · rfl
  · rw [handedFrames, if_neg (Ne.symm hside)]

/-- One event keeps both sides intact, when the losing read had not started on a line. -/
theorem sidesIntact_step {event : TransportEvent}
    (hintact : ∀ side, SideIntact history transport side)
    (hwhole : NoPartialLine history transport event)
    (hopen : (transport.step event).1.ended = false) :
    ∀ side, SideIntact ((event, (transport.step event).2) :: history) (transport.step event).1
      side := by
  intro side
  cases event with
  | arrive sender bytes => exact sideIntact_arrive (hintact side)
  | close sender => exact sideIntact_close (hintact side)
  | timeout sender => simp [Transport.step] at hopen
  | poll polled goesOn =>
      cases hread : (transport.reader polled).readUntil with
      | mk finished after =>
          simp only [Transport.step, hread] at hopen ⊢
          cases finished with
          | false => exact sideIntact_pending (hintact side) hread
          | true =>
              simp only [↓reduceIte] at hopen ⊢
              split at hopen
              · next frame hframe =>
                  cases goesOn with
                  | false => simp at hopen
                  | true =>
                      by_cases hside : side = polled
                      · subst hside
                        exact sideIntact_handed (hintact side) hread hframe
                      · apply sideIntact_dropped (hintact side) hside
                        obtain ⟨segment, -, harrived, hlength, -⟩ :=
                          Reader.line_of_readUntil hread (hintact polled).partialLine hframe
                        rw [← Side.eq_other hside]
                        apply hwhole
                        rw [harrived]
                        exact mem_take_append_cons (Nat.lt_sub_of_add_lt (by omega))
              · simp at hopen

end Step

/-- As long as no read is dropped in the middle of a line, the frames handed over from each
side are the first lines it sent. -/
theorem frames_intact {history : TransportHistory} {transport : Transport}
    (hrun : (establishedConnection.under NoPartialLine).Run history transport)
    (hopen : transport.ended = false) : FramesIntact history := by
  have hintact : transport.ended = false → ∀ side, SideIntact history transport side := by
    refine Machine.Run.invariant
      (P := fun h t => t.ended = false → ∀ side, SideIntact h t side) ?_ ?_ hrun
    · intro _ side
      cases side with
      | worker => exact ⟨List.not_mem_nil, [], rfl, fun _ => rfl⟩
      | upstream => exact ⟨List.not_mem_nil, [], rfl, fun _ => rfl⟩
    · intro h t event hadmits hprior hlater
      exact sidesIntact_step (hprior hadmits.1.1) hadmits.2 hlater
  exact fun side => (hintact hopen side).framesIntact

/-- A Worker line that arrives in two parts, with a frame of the pool in between. -/
def interleavedEvents : List TransportEvent :=
  [.arrive .worker [97, 98], .poll .worker true, .poll .upstream true,
    .arrive .upstream [120, 10], .poll .upstream true, .arrive .worker [99, 10],
    .poll .worker true]

/-- The first part of the line is lost: the session is handed "c" where the Worker sent
"abc". -/
theorem interleaved_losesBytes : ¬ ∀ (history : TransportHistory) (transport : Transport),
    establishedConnection.Run history transport → transport.ended = false →
      FramesIntact history := by
  intro hclaim
  have hintact := hclaim _ _ (Machine.run_replay interleavedEvents (by decide +kernel))
    (by decide +kernel) .worker
  revert hintact
  decide +kernel

/-- The same bytes in an order in which the Worker's line is whole before the pool's. -/
def wholeLineEvents : List TransportEvent :=
  [.arrive .worker [97, 98], .poll .upstream true, .poll .worker true, .arrive .worker [99, 13, 10],
    .poll .worker true, .arrive .upstream [120, 10], .poll .upstream true]

theorem wholeLine_intact :
    FramesIntact ((establishedConnection.under NoPartialLine).replay wholeLineEvents).1 ∧
      handedFrames .worker (establishedConnection.replay wholeLineEvents).1 = ["abc"] :=
  ⟨frames_intact (Machine.run_replay wholeLineEvents (by decide +kernel)) (by decide +kernel),
    by decide +kernel⟩

end WorkGate
