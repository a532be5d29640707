/-
# What the reader of serial records guarantees (web/worker-serial.ts)

The bytes of an accepted envelope are collected whatever chunks they come in, and its text is read
into the frame the writer checked.  Both ends differ in one point: the writer lets half of a
surrogate pair pass, and the reader does not.
-/

import Mathlib.Data.List.Forall2
import WorkGate.Serial.Framer

namespace WorkGate

open WorkGate.Library WorkGate.Library.JsonText

namespace WorkerSerialFramer

variable {framer after : WorkerSerialFramer} {sha256 : List UInt8 → List UInt8} {receiving : Bool}

/-! ## Reading one envelope -/

/-- The session is open, and nothing is passed over. -/
structure Reading (framer : WorkerSerialFramer) : Prop where
  bootstrap : framer.bootstrap = false
  restart : framer.RestartOver
  discarding : framer.discarding = false

/-- A byte of a record is collected. -/
theorem pushByte_collect (hreading : framer.Reading) {byte : UInt8} (hbyte : byte ≠ 10)
    (hroom : framer.collected.length < maximumSerialWireBytes) :
    (pushByte sha256 receiving byte).Returns framer none
      { framer with collected := framer.collected ++ [byte] } := by
  have hobserve := observing_over hreading.restart (byte_over byte)
  rw [Attempt.Returns] at hobserve ⊢
  simp only [pushByte, Attempt.run_bind, hobserve]
  have hfull : ¬ maximumSerialWireBytes ≤ framer.collected.length := Nat.not_le.mpr hroom
  simp only [Attempt.run_get, hreading.discarding, Bool.false_eq_true, if_false, if_neg hfull,
    if_pos hbyte, Attempt.run_bind, Attempt.run_modify, Attempt.run_pure]

/-- The bytes of a record are collected. -/
theorem pushBytes_collect (hreading : framer.Reading) {bytes : List UInt8} (hbytes : 10 ∉ bytes)
    (hroom : framer.collected.length + bytes.length ≤ maximumSerialWireBytes) :
    (pushBytes sha256 receiving bytes).Returns framer []
      { framer with collected := framer.collected ++ bytes } := by
  induction bytes generalizing framer with
  | nil =>
      rw [pushBytes, Attempt.returns_pure, List.append_nil]
      exact ⟨rfl, rfl⟩
  | cons byte bytes ih =>
      rw [List.length_cons] at hroom
      rw [List.mem_cons, not_or] at hbytes
      have hfirst : (pushByte sha256 receiving byte).Returns framer none _ :=
        pushByte_collect hreading (Ne.symm hbytes.1) (by omega)
      have hothers := @ih { framer with collected := framer.collected ++ [byte] }
        ⟨hreading.bootstrap, hreading.restart, hreading.discarding⟩ hbytes.2
        (by simp only [List.length_append, List.length_cons, List.length_nil]; omega)
      simp only [pushBytes, Attempt.returns_bind, Attempt.returns_pure]
      refine ⟨none, _, hfirst, [], _, hothers, rfl, ?_⟩
      rw [List.append_assoc, List.singleton_append]

/-- One run after another. -/
theorem pushBytes_append {first second : List UInt8} {frames others : List WorkerSerialEnvelope}
    {between : WorkerSerialFramer} :
    (pushBytes sha256 receiving first).Returns framer frames between →
    (pushBytes sha256 receiving second).Returns between others after →
    (pushBytes sha256 receiving (first ++ second)).Returns framer (frames ++ others) after := by
  intro hfirst hsecond
  induction first generalizing framer frames with
  | nil =>
      rw [pushBytes, Attempt.returns_pure] at hfirst
      obtain ⟨rfl, rfl⟩ := hfirst
      exact hsecond
  | cons byte bytes ih =>
      simp only [List.cons_append, pushBytes, Attempt.returns_bind, Attempt.returns_pure]
        at hfirst ⊢
      obtain ⟨maybeFrame, pushed, hpush, rest, _, hrest, rfl, rfl⟩ := hfirst
      refine ⟨maybeFrame, pushed, hpush, rest ++ others, after, ih hrest, ?_, rfl⟩
      rw [List.append_assoc]

/-- What the record of an accepted envelope is read as. -/
theorem readEnvelope_encoded {envelope metadata : List (CodeUnits × JsValue)}
    {bytes : List UInt8} {frame : WorkerSerialEnvelope}
    (hencoded : EncodedEnvelope sha256 envelope bytes metadata frame) :
    readEnvelope sha256
        { value := .object (metadata ++ [(payloadKey, .object frame.payload)])
          payloadUtf8 := textBytes (print (.object frame.payload)) } = .ok frame := by
  have hread := parseWorkerSerialEnvelope_eq_ok hencoded.parsed
  have hnatural : requiredNatural (fieldOf
      (metadata ++ [(payloadKey, .object frame.payload)]) "payloadBytes") =
        some (textBytes (print (.object frame.payload))).length := by
    rw [fieldOf_append (by decide +kernel), fieldOf, hencoded.payloadBytes]
    rfl
  have hdigest : isText (fieldOf (metadata ++ [(payloadKey, .object frame.payload)])
      "payloadSha256") (sha256Base64UrlBytes sha256 (textBytes (print (.object frame.payload))))
        = true := by
    rw [fieldOf_append (by decide +kernel), fieldOf, hencoded.payloadSha256]
    exact beq_self_eq_true _
  have hbound : (isText (fieldOf (metadata ++ [(payloadKey, .object frame.payload)]) "kind")
      "control" && decide (maximumSerialControlPayloadBytes <
        (textBytes (print (.object frame.payload))).length)) = false := by
    rw [Bool.and_eq_false_iff, decide_eq_false_iff_not, Nat.not_lt]
    by_cases hcontrol : isText (fieldOf (metadata ++ [(payloadKey, .object frame.payload)])
        "kind") "control" = true
    · apply Or.inr
      have hbound := hread.bound hcontrol
      rw [hencoded.kept] at hbound
      exact hbound
    · exact Or.inl (Bool.not_eq_true _ ▸ hcontrol)
  have hrecord : readSerialRecord (.object
      (metadata ++ [(payloadKey, .object frame.payload)])) =
        .ok (metadata ++ [(payloadKey, .object frame.payload)]) := rfl
  simp only [readEnvelope, hrecord, bind, Except.bind, hread.profile, if_true, checkedEnvelope,
    hnatural, bne_self_eq_false, hdigest, Bool.not_true, Bool.or_false, Bool.false_eq_true,
    if_false, hbound, hencoded.parsed]

/-- The text of a printed object comes back from its bytes. -/
theorem decodeUtf8_print (members : List (CodeUnits × JsValue)) :
    decodeUtf8 (textBytes (print (.object members))) =
      some (String.ofList (print (.object members))) := by
  apply decodeUtf8_asBytes
  obtain ⟨rest, hprint⟩ : ∃ rest, print (.object members) = '{' :: rest := by
    cases members with
    | nil => exact ⟨_, rfl⟩
    | cons member members => exact ⟨_, rfl⟩
  rw [hprint, asBytes_ofList, List.flatMap_cons]
  have hopen : String.utf8EncodeChar '{' = [123] := by decide
  rw [hopen, List.singleton_append, List.take_succ_cons]
  intro heq
  exact absurd (List.head_eq_of_cons_eq heq) (by decide)

/-- A printed record is no diagnostic line. -/
theorem open_print (metadata : List (CodeUnits × JsValue)) (payload : JsValue) :
    (skipWhitespace (print (.object (metadata ++ [(payloadKey, payload)])))).head? =
      some '{' := by
  cases metadata with
  | nil => rfl
  | cons member members => rfl

/-- It has no other line ending. -/
theorem ending_print {envelope metadata : List (CodeUnits × JsValue)} {bytes : List UInt8}
    {frame : WorkerSerialEnvelope}
    (hencoded : EncodedEnvelope sha256 envelope bytes metadata frame) :
    '\r' ∉ print (.object (metadata ++ [(payloadKey, .object frame.payload)])) := by
  intro hmem
  exact absurd (@le_of_mem_print (.object _) hencoded.legible _ hmem) (by decide)

/-- The text of an accepted envelope is delivered. -/
theorem readText_encoded {envelope metadata : List (CodeUnits × JsValue)}
    {bytes : List UInt8} {frame : WorkerSerialEnvelope} {length frameOrdinal : ℕ}
    (hbootstrap : framer.bootstrap = false)
    (hencoded : EncodedEnvelope sha256 envelope bytes metadata frame)
    (hwellFormed : allWellFormed (.object frame.payload) = true) :
    (readText sha256 true
        (String.ofList (print (.object (metadata ++ [(payloadKey, .object frame.payload)]))))
        length frameOrdinal).Returns framer none
      { framer with received := framer.received ++ [(frame, frameOrdinal)] } := by
  have hparsed := parseWorkerSerialJson_print hencoded.legible hencoded.settled
    (hencoded.wellFormed hwellFormed)
  rw [payloadAfter_concat] at hparsed
  have hopen := open_print metadata (.object frame.payload)
  have hending := ending_print hencoded
  rw [Attempt.Returns, readText]
  simp only [String.toList_ofList, hopen, ne_eq, not_true_eq_false, if_false, if_neg hending,
    hparsed, readEnvelope_encoded hencoded, Except.mapError, Attempt.ofExcept, deliver, if_true,
    countWhileBootstrap, Attempt.run_bind, Attempt.run_pure, Attempt.run_modify, Attempt.run_get,
    hbootstrap, Bool.false_eq_true]

/-- At the end of a record what was collected is read. -/
theorem pushByte_end (hreading : framer.Reading)
    (hroom : framer.collected.length < maximumSerialWireBytes) :
    (pushByte sha256 receiving 10).run framer =
      (readRecord sha256 receiving framer.collected (framer.frameOrdinal + 1)).run
        { framer with collected := [], frameOrdinal := framer.frameOrdinal + 1 } := by
  have hobserve := observing_over hreading.restart (byte_over 10)
  rw [Attempt.Returns] at hobserve
  have hfull : ¬ maximumSerialWireBytes ≤ framer.collected.length := Nat.not_le.mpr hroom
  simp only [pushByte, Attempt.run_bind, hobserve, Attempt.run_get, hreading.discarding,
    Bool.false_eq_true, if_false, if_neg hfull, ne_eq, not_true_eq_false, Attempt.run_modify]

/-- What is read behind bytes that were only collected. -/
theorem pushBytes_behind {first second : List UInt8} {between : WorkerSerialFramer}
    (hfirst : (pushBytes sha256 receiving first).Returns framer [] between) :
    (pushBytes sha256 receiving (first ++ second)).run framer =
      (pushBytes sha256 receiving second).run between := by
  induction first generalizing framer with
  | nil =>
      rw [pushBytes, Attempt.returns_pure] at hfirst
      rw [hfirst.2, List.nil_append]
  | cons byte bytes ih =>
      simp only [pushBytes, Attempt.returns_bind, Attempt.returns_pure] at hfirst
      obtain ⟨maybeFrame, pushed, hpush, rest, _, hrest, hempty, rfl⟩ := hfirst
      obtain ⟨hnone, rfl⟩ := List.append_eq_nil_iff.mp hempty.symm
      rw [Attempt.Returns] at hpush
      simp only [List.cons_append, pushBytes, Attempt.run_bind, hpush, hnone, ih hrest,
        List.nil_append, Attempt.run_pure]
      cases (pushBytes sha256 receiving second).run between with
      | mk answer after =>
          cases answer with
          | error error => rfl
          | ok frames => rfl

/-- The bytes of an accepted envelope are collected, and its text is read. -/
theorem pushBytes_text {envelope metadata : List (CodeUnits × JsValue)}
    {bytes : List UInt8} {frame : WorkerSerialEnvelope} (hreading : framer.Reading)
    (hcollected : framer.collected = [])
    (hencoded : EncodedEnvelope sha256 envelope bytes metadata frame) :
    (pushBytes sha256 receiving bytes).run framer =
      (do
        let maybeFrame ← readText sha256 receiving
          (String.ofList (print (.object (metadata ++ [(payloadKey, .object frame.payload)]))))
          bytes.length (framer.frameOrdinal + 1)
        return maybeFrame.toList : FramerCall (List WorkerSerialEnvelope)).run
          { framer with collected := [], frameOrdinal := framer.frameOrdinal + 1 } := by
  generalize hrecord : metadata ++ [(payloadKey, JsValue.object frame.payload)] = record
  have hframe : bytes = textBytes (print (.object record)) ++ [10] := by
    have hfeed : String.utf8EncodeChar '\n' = [10] := by decide
    rw [hencoded.text, textBytes, asBytes_ofList, List.flatMap_append, List.flatMap_singleton,
      hfeed, textBytes, asBytes_ofList, hrecord]
  have hlength : bytes.length = (textBytes (print (.object record))).length + 1 := by
    rw [hframe, List.length_append, List.length_singleton]
  have hroom := hencoded.length
  have hplain : 10 ∉ textBytes (print (.object record)) := by
    intro hmem
    have hlegible := hencoded.legible
    rw [hrecord] at hlegible
    exact absurd (@le_of_mem_textBytes (.object record) hlegible _ hmem) (by decide)
  have hcollect : (pushBytes sha256 receiving (textBytes (print (.object record)))).Returns framer
      [] { framer with collected := framer.collected ++ textBytes (print (.object record)) } :=
    pushBytes_collect hreading hplain (by rw [hcollected, List.length_nil]; omega)
  rw [hcollected, List.nil_append] at hcollect
  have hmode : (framer.maybeRestart.any fun restart => restart.2.bootMode) = false := by
    cases hrestart : framer.maybeRestart with
    | none => rfl
    | some restart => exact (hreading.restart restart hrestart).2
  have hend := @pushByte_end
    { framer with collected := textBytes (print (.object record)) } sha256 receiving
    ⟨hreading.bootstrap, hreading.restart, hreading.discarding⟩ (by simp only; omega)
  simp only [readRecord, Attempt.run_bind, Attempt.run_get, hmode, Bool.false_eq_true, if_false,
    decodeUtf8_print] at hend
  rw [hlength, hframe, pushBytes_behind hcollect]
  simp only [pushBytes, Attempt.run_bind, Attempt.run_pure, hend, List.append_nil]

/-- The frame of an accepted envelope is delivered, and the reader is where it was. -/
theorem pushBytes_encoded {envelope metadata : List (CodeUnits × JsValue)}
    {bytes : List UInt8} {frame : WorkerSerialEnvelope} (hreading : framer.Reading)
    (hcollected : framer.collected = [])
    (hencoded : EncodedEnvelope sha256 envelope bytes metadata frame)
    (hwellFormed : allWellFormed (.object frame.payload) = true) :
    (pushBytes sha256 true bytes).Returns framer []
      { framer with
        frameOrdinal := framer.frameOrdinal + 1
        received := framer.received ++ [(frame, framer.frameOrdinal + 1)] } := by
  have hread := @readText_encoded
    { framer with collected := [], frameOrdinal := framer.frameOrdinal + 1 } sha256 envelope
    metadata bytes frame bytes.length (framer.frameOrdinal + 1) hreading.bootstrap hencoded
    hwellFormed
  rw [Attempt.Returns] at hread ⊢
  simp only [pushBytes_text hreading hcollected hencoded, Attempt.run_bind, hread,
    Attempt.run_pure, Option.toList_none, hcollected]

/-- The frame of an accepted envelope with half a pair in its payload is refused. -/
theorem pushBytes_refused {envelope metadata : List (CodeUnits × JsValue)}
    {bytes : List UInt8} {frame : WorkerSerialEnvelope} (hreading : framer.Reading)
    (hcollected : framer.collected = [])
    (hencoded : EncodedEnvelope sha256 envelope bytes metadata frame)
    (hwellFormed : allWellFormed (.object frame.payload) = false) :
    (pushBytes sha256 receiving bytes).run framer =
      (.error .json, { framer with frameOrdinal := framer.frameOrdinal + 1 }) := by
  have hparse : parse (String.ofList (print (.object
      (metadata ++ [(payloadKey, .object frame.payload)])))) =
        some (.object (metadata ++ [(payloadKey, .object frame.payload)])) := by
    rw [@parse_legible (.object _) hencoded.legible, settle_of_settled _ hencoded.settled]
  have hrefused : allWellFormed (.object
      (metadata ++ [(payloadKey, .object frame.payload)])) = false := by
    rw [← Bool.not_eq_true, allWellFormed, allWellFormedMembers_iff]
    intro hall
    have hpayload := (hall _ (List.mem_append_right _ (List.mem_singleton.mpr rfl))).2
    rw [hwellFormed] at hpayload
    cases hpayload
  have hjson : parseWorkerSerialJson (print (.object
      (metadata ++ [(payloadKey, .object frame.payload)]))) = none := by
    simp only [parseWorkerSerialJson, hparse, Option.bind_eq_bind, Option.bind_some, hrefused,
      guard, Bool.false_eq_true, if_false]
    rfl
  have hsyntax : hasMalformedSerialJsonSyntax (print (.object
      (metadata ++ [(payloadKey, .object frame.payload)]))) = false := by
    rw [hasMalformedSerialJsonSyntax, hparse]
    rfl
  have hopen := open_print metadata (.object frame.payload)
  have hending := ending_print hencoded
  rw [pushBytes_text hreading hcollected hencoded, Attempt.run_bind, readText]
  simp only [String.toList_ofList, hopen, ne_eq, not_true_eq_false, if_false, if_neg hending,
    hjson, hsyntax, Bool.false_eq_true, hcollected]
  rfl

/-! ## Chunks -/

theorem pushBytes_restart {bytes : List UInt8} {frames : List WorkerSerialEnvelope}
    (hover : framer.RestartOver)
    (h : (pushBytes sha256 receiving bytes).Returns framer frames after) :
    after.maybeRestart = framer.maybeRestart := by
  induction bytes generalizing framer frames with
  | nil =>
      rw [pushBytes, Attempt.returns_pure] at h
      rw [h.2]
  | cons byte bytes ih =>
      simp only [pushBytes, Attempt.returns_bind, Attempt.returns_pure] at h
      obtain ⟨maybeFrame, pushed, hpush, rest, _, hrest, -, rfl⟩ := h
      have hpushed := pushByte_restart hover hpush
      have hpushedOver : pushed.RestartOver := by
        rw [RestartOver, hpushed]
        exact hover
      rw [ih hpushedOver hrest, hpushed]

/-- A run over two pieces is a run over the first and a run over the second. -/
theorem pushBytes_split {first second : List UInt8} {frames : List WorkerSerialEnvelope}
    (h : (pushBytes sha256 receiving (first ++ second)).Returns framer frames after) :
    ∃ between early late, (pushBytes sha256 receiving first).Returns framer early between ∧
      (pushBytes sha256 receiving second).Returns between late after ∧ frames = early ++ late := by
  induction first generalizing framer frames with
  | nil =>
      refine ⟨framer, [], frames, ?_, h, rfl⟩
      rw [pushBytes, Attempt.returns_pure]
      exact ⟨rfl, rfl⟩
  | cons byte bytes ih =>
      simp only [List.cons_append, pushBytes, Attempt.returns_bind, Attempt.returns_pure] at h ⊢
      obtain ⟨maybeFrame, pushed, hpush, rest, _, hrest, rfl, rfl⟩ := h
      obtain ⟨between, early, late, hearly, hlate, rfl⟩ := ih hrest
      refine ⟨between, _, late, ⟨maybeFrame, pushed, hpush, early, between, hearly, rfl, rfl⟩,
        hlate, ?_⟩
      rw [List.append_assoc]

/-- How the bytes are cut makes no difference. -/
theorem pushes_of_pushBytes {chunks : List (List UInt8)} {frames : List WorkerSerialEnvelope}
    (hover : framer.RestartOver)
    (h : (pushBytes sha256 receiving chunks.flatten).Returns framer frames after) :
    (pushes sha256 receiving chunks).Returns framer frames after := by
  induction chunks generalizing framer frames with
  | nil => exact h
  | cons chunk chunks ih =>
      obtain ⟨between, early, late, hearly, hlate, rfl⟩ := pushBytes_split h
      have hbetween : between.RestartOver := by
        rw [RestartOver, pushBytes_restart hover hearly]
        exact hover
      simp only [pushes, push, Attempt.returns_bind, Attempt.returns_pure]
      exact ⟨early, between, ⟨(), framer, observing_over hover (bytesReceived_over _), hearly⟩,
        late, after, ih hbetween hlate, rfl, rfl⟩

end WorkerSerialFramer

/-! ## What was sent is what is received -/

/-- An object of JavaScript. -/
structure JsRecord where
  members : List (CodeUnits × JsValue)
  proper : Proper (.object members)

/-- The frame says what the envelope says, and of its payload what a text keeps. -/
structure Carries (envelope : JsRecord) (frame : WorkerSerialEnvelope) : Prop where
  kind : frame.kind = fieldOf envelope.members "kind"
  sessionId : frame.sessionId = fieldOf envelope.members "sessionId"
  sequence : fieldOf envelope.members "sequence" = jsNatural frame.sequence
  payload : .object frame.payload = jsonValue (fieldOf envelope.members "payload")

/-- The writer made these bytes of the envelope, and no text of its payload has half a pair. -/
structure SentAs (sha256 : List UInt8 → List UInt8) (envelope : JsRecord) (bytes : List UInt8) :
    Prop where
  encoded : encodeWorkerSerialEnvelope sha256 envelope.members = .ok bytes
  wellFormed : allWellFormed (jsonValue (fieldOf envelope.members "payload")) = true

/-- The reader is between two records of an open session. -/
structure WorkerSerialFramer.PastBootstrap (framer : WorkerSerialFramer) : Prop where
  reading : framer.Reading
  collected : framer.collected = []

namespace WorkerSerialFramer

variable {framer : WorkerSerialFramer} {sha256 : List UInt8 → List UInt8}

/-- The reader after these frames. -/
def afterFrames (framer : WorkerSerialFramer) (frames : List WorkerSerialEnvelope) :
    WorkerSerialFramer :=
  { framer with
    frameOrdinal := framer.frameOrdinal + frames.length
    received := framer.received ++ frames.zipIdx (framer.frameOrdinal + 1) }

/-- One envelope. -/
theorem pushBytes_sentAs (hpast : framer.PastBootstrap) {envelope : JsRecord}
    {bytes : List UInt8} (hsent : SentAs sha256 envelope bytes) :
    ∃ frame, Carries envelope frame ∧
      (pushBytes sha256 true bytes).Returns framer [] (framer.afterFrames [frame]) := by
  obtain ⟨metadata, frame, hencoded⟩ := encoded_of_ok envelope.proper hsent.encoded
  obtain ⟨given, hgiven, hpayload⟩ := hencoded.payload
  have hkept : JsValue.object frame.payload =
      jsonValue (fieldOf envelope.members "payload") := by
    rw [hgiven, jsonValue, hpayload]
  have hwellFormed := hsent.wellFormed
  rw [← hkept] at hwellFormed
  have hread := pushBytes_encoded hpast.reading hpast.collected hencoded hwellFormed
  exact ⟨frame, ⟨hencoded.kind, hencoded.sessionId, hencoded.sequence, hkept⟩, hread⟩

/-- One envelope after the other. -/
theorem pushBytes_sent (hpast : framer.PastBootstrap) {envelopes : List JsRecord}
    {frames : List (List UInt8)} (hsent : List.Forall₂ (SentAs sha256) envelopes frames) :
    ∃ delivered, List.Forall₂ Carries envelopes delivered ∧
      (pushBytes sha256 true frames.flatten).Returns framer [] (framer.afterFrames delivered) := by
  induction hsent generalizing framer with
  | nil =>
      apply Exists.intro []
      constructor
      · exact List.Forall₂.nil
      · rw [List.flatten_nil, pushBytes, Attempt.returns_pure]
        simp [afterFrames]
  | cons hfirst hothers ih =>
      obtain ⟨frame, hcarries, hframe⟩ := pushBytes_sentAs hpast hfirst
      have hnext : (framer.afterFrames [frame]).PastBootstrap :=
        ⟨⟨hpast.reading.bootstrap, hpast.reading.restart, hpast.reading.discarding⟩,
          hpast.collected⟩
      obtain ⟨delivered, hall, hdelivered⟩ := ih hnext
      refine ⟨frame :: delivered, List.Forall₂.cons hcarries hall, ?_⟩
      have hmoved : (framer.afterFrames [frame]).afterFrames delivered =
          framer.afterFrames (frame :: delivered) := by
        simp only [afterFrames, List.zipIdx_cons, List.zipIdx_nil, List.append_assoc,
          List.singleton_append, List.length_cons, List.length_nil, Nat.zero_add, Nat.add_assoc,
          Nat.add_comm 1 delivered.length]
      rw [List.flatten_cons, ← hmoved]
      exact pushBytes_append hframe hdelivered

end WorkerSerialFramer

/-- Envelopes the writer accepts, whose payloads have no half of a pair, are delivered as they
were sent, in order and with consecutive ordinals, however their bytes are cut; and the reader is
where it was. -/
theorem framer_delivers (sha256 : List UInt8 → List UInt8) {framer : WorkerSerialFramer}
    (hpast : framer.PastBootstrap) {envelopes : List JsRecord} {frames chunks : List (List UInt8)}
    (hsent : List.Forall₂ (SentAs sha256) envelopes frames)
    (hcut : chunks.flatten = frames.flatten) :
    ∃ delivered, List.Forall₂ Carries envelopes delivered ∧
      (WorkerSerialFramer.pushes sha256 true chunks).Returns framer []
        { framer with
          frameOrdinal := framer.frameOrdinal + delivered.length
          received := framer.received ++ delivered.zipIdx (framer.frameOrdinal + 1) } := by
  obtain ⟨delivered, hall, hdelivered⟩ := WorkerSerialFramer.pushBytes_sent hpast hsent
  rw [← hcut] at hdelivered
  exact ⟨delivered, hall,
    WorkerSerialFramer.pushes_of_pushBytes hpast.reading.restart hdelivered⟩

/-- An envelope the writer accepts is refused if its payload has half of a pair. -/
theorem pushes_refused {sha256 : List UInt8 → List UInt8} {framer : WorkerSerialFramer}
    (receiving : Bool) (hpast : framer.PastBootstrap) {envelope : JsRecord} {bytes : List UInt8}
    (hencode : encodeWorkerSerialEnvelope sha256 envelope.members = .ok bytes)
    (hhalf : allWellFormed (jsonValue (fieldOf envelope.members "payload")) = false) :
    (WorkerSerialFramer.pushes sha256 receiving [bytes]).run framer =
      (.error .json, { framer with frameOrdinal := framer.frameOrdinal + 1 }) := by
  obtain ⟨metadata, frame, hencoded⟩ := encoded_of_ok envelope.proper hencode
  obtain ⟨given, hgiven, hpayload⟩ := hencoded.payload
  rw [hgiven, jsonValue, ← hpayload] at hhalf
  have hrefused := @WorkerSerialFramer.pushBytes_refused _ _ receiving _ _ _ _ hpast.reading
    hpast.collected hencoded hhalf
  have hobserve := WorkerSerialFramer.observing_over hpast.reading.restart
    (WorkerSerialFramer.bytesReceived_over (.natural bytes.length))
  rw [Attempt.Returns] at hobserve
  simp only [WorkerSerialFramer.pushes, WorkerSerialFramer.push, Attempt.run_bind, hobserve,
    hrefused]

/-! ## One envelope, and one that is not delivered -/

/-- The digests of the payloads used here. -/
def knownSha256 (bytes : List UInt8) : List UInt8 :=
  if bytes = asBytes "{}" then
    [68, 19, 111, 163, 85, 179, 103, 138, 17, 70, 173, 22, 247, 232, 100, 158, 148, 251, 79, 194,
      31, 231, 126, 131, 16, 192, 96, 246, 28, 170, 255, 138]
  else
    [173, 254, 190, 128, 60, 72, 226, 134, 161, 63, 244, 220, 8, 78, 180, 173, 233, 174, 21, 136,
      23, 78, 57, 239, 196, 89, 35, 47, 138, 243, 128, 162]

/-- An envelope of the first session. -/
def envelopeOf (kind : String) (payload : List (CodeUnits × JsValue)) : List (CodeUnits × JsValue) :=
  [(CodeUnits.ofString "profile", jsText workerSerialProfile),
    (CodeUnits.ofString "kind", jsText kind),
    (CodeUnits.ofString "sessionId", jsText "AAAAAAAAAAAAAAAAAAAAAA"),
    (CodeUnits.ofString "sequence", jsNatural 1),
    (CodeUnits.ofString "payload", .object payload)]

/-- A new reader of an open session. -/
def openFramer : WorkerSerialFramer where
  bootstrap := false
  maybeRestart := none
  frameOrdinal := 0
  collected := []
  discarding := false
  bootstrapPrefixDiscarded := false
  bootstrapDiscardedBytes := 0
  diagnostics := []
  received := []

/-- What the writer makes of an envelope. -/
def sentBytes (envelope : List (CodeUnits × JsValue)) : List UInt8 :=
  match encodeWorkerSerialEnvelope knownSha256 envelope with
  | .ok bytes => bytes
  | .error _ => []

theorem openFramer_past : openFramer.PastBootstrap :=
  ⟨⟨rfl, fun _ hrestart => (Option.some_ne_none _ hrestart.symm).elim, rfl⟩, rfl⟩

/-- A heartbeat. -/
def heartbeatRecord : JsRecord where
  members := envelopeOf "heartbeat" []
  proper := ⟨by decide +kernel, trivial, trivial, trivial, Or.inr trivial,
    ⟨List.nodup_nil, trivial⟩, trivial⟩

/-- A heartbeat cut behind its fifth byte is delivered. -/
theorem framer_delivers_heartbeat : ∃ delivered,
    List.Forall₂ Carries [heartbeatRecord] delivered ∧
      (WorkerSerialFramer.pushes knownSha256 true
          [(sentBytes heartbeatRecord.members).take 5,
            (sentBytes heartbeatRecord.members).drop 5]).Returns openFramer []
        { openFramer with
          frameOrdinal := openFramer.frameOrdinal + delivered.length
          received := openFramer.received ++ delivered.zipIdx (openFramer.frameOrdinal + 1) } := by
  have hsent : SentAs knownSha256 heartbeatRecord (sentBytes heartbeatRecord.members) :=
    ⟨by decide +kernel, by decide +kernel⟩
  apply framer_delivers knownSha256 openFramer_past (List.Forall₂.cons hsent List.Forall₂.nil)
  rw [List.flatten_cons, List.flatten_singleton, List.flatten_singleton, List.take_append_drop]

/-- A payload with half a pair. -/
def halfPair : JsRecord where
  members := envelopeOf "diagnostic" [(CodeUnits.ofString "value", .string [0xD800])]
  proper := ⟨by decide +kernel, trivial, trivial, trivial, Or.inr trivial,
    ⟨List.nodup_singleton _, trivial, trivial⟩, trivial⟩

/-- A restart that is being watched, thirty seconds after it was asked for. -/
def lateRestart : RestartSetup where
  request := ⟨"AAAAAAAAAAAAAAAAAAAAAA", 1, by decide +kernel, by decide +kernel⟩
  firmwareSourceCommit := ""
  appElfSha256 := ""
  kind := .restart
  now := fun reading => if reading < 2 then some 0 else some 30000

/-- The writer accepts half a pair, and the reader does not; nor does a reader deliver anything
that watches a restart whose time is over. -/
theorem framer_rejects_halfPair :
    encodeWorkerSerialEnvelope knownSha256 halfPair.members = .ok (sentBytes halfPair.members) ∧
      (WorkerSerialFramer.pushes knownSha256 true [sentBytes halfPair.members]).run openFramer =
        (.error .json, { openFramer with frameOrdinal := 1 }) ∧
      encodeWorkerSerialEnvelope knownSha256 heartbeatRecord.members =
        .ok (sentBytes heartbeatRecord.members) ∧
      (WorkerSerialFramer.pushes knownSha256 true [sentBytes heartbeatRecord.members]).threw
        { openFramer with
          maybeRestart := some (lateRestart, (lateRestart.construct none).left .blank) } =
        true := by
  have hencode : encodeWorkerSerialEnvelope knownSha256 halfPair.members =
      .ok (sentBytes halfPair.members) := by decide +kernel
  constructor
  · exact hencode
  constructor
  · exact pushes_refused true openFramer_past hencode (by decide +kernel)
  constructor
  · decide +kernel
  · decide +kernel

end WorkGate
