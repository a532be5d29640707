/-
# Envelopes of the serial protocol (web/worker-serial.ts)

An envelope is written as one line of JSON with the length and the digest of its payload.  The
writer reads back what it is about to send, and the reader reads what it received, with the same
function.
-/

import Mathlib.Data.List.Perm.Subperm
import WorkGate.Serial.Lexeme
import WorkGate.Serial.Records

namespace WorkGate

open WorkGate.Library WorkGate.Library.JsonText

/-- What the functions here throw: a failure of the protocol, the one of `worker-serial-lexeme`, or
the one of the built-in parser. -/
inductive SerialError
  | failure (failure : SerialFailure)
  | json
  | syntaxError
  deriving DecidableEq

/-- `WORKER_SERIAL_PROFILE`. -/
def workerSerialProfile : String := "bwg-worker-serial/0.2"

/-- `MAXIMUM_SERIAL_CONTROL_PAYLOAD_BYTES`. -/
def maximumSerialControlPayloadBytes : ℕ := 65536

/-- `MAXIMUM_SERIAL_WIRE_BYTES`. -/
def maximumSerialWireBytes : ℕ := 66560

/-- `WorkerSerialKind`. -/
def workerSerialKinds : List String := ["session", "control", "heartbeat", "diagnostic"]

/-- An element of an array in the text of the array; nothing stands for null and undefined. -/
def elementText (element : JsValue) (text : List Char) : List Char :=
  match element with
  | .undefined => []
  | .null => []
  | _ => text

/-- The text is one of the kinds. -/
def isKindText (text : List Char) : Bool := (workerSerialKinds.map String.toList).contains text

/-- `String(value)` of what is no array. -/
def plainString : JsValue → List Char
  | .undefined => "undefined".toList
  | .null => "null".toList
  | .bool flag => (if flag then "true" else "false").toList
  | .number number => printNumber number
  | .string units => (CodeUnits.pieces units).map CodeUnits.Piece.character
  | .array _ => []
  | .object _ => "[object Object]".toList

mutual

/-- `String(value)`. -/
def stringOf : JsValue → List Char
  | .array elements => joinedElements elements
  | value => plainString value

/-- The elements of an array with commas between them. -/
def joinedElements : List JsValue → List Char
  | [] => []
  | [element] => elementText element (stringOf element)
  | element :: other :: elements =>
      elementText element (stringOf element) ++ ',' :: joinedElements (other :: elements)

end

/-- `WorkerSerialEnvelope`, as `parseWorkerSerialEnvelope` gives it: the kind and the session are the
values of the record. -/
structure WorkerSerialEnvelope where
  kind : JsValue
  sessionId : JsValue
  sequence : ℕ
  payload : List (CodeUnits × JsValue)

/-- A greeting has no session yet, and everything else has one. -/
def namesSession (hello : Bool) (sessionId : JsValue) (sequence : ℕ) : Bool :=
  match hello, sessionId with
  | true, .null => sequence == 0
  | true, _ => false
  | false, sessionId => (plainText sessionId).any serialToken

/-- `parseWorkerSerialEnvelope`. -/
def parseWorkerSerialEnvelope (input : JsValue) : Except SerialFailure WorkerSerialEnvelope := do
  let value ← readExactRecord input
    ["profile", "kind", "sessionId", "sequence", "payload", "payloadBytes", "payloadSha256"]
  let kind := fieldOf value "kind"
  let sessionId := fieldOf value "sessionId"
  let maybeSequence := (requiredNatural (fieldOf value "sequence")).filter (· ≤ 0xffffffff)
  if !isText (fieldOf value "profile") workerSerialProfile ||
      !isKindText (stringOf kind) then
    .error (serialFailure "envelope")
  else match maybeSequence with
  | none => .error (serialFailure "envelope")
  | some sequence => do
    let payload ← readSerialRecord (fieldOf value "payload")
    let maybeBytes := (requiredNatural (fieldOf value "payloadBytes")).filter fun bytes =>
      2 ≤ bytes && bytes ≤ maximumSerialWireBytes
    if maybeBytes.isNone || !(plainText (fieldOf value "payloadSha256")).any serialNonce then
      .error (serialFailure "integrity")
    else
      let hello := isText kind "session" && isText (fieldOf payload "op") "hello"
      if !namesSession hello sessionId sequence then .error (serialFailure "session")
      else if isText kind "heartbeat" && payload.length != 0 then
        .error (serialFailure "heartbeat")
      else if isText kind "control" && decide (maximumSerialControlPayloadBytes <
          (textBytes (print (jsonValue (.object payload)))).length) then
        .error (serialFailure "payload_bound")
      else .ok { kind := kind, sessionId := sessionId, sequence := sequence, payload := payload }

/-- `sha256Base64UrlBytes`. -/
def sha256Base64UrlBytes (sha256 : List UInt8 → List UInt8) (bytes : List UInt8) : String :=
  Base64Url.encode (sha256 bytes)

/-- `{ ...record, key: value }`. -/
def withMember (key : String) (value : JsValue) (record : List (CodeUnits × JsValue)) :
    List (CodeUnits × JsValue) :=
  setMember (CodeUnits.ofString key) value record

/-- The `metadata` of an envelope whose payload has these bytes. -/
def envelopeMetadata (sha256 : List UInt8 → List UInt8) (envelope : List (CodeUnits × JsValue))
    (payloadUtf8 : List UInt8) : List (CodeUnits × JsValue) :=
  let header := envelope.filter fun member => member.1 ≠ payloadKey
  withMember "payloadSha256" (jsText (sha256Base64UrlBytes sha256 payloadUtf8))
    (withMember "payloadBytes" (jsNatural payloadUtf8.length) header)

/-- `encodeWorkerSerialEnvelope`. -/
def encodeWorkerSerialEnvelope (sha256 : List UInt8 → List UInt8)
    (envelope : List (CodeUnits × JsValue)) : Except SerialError (List UInt8) :=
  match maybeStringify (fieldOf envelope "payload") with
  | none => .error .syntaxError
  | some payloadJson =>
    let metadata := envelopeMetadata sha256 envelope (textBytes payloadJson)
    match parse (String.ofList payloadJson) with
    | none => .error .syntaxError
    | some payload =>
      match parseWorkerSerialEnvelope (.object (withMember "payload" payload metadata)) with
      | .error failure => .error (.failure failure)
      | .ok _ =>
        let bytes := textBytes ((print (jsonValue (.object metadata))).dropLast ++
          ",\"payload\":".toList ++ payloadJson ++ ['}', '\n'])
        if bytes.length > maximumSerialWireBytes then
          .error (.failure (serialFailure "wire_bound"))
        else .ok bytes

/-! ## Values that are carried as they are -/

theorem wellFormed_single {unit : UInt16} (hhigh : CodeUnits.isHighSurrogate unit = false)
    (hlow : CodeUnits.isLowSurrogate unit = false) (rest : CodeUnits) :
    wellFormed (unit :: rest) = wellFormed rest := by
  cases rest with
  | nil => simp [wellFormed, hhigh, hlow]
  | cons next rest => simp [wellFormed, hhigh, hlow]

theorem wellFormed_pair {high low : UInt16} (hhigh : CodeUnits.isHighSurrogate high = true)
    (hlow : CodeUnits.isLowSurrogate low = true) (rest : CodeUnits) :
    wellFormed (high :: low :: rest) = wellFormed rest := by
  have hother : CodeUnits.isLowSurrogate high = false := by
    simp only [CodeUnits.isHighSurrogate, CodeUnits.isLowSurrogate, Bool.and_eq_true,
      Bool.and_eq_false_iff, decide_eq_true_eq, decide_eq_false_iff_not] at hhigh ⊢
    omega
  simp [wellFormed, hother, hhigh, hlow]

/-- A text of characters is well formed. -/
theorem wellFormed_ofString (text : String) : wellFormed (CodeUnits.ofString text) = true := by
  rw [CodeUnits.ofString]
  induction text.toList with
  | nil => rfl
  | cons character characters ih =>
      rw [List.flatMap_cons]
      rcases CodeUnits.ofChar_cases character with ⟨unit, hunit, hsingle, hhigh⟩ |
        ⟨high, low, hunits, hhigh, hlow, -⟩
      · have hlow : CodeUnits.isLowSurrogate unit = false := by
          by_cases hlow : CodeUnits.isLowSurrogate unit = true
          · rw [CodeUnits.single, hlow, Bool.or_true, if_pos rfl] at hsingle
            cases hsingle
          · simpa using hlow
        rw [hunit, List.singleton_append, wellFormed_single hhigh hlow, ih]
      · rw [hunits, List.cons_append, List.singleton_append, wellFormed_pair hhigh hlow, ih]

/-- A value that is written and read back as it is, with nothing in it the reader refuses. -/
structure Carried (value : JsValue) : Prop where
  legible : Legible value
  settled : Settled value
  wellFormed : allWellFormed value = true
  kept : jsonValue value = value

theorem carried_text (text : String) : Carried (jsText text) where
  legible := trivial
  settled := trivial
  wellFormed := wellFormed_ofString text
  kept := rfl

theorem carried_natural (value : ℕ) : Carried (jsNatural value) where
  legible := trivial
  settled := trivial
  wellFormed := rfl
  kept := rfl

theorem carried_null : Carried .null where
  legible := trivial
  settled := trivial
  wellFormed := rfl
  kept := rfl

theorem carried_of_isText {value : JsValue} {text : String} (h : isText value text = true) :
    Carried value := by
  cases value with
  | string units =>
      rw [isText, requiredString, beq_iff_eq, Option.some.injEq] at h
      rw [h]
      exact carried_text text
  | undefined => cases h
  | null => cases h
  | bool flag => cases h
  | number number => cases h
  | array elements => cases h
  | object members => cases h

theorem carried_of_plainText {value : JsValue} {test : String → Bool}
    (h : (plainText value).any test = true) : Carried value := by
  cases value with
  | string units =>
      cases htext : CodeUnits.maybeText units with
      | none =>
          rw [plainText, requiredString, Option.bind_eq_bind, Option.bind_some, htext] at h
          cases h
      | some text =>
          rw [CodeUnits.maybeText_eq_some.mp htext]
          exact carried_text text
  | undefined => cases h
  | null => cases h
  | bool flag => cases h
  | number number => cases h
  | array elements => cases h
  | object members => cases h

theorem carried_of_natural {value : JsValue} {number : ℕ}
    (h : requiredNatural value = some number) : value = jsNatural number := by
  cases value with
  | number found =>
      cases found with
      | natural found =>
          cases h
          rfl
      | other text => cases h
  | undefined => cases h
  | null => cases h
  | bool flag => cases h
  | string units => cases h
  | array elements => cases h
  | object members => cases h

/-- None of the kinds has a character the texts of other data have. -/
theorem kind_characters : ∀ kind ∈ workerSerialKinds, ∀ character ∈ kind.toList,
    character ≠ ',' ∧ character ≠ Char.ofNat 0xFFFD := by
  have hall : workerSerialKinds.all (fun kind => kind.toList.all fun character =>
      decide (character ≠ ',' ∧ character ≠ Char.ofNat 0xFFFD)) = true := by decide +kernel
  exact fun kind hkind => forall_mem_of_all (List.all_eq_true.mp hall kind hkind)

theorem kind_of_contains {found : List Char} (h : isKindText found = true) : ∃ kind ∈ workerSerialKinds, found = kind.toList := by
  rw [isKindText, List.contains_eq_mem, decide_eq_true_eq, List.mem_map] at h
  obtain ⟨kind, hkind, rfl⟩ := h
  exact ⟨kind, hkind, rfl⟩

/-- A value that reads as a kind is that text, or an array around one. -/
theorem carried_of_kind : (value : JsValue) → Proper value →
    isKindText (stringOf value) = true → Carried value
  | .undefined, _, h => absurd h (by decide +kernel)
  | .null, _, h => absurd h (by decide +kernel)
  | .bool true, _, h => absurd h (by decide +kernel)
  | .bool false, _, h => absurd h (by decide +kernel)
  | .object _, _, h => absurd (show isKindText "[object Object]".toList = true from h)
      (by decide +kernel)
  | .number number, hproper, h => by
      exfalso
      change isKindText (printNumber number) = true at h
      obtain ⟨kind, hkind, hprint⟩ := kind_of_contains h
      rcases hproper with hinfinite | hlegible
      · cases number with
        | natural value => cases hinfinite
        | other text =>
            simp only [isNonFinite, Bool.or_eq_true, beq_iff_eq] at hinfinite
            rcases hinfinite with (rfl | rfl) | rfl
            all_goals exact absurd h (by decide +kernel)
      · have hletter : workerSerialKinds.all (fun kind => kind.toList.any fun character =>
            !isNumberCharacter character) = true := by decide +kernel
        obtain ⟨character, hmem, hfalse⟩ :=
          List.any_eq_true.mp (List.all_eq_true.mp hletter kind hkind)
        rw [Bool.not_eq_true'] at hfalse
        rw [← hprint] at hmem
        rw [printNumber_characters hlegible character hmem] at hfalse
        cases hfalse
  | .string units, _, h => by
      change isKindText ((CodeUnits.pieces units).map CodeUnits.Piece.character) = true at h
      obtain ⟨kind, hkind, hpieces⟩ := kind_of_contains h
      have hscalar : CodeUnits.pieces units = kind.toList.map .scalar := by
        rw [← hpieces, List.map_map]
        refine (List.map_id _).symm.trans (List.map_congr_left fun piece hpiece => ?_)
        cases piece with
        | scalar character => rfl
        | lone unit =>
            have hmem : Char.ofNat 0xFFFD ∈ kind.toList := by
              rw [← hpieces]
              exact List.mem_map.mpr ⟨.lone unit, hpiece, rfl⟩
            exact absurd rfl (kind_characters kind hkind _ hmem).2
      have hunits : units = CodeUnits.ofString kind := by
        apply CodeUnits.pieces_injective
        rw [hscalar, CodeUnits.pieces_ofString]
      rw [hunits]
      exact carried_text kind
  | .array [], _, h => absurd h (by decide +kernel)
  | .array [element], hproper, h => by
      have helement : isKindText (stringOf element) = true := by
        rw [stringOf, joinedElements] at h
        cases element with
        | undefined => exact absurd h (by decide +kernel)
        | null => exact absurd h (by decide +kernel)
        | bool flag => exact h
        | number number => exact h
        | string units => exact h
        | array elements => exact h
        | object members => exact h
      have hcarried := carried_of_kind element hproper.1 helement
      exact {
        legible := ⟨hcarried.legible, trivial⟩
        settled := ⟨hcarried.settled, trivial⟩
        wellFormed := by
          rw [allWellFormed, allWellFormedElements, hcarried.wellFormed]
          rfl
        kept := by
          rw [jsonValue, jsonElements, hcarried.kept]
          rfl }
  | .array (element :: other :: elements), _, h => by
      rw [stringOf, joinedElements] at h
      obtain ⟨kind, hkind, hjoined⟩ := kind_of_contains h
      have hcomma : ',' ∈ kind.toList := by
        rw [← hjoined]
        exact List.mem_append_right _ List.mem_cons_self
      exact absurd rfl (kind_characters kind hkind _ hcomma).1

/-! ## Records -/

theorem allWellFormedMembers_iff {members : List (CodeUnits × JsValue)} :
    allWellFormedMembers members = true ↔
      ∀ member ∈ members, wellFormed member.1 = true ∧ allWellFormed member.2 = true := by
  induction members with
  | nil => simp [allWellFormedMembers]
  | cons member members ih => simp [allWellFormedMembers, ih, and_assoc]

theorem properMembers_iff {members : List (CodeUnits × JsValue)} :
    ProperMembers members ↔ ∀ member ∈ members, Proper member.2 := by
  induction members with
  | nil => simp [ProperMembers]
  | cons member members ih => simp [ProperMembers, ih]

theorem lookup_of_mem {members : List (CodeUnits × JsValue)} {key : CodeUnits} {value : JsValue}
    (hnodup : (members.map Prod.fst).Nodup) (hmem : (key, value) ∈ members) :
    members.lookup key = some value := by
  induction members with
  | nil => cases hmem
  | cons member members ih =>
      obtain ⟨other, held⟩ := member
      rw [List.map_cons, List.nodup_cons] at hnodup
      rcases List.mem_cons.mp hmem with heq | hlater
      · cases heq
        exact List.lookup_cons_self
      · have hne : key ≠ other := by
          rintro rfl
          exact hnodup.1 (List.mem_map.mpr ⟨(key, value), hlater, rfl⟩)
        rw [List.lookup_cons, beq_eq_false_iff_ne.mpr hne]
        exact ih hnodup.2 hlater

theorem mem_of_lookup {members : List (CodeUnits × JsValue)} {key : CodeUnits} {value : JsValue}
    (h : members.lookup key = some value) : (key, value) ∈ members := by
  obtain ⟨before, after, rfl, -⟩ := List.lookup_eq_some_iff.mp h
  simp

theorem proper_fieldOf {members : List (CodeUnits × JsValue)} (hproper : ProperMembers members)
    (key : String) : Proper (fieldOf members key) := by
  rw [fieldOf]
  cases hfound : members.lookup (CodeUnits.ofString key) with
  | none => exact trivial
  | some found => exact properMembers_iff.mp hproper _ (mem_of_lookup hfound)

/-- A record with exactly these keys has each of them once. -/
theorem exactSerialRecord_keys {members : List (CodeUnits × JsValue)} {keys : List String}
    (hkeys : (keys.map CodeUnits.ofString).Nodup)
    (h : exactSerialRecord (.object members) keys = some members) :
    (members.map Prod.fst).Perm (keys.map CodeUnits.ofString) := by
  simp only [exactSerialRecord, serialRecord, Option.bind_eq_bind, Option.bind_some,
    Option.bind_eq_some_iff, Option.guard_eq_some', exists_const] at h
  obtain ⟨hlength, hall, -⟩ := h
  have hsubset : keys.map CodeUnits.ofString ⊆ members.map Prod.fst := by
    intro name hname
    obtain ⟨key, hkey, rfl⟩ := List.mem_map.mp hname
    have hfield := List.all_eq_true.mp hall key hkey
    obtain ⟨value, hvalue⟩ := Option.isSome_iff_exists.mp hfield
    exact List.mem_map.mpr ⟨_, mem_of_lookup hvalue, rfl⟩
  apply List.Perm.symm
  apply (hkeys.subperm hsubset).perm_of_length_le
  rw [List.length_map, List.length_map, hlength]

theorem mem_setMember {key : CodeUnits} {value : JsValue} {members : List (CodeUnits × JsValue)}
    {member : CodeUnits × JsValue} (h : member ∈ setMember key value members) :
    member ∈ members ∨ (member.1 = key ∧ member.2 = value) := by
  induction members with
  | nil =>
      rw [setMember, List.mem_singleton] at h
      rw [h]
      exact Or.inr ⟨rfl, rfl⟩
  | cons first members ih =>
      obtain ⟨other, held⟩ := first
      rw [setMember] at h
      split at h
      · next hsame =>
          rcases List.mem_cons.mp h with rfl | h
          · exact Or.inr ⟨hsame, rfl⟩
          · exact Or.inl (List.mem_cons_of_mem _ h)
      · rcases List.mem_cons.mp h with rfl | h
        · exact Or.inl List.mem_cons_self
        · exact (ih h).imp_left (List.mem_cons_of_mem _)

theorem lookup_setMember (key other : CodeUnits) (value : JsValue)
    (members : List (CodeUnits × JsValue)) :
    (setMember key value members).lookup other =
      if other = key then some value else members.lookup other := by
  induction members with
  | nil =>
      rw [setMember, List.lookup_cons]
      by_cases hsame : other = key
      · rw [hsame, beq_self_eq_true, if_pos rfl]
      · rw [beq_eq_false_iff_ne.mpr hsame, if_neg hsame]
  | cons first members ih =>
      obtain ⟨name, held⟩ := first
      rw [setMember]
      by_cases hname : name = key
      · rw [if_pos hname, List.lookup_cons, List.lookup_cons]
        by_cases hsame : other = key
        · rw [hsame, hname, beq_self_eq_true, if_pos rfl]
        · rw [hname, beq_eq_false_iff_ne.mpr hsame, if_neg hsame]
      · rw [if_neg hname, List.lookup_cons, List.lookup_cons, ih]
        by_cases hsame : other = name
        · subst hsame
          simp only [beq_self_eq_true, if_neg hname]
        · rw [beq_eq_false_iff_ne.mpr hsame]

/-! ## What the reading of a record finds -/

/-- What a record that is read says, and what is read out of it. -/
structure ReadEnvelope (value : List (CodeUnits × JsValue)) (frame : WorkerSerialEnvelope) : Prop where
  exact : exactSerialRecord (.object value) ["profile", "kind", "sessionId", "sequence", "payload",
    "payloadBytes", "payloadSha256"] = some value
  profile : isText (fieldOf value "profile") workerSerialProfile = true
  kindText : isKindText (stringOf (fieldOf value "kind")) = true
  kind : frame.kind = fieldOf value "kind"
  sessionId : frame.sessionId = fieldOf value "sessionId"
  session : fieldOf value "sessionId" = .null ∨
    (plainText (fieldOf value "sessionId")).any serialToken = true
  sequence : requiredNatural (fieldOf value "sequence") = some frame.sequence
  payload : fieldOf value "payload" = .object frame.payload
  bytes : ∃ bytes, requiredNatural (fieldOf value "payloadBytes") = some bytes
  digest : (plainText (fieldOf value "payloadSha256")).any serialNonce = true
  bound : isText (fieldOf value "kind") "control" = true →
    (textBytes (print (jsonValue (.object frame.payload)))).length ≤
      maximumSerialControlPayloadBytes

theorem readSerialRecord_eq_ok {value : JsValue} {members : List (CodeUnits × JsValue)}
    (h : readSerialRecord value = .ok members) : value = .object members := by
  cases value with
  | object found =>
      cases h
      rfl
  | undefined => cases h
  | null => cases h
  | bool flag => cases h
  | number number => cases h
  | string units => cases h
  | array elements => cases h

theorem session_of_namesSession {hello : Bool} {sessionId : JsValue} {sequence : ℕ}
    (h : namesSession hello sessionId sequence = true) :
    sessionId = .null ∨ (plainText sessionId).any serialToken = true := by
  cases hello with
  | false => exact Or.inr h
  | true =>
      cases sessionId with
      | null => exact Or.inl rfl
      | undefined => cases h
      | bool flag => cases h
      | number number => cases h
      | string units => cases h
      | array elements => cases h
      | object members => cases h

theorem parseWorkerSerialEnvelope_eq_ok {value : List (CodeUnits × JsValue)}
    {frame : WorkerSerialEnvelope} (h : parseWorkerSerialEnvelope (.object value) = .ok frame) :
    ReadEnvelope value frame := by
  rw [parseWorkerSerialEnvelope] at h
  cases hread : readExactRecord (.object value) ["profile", "kind", "sessionId", "sequence",
      "payload", "payloadBytes", "payloadSha256"] with
  | error error =>
      rw [hread] at h
      cases h
  | ok found =>
      have hexact := exact_of_readExactRecord hread
      have hfound : found = value := by
        cases readExactRecord_eq_ok hread
        rfl
      subst hfound
      rw [hread] at h
      simp only [bind, Except.bind] at h
      split at h
      · cases h
      next hheader =>
      cases hsequence : (requiredNatural (fieldOf found "sequence")).filter (· ≤ 0xffffffff) with
      | none =>
          rw [hsequence] at h
          cases h
      | some sequence =>
          rw [hsequence] at h
          simp only at h
          cases hpayload : readSerialRecord (fieldOf found "payload") with
          | error error =>
              rw [hpayload] at h
              cases h
          | ok payload =>
              rw [hpayload] at h
              simp only at h
              split at h
              · cases h
              next hintegrity =>
              split at h
              · cases h
              next hsession =>
              split at h
              · cases h
              next hheartbeat =>
              split at h
              · cases h
              next hbound =>
              cases h
              simp only [Bool.or_eq_true, Bool.not_eq_true', not_or, Bool.not_eq_false,
                Bool.not_eq_true] at hheader hintegrity hsession
              simp only [Bool.and_eq_true, decide_eq_true_eq, not_and, Nat.not_lt] at hbound
              exact {
                exact := hexact
                profile := hheader.1
                kindText := hheader.2
                kind := rfl
                sessionId := rfl
                session := session_of_namesSession hsession
                sequence := (Option.filter_eq_some_iff.mp hsequence).1
                payload := readSerialRecord_eq_ok hpayload
                bytes := by
                  obtain ⟨bytes, hbytes⟩ := Option.isSome_iff_exists.mp
                    (Option.isNone_eq_false_iff.mp hintegrity.1)
                  exact ⟨bytes, (Option.filter_eq_some_iff.mp hbytes).1⟩
                digest := hintegrity.2
                bound := hbound }

/-! ## What the writer writes -/

theorem jsonMembers_of_carried {members : List (CodeUnits × JsValue)}
    (hcarried : ∀ member ∈ members, Carried member.2) : jsonMembers members = members := by
  induction members with
  | nil => rfl
  | cons member members ih =>
      obtain ⟨key, value⟩ := member
      have hvalue := hcarried (key, value) List.mem_cons_self
      have hrest := ih fun other hother => hcarried other (List.mem_cons_of_mem _ hother)
      have hdefined : value ≠ .undefined := by
        rintro rfl
        exact hvalue.legible
      rw [jsonMembers_cons hdefined, hvalue.kept, hrest]

/-- One more member is written in front of the closing brace. -/
theorem printMembers_concat (members : List (CodeUnits × JsValue)) (key : CodeUnits)
    (value : JsValue) :
    printMembers (members ++ [(key, value)]) =
      (printMembers members).dropLast ++ ',' :: (quote key ++ ':' :: (print value ++ ['}'])) := by
  induction members with
  | nil => rfl
  | cons member members ih =>
      obtain ⟨other, held⟩ := member
      have hne : printMembers members ≠ [] := by
        cases members with
        | nil => exact List.cons_ne_nil _ _
        | cons first others => exact List.cons_ne_nil _ _
      have hlast : (quote other ++ ':' :: (print held ++ printMembers members)) ≠ [] := by
        rw [quote]
        exact List.cons_ne_nil _ _
      rw [List.cons_append, printMembers, ih, printMembers, List.dropLast_cons_of_ne_nil hlast,
        List.dropLast_append_of_ne_nil (List.cons_ne_nil _ _),
        List.dropLast_cons_of_ne_nil (by simp [hne]),
        List.dropLast_append_of_ne_nil hne]
      simp only [List.cons_append, List.append_assoc]

theorem print_concat {members : List (CodeUnits × JsValue)} (hne : members ≠ [])
    (key : CodeUnits) (value : JsValue) :
    print (.object (members ++ [(key, value)])) = (print (.object members)).dropLast ++
      ',' :: (quote key ++ ':' :: (print value ++ ['}'])) := by
  cases members with
  | nil => exact absurd rfl hne
  | cons member members =>
      obtain ⟨other, held⟩ := member
      have hrest : printMembers members ≠ [] := by
        cases members with
        | nil => exact List.cons_ne_nil _ _
        | cons first others => exact List.cons_ne_nil _ _
      have hlast : (quote other ++ ':' :: (print held ++ printMembers members)) ≠ [] := by
        rw [quote]
        exact List.cons_ne_nil _ _
      rw [List.cons_append, print, printMembers_concat, print,
        List.dropLast_cons_of_ne_nil hlast,
        List.dropLast_append_of_ne_nil (List.cons_ne_nil _ _),
        List.dropLast_cons_of_ne_nil (by simp [hrest]),
        List.dropLast_append_of_ne_nil hrest]
      simp only [List.cons_append, List.append_assoc]

/-- The text between the metadata and the payload. -/
theorem payloadMark : ",\"payload\":".toList = ',' :: (quote payloadKey ++ [':']) := by
  decide +kernel

/-- What the accepted envelope is sent as: the record, its text and what the reader will find. -/
structure EncodedEnvelope (sha256 : List UInt8 → List UInt8)
    (envelope : List (CodeUnits × JsValue)) (bytes : List UInt8)
    (metadata : List (CodeUnits × JsValue)) (frame : WorkerSerialEnvelope) : Prop where
  parsed : parseWorkerSerialEnvelope
    (.object (metadata ++ [(payloadKey, .object frame.payload)])) = .ok frame
  legible : LegibleMembers (metadata ++ [(payloadKey, .object frame.payload)])
  settled : Settled (.object (metadata ++ [(payloadKey, .object frame.payload)]))
  wellFormed : allWellFormed (.object frame.payload) = true →
    allWellFormed (.object (metadata ++ [(payloadKey, .object frame.payload)])) = true
  unnamed : payloadKey ∉ metadata.map Prod.fst
  kept : jsonValue (.object frame.payload) = .object frame.payload
  text : bytes = textBytes
    (print (.object (metadata ++ [(payloadKey, .object frame.payload)])) ++ ['\n'])
  length : bytes.length ≤ maximumSerialWireBytes
  payloadBytes : metadata.lookup (CodeUnits.ofString "payloadBytes") =
    some (jsNatural (textBytes (print (.object frame.payload))).length)
  payloadSha256 : metadata.lookup (CodeUnits.ofString "payloadSha256") =
    some (jsText (sha256Base64UrlBytes sha256 (textBytes (print (.object frame.payload)))))
  /-- The payload is what its text keeps of the given one. -/
  payload : ∃ given, fieldOf envelope "payload" = .object given ∧ frame.payload = jsonMembers given
  kind : frame.kind = fieldOf envelope "kind"
  sessionId : frame.sessionId = fieldOf envelope "sessionId"
  sequence : fieldOf envelope "sequence" = jsNatural frame.sequence

theorem fieldOf_append {metadata : List (CodeUnits × JsValue)} {value : JsValue} {key : String}
    (hkey : CodeUnits.ofString key ≠ payloadKey) :
    fieldOf (metadata ++ [(payloadKey, value)]) key = fieldOf metadata key := by
  rw [fieldOf, fieldOf, List.lookup_append, List.lookup_cons, beq_eq_false_iff_ne.mpr hkey]
  cases metadata.lookup (CodeUnits.ofString key) with
  | none => rfl
  | some found => rfl

theorem fieldOf_payload {metadata : List (CodeUnits × JsValue)} {value : JsValue}
    (hunnamed : payloadKey ∉ metadata.map Prod.fst) :
    fieldOf (metadata ++ [(payloadKey, value)]) "payload" = value := by
  have hnone : metadata.lookup payloadKey = none := by
    cases hfound : metadata.lookup payloadKey with
    | none => rfl
    | some found => exact absurd (List.mem_map.mpr ⟨_, mem_of_lookup hfound, rfl⟩) hunnamed
  have hkey : CodeUnits.ofString "payload" = payloadKey := rfl
  rw [fieldOf, List.lookup_append, hkey, hnone, List.lookup_cons_self]
  rfl

/-- The values of the metadata of an accepted record. -/
theorem carried_metadata {metadata : List (CodeUnits × JsValue)} {value : JsValue}
    {frame : WorkerSerialEnvelope}
    (hread : ReadEnvelope (metadata ++ [(payloadKey, value)]) frame)
    (hproper : ∀ member ∈ metadata, Proper member.2) :
    (((metadata ++ [(payloadKey, value)]).map Prod.fst).Nodup) ∧
      ∀ member ∈ metadata, wellFormed member.1 = true ∧ Carried member.2 := by
  have hperm := exactSerialRecord_keys (by decide +kernel) hread.exact
  have hnodup : ((metadata ++ [(payloadKey, value)]).map Prod.fst).Nodup :=
    hperm.nodup_iff.mpr (by decide +kernel)
  refine ⟨hnodup, ?_⟩
  rintro ⟨name, held⟩ hmember
  have hmem : (name, held) ∈ metadata ++ [(payloadKey, value)] :=
    List.mem_append_left _ hmember
  have hname : name ≠ payloadKey := by
    rintro rfl
    rw [List.map_append, List.nodup_append] at hnodup
    exact hnodup.2.2 _ (List.mem_map.mpr ⟨_, hmember, rfl⟩) _ (List.mem_singleton.mpr rfl) rfl
  have hfield : ∀ key : String, CodeUnits.ofString key = name →
      fieldOf (metadata ++ [(payloadKey, value)]) key = held := by
    rintro key rfl
    rw [fieldOf, lookup_of_mem hnodup hmem]
    rfl
  have hkeys := hperm.subset (List.mem_map.mpr ⟨_, hmem, rfl⟩)
  obtain ⟨key, hkey, rfl⟩ := List.mem_map.mp hkeys
  refine ⟨wellFormed_ofString key, ?_⟩
  simp only [List.mem_cons, List.not_mem_nil, or_false] at hkey
  rcases hkey with rfl | rfl | rfl | rfl | rfl | rfl | rfl
  · rw [← hfield "profile" rfl]
    exact carried_of_isText hread.profile
  · have hkind := hread.kindText
    rw [hfield "kind" rfl] at hkind
    exact carried_of_kind held (hproper _ hmember) hkind
  · rw [← hfield "sessionId" rfl]
    rcases hread.session with hnull | htoken
    · rw [hnull]
      exact carried_null
    · exact carried_of_plainText htoken
  · rw [← hfield "sequence" rfl, carried_of_natural hread.sequence]
    exact carried_natural _
  · exact absurd rfl hname
  · obtain ⟨bytes, hbytes⟩ := hread.bytes
    rw [← hfield "payloadBytes" rfl, carried_of_natural hbytes]
    exact carried_natural _
  · rw [← hfield "payloadSha256" rfl]
    exact carried_of_plainText hread.digest

theorem proper_metadata {sha256 : List UInt8 → List UInt8} {envelope : List (CodeUnits × JsValue)}
    {payloadUtf8 : List UInt8} (hproper : ProperMembers envelope) :
    ∀ member ∈ envelopeMetadata sha256 envelope payloadUtf8, Proper member.2 := by
  intro member hmember
  rcases mem_setMember hmember with hmember | ⟨-, hvalue⟩
  · rcases mem_setMember hmember with hmember | ⟨-, hvalue⟩
    · exact properMembers_iff.mp hproper member (List.mem_of_mem_filter hmember)
    · rw [hvalue]
      exact Or.inr trivial
  · rw [hvalue]
    exact trivial

/-- The metadata names no payload. -/
theorem payloadKey_metadata (sha256 : List UInt8 → List UInt8)
    (envelope : List (CodeUnits × JsValue)) (payloadUtf8 : List UInt8) :
    payloadKey ∉ (envelopeMetadata sha256 envelope payloadUtf8).map Prod.fst := by
  intro hmem
  obtain ⟨member, hmember, hname⟩ := List.mem_map.mp hmem
  rcases mem_setMember hmember with hmember | ⟨hkey, -⟩
  · rcases mem_setMember hmember with hmember | ⟨hkey, -⟩
    · have hother := (List.mem_filter.mp hmember).2
      rw [hname] at hother
      exact absurd hother (by decide +kernel)
    · rw [hname] at hkey
      exact absurd hkey (by decide +kernel)
  · rw [hname] at hkey
    exact absurd hkey (by decide +kernel)

/-- Every other member of the envelope is in the metadata. -/
theorem fieldOf_metadata {sha256 : List UInt8 → List UInt8}
    {envelope : List (CodeUnits × JsValue)} {payloadUtf8 : List UInt8} {key : String}
    (hkey : key ∈ ["kind", "sessionId", "sequence"]) :
    fieldOf (envelopeMetadata sha256 envelope payloadUtf8) key = fieldOf envelope key := by
  have hnames : ∀ key ∈ ["kind", "sessionId", "sequence"],
      CodeUnits.ofString key ≠ CodeUnits.ofString "payloadSha256" ∧
        CodeUnits.ofString key ≠ CodeUnits.ofString "payloadBytes" ∧
        CodeUnits.ofString key ≠ payloadKey := by decide +kernel
  obtain ⟨hdigest, hbytes, hpayload⟩ := hnames key hkey
  have hfilter : ∀ members : List (CodeUnits × JsValue),
      (members.filter fun member => member.1 ≠ payloadKey).lookup (CodeUnits.ofString key) =
        members.lookup (CodeUnits.ofString key) := by
    intro members
    induction members with
    | nil => rfl
    | cons member members ih =>
        obtain ⟨name, held⟩ := member
        by_cases hname : name = payloadKey
        · subst hname
          rw [List.filter_cons_of_neg (by simp), ih, List.lookup_cons,
            beq_eq_false_iff_ne.mpr hpayload]
        · rw [List.filter_cons_of_pos (by simpa using hname), List.lookup_cons, List.lookup_cons, ih]
  rw [fieldOf, envelopeMetadata, withMember, withMember, lookup_setMember, if_neg hdigest,
    lookup_setMember, if_neg hbytes, hfilter]
  rfl

/-- A record the writer could read back is what the reader will read. -/
theorem encoded_of_parsed {sha256 : List UInt8 → List UInt8}
    {envelope metadata : List (CodeUnits × JsValue)} {bytes : List UInt8}
    {frame : WorkerSerialEnvelope} (hproper : Proper (.object envelope))
    (hmetadata : metadata = envelopeMetadata sha256 envelope
      (textBytes (print (jsonValue (fieldOf envelope "payload")))))
    (hparsed : parseWorkerSerialEnvelope (.object (withMember "payload"
      (jsonValue (fieldOf envelope "payload")) metadata)) = .ok frame)
    (hlength : bytes.length ≤ maximumSerialWireBytes)
    (hbytes : bytes = textBytes ((print (jsonValue (.object metadata))).dropLast ++
      ",\"payload\":".toList ++ print (jsonValue (fieldOf envelope "payload")) ++ ['}', '\n'])) :
    EncodedEnvelope sha256 envelope bytes metadata frame := by
  have hunnamed : payloadKey ∉ metadata.map Prod.fst := by
    rw [hmetadata]
    exact payloadKey_metadata sha256 envelope _
  have hwire : withMember "payload" (jsonValue (fieldOf envelope "payload")) metadata =
      metadata ++ [(payloadKey, jsonValue (fieldOf envelope "payload"))] :=
    setMember_new hunnamed
  rw [hwire] at hparsed
  have hread := parseWorkerSerialEnvelope_eq_ok hparsed
  have hpayload : jsonValue (fieldOf envelope "payload") = .object frame.payload := by
    rw [← hread.payload, fieldOf_payload hunnamed]
  have hgiven : ∃ given, fieldOf envelope "payload" = .object given ∧
      frame.payload = jsonMembers given := by
    cases hfield : fieldOf envelope "payload" with
    | object given =>
        rw [hfield, jsonValue, JsValue.object.injEq] at hpayload
        exact ⟨given, rfl, hpayload.symm⟩
    | number number =>
        rw [hfield, jsonValue] at hpayload
        split at hpayload
        · cases hpayload
        · cases hpayload
    | undefined => rw [hfield] at hpayload; cases hpayload
    | null => rw [hfield] at hpayload; cases hpayload
    | bool flag => rw [hfield] at hpayload; cases hpayload
    | string units => rw [hfield] at hpayload; cases hpayload
    | array elements => rw [hfield] at hpayload; cases hpayload
  obtain ⟨hlegible, hsettled⟩ := jsonValue_proper _ (proper_fieldOf hproper.2 "payload")
  have hkept := jsonValue_idem (fieldOf envelope "payload")
  rw [hpayload] at hread hparsed hlegible hsettled hkept hbytes hmetadata
  have hcarriedMetadata : ∀ member ∈ metadata, Proper member.2 := by
    rw [hmetadata]
    exact proper_metadata hproper.2
  obtain ⟨hnodup, hcarried⟩ := carried_metadata hread hcarriedMetadata
  have hheader : ∀ key ∈ ["kind", "sessionId", "sequence"],
      fieldOf (metadata ++ [(payloadKey, .object frame.payload)]) key = fieldOf envelope key := by
    intro key hkey
    have hother : ∀ key ∈ ["kind", "sessionId", "sequence"],
        CodeUnits.ofString key ≠ payloadKey := by decide +kernel
    rw [fieldOf_append (hother key hkey), hmetadata, fieldOf_metadata hkey]
  have hne : metadata ≠ [] := by
    rintro rfl
    have hprofile := hread.profile
    rw [fieldOf_append (by decide +kernel)] at hprofile
    cases hprofile
  exact {
    parsed := hparsed
    legible := by
      rw [legibleMembers_iff]
      intro member hmember
      rcases List.mem_append.mp hmember with hmember | hmember
      · exact (hcarried member hmember).2.legible
      · rw [List.mem_singleton.mp hmember]
        exact hlegible
    settled := by
      refine ⟨hnodup, settledMembers_iff.mpr ?_⟩
      intro member hmember
      rcases List.mem_append.mp hmember with hmember | hmember
      · exact (hcarried member hmember).2.settled
      · rw [List.mem_singleton.mp hmember]
        exact hsettled
    wellFormed := by
      intro hwellFormed
      rw [allWellFormed, allWellFormedMembers_iff]
      intro member hmember
      rcases List.mem_append.mp hmember with hmember | hmember
      · exact ⟨(hcarried member hmember).1, (hcarried member hmember).2.wellFormed⟩
      · rw [List.mem_singleton.mp hmember]
        exact ⟨wellFormed_ofString "payload", hwellFormed⟩
    unnamed := hunnamed
    kept := hkept
    text := by
      have hprint := print_concat hne payloadKey (.object frame.payload)
      rw [hbytes, jsonValue, jsonMembers_of_carried fun member hmember =>
        (hcarried member hmember).2, payloadMark, hprint]
      simp only [List.cons_append, List.append_assoc, List.nil_append]
    length := hlength
    payloadBytes := by
      rw [hmetadata, envelopeMetadata, withMember, withMember, lookup_setMember,
        if_neg (by decide +kernel), lookup_setMember, if_pos rfl]
    payloadSha256 := by
      rw [hmetadata, envelopeMetadata, withMember, lookup_setMember, if_pos rfl]
    payload := hgiven
    kind := hread.kind.trans (hheader "kind" (by simp))
    sessionId := hread.sessionId.trans (hheader "sessionId" (by simp))
    sequence := by
      rw [← hheader "sequence" (by simp)]
      exact carried_of_natural hread.sequence }

/-- What an accepted envelope is sent as. -/
theorem encoded_of_ok {sha256 : List UInt8 → List UInt8}
    {envelope : List (CodeUnits × JsValue)} {bytes : List UInt8}
    (hproper : Proper (.object envelope))
    (h : encodeWorkerSerialEnvelope sha256 envelope = .ok bytes) :
    ∃ metadata frame, EncodedEnvelope sha256 envelope bytes metadata frame := by
  have hgiven := proper_fieldOf hproper.2 "payload"
  rw [encodeWorkerSerialEnvelope] at h
  have hstringify : ∀ {value : JsValue} {text : List Char}, maybeStringify value = some text →
      text = print (jsonValue value) := by
    intro value text htext
    cases value with
    | undefined => cases htext
    | null => cases htext; rfl
    | bool flag => cases htext; rfl
    | number number => cases htext; rfl
    | string units => cases htext; rfl
    | array elements => cases htext; rfl
    | object members => cases htext; rfl
  cases htext : maybeStringify (fieldOf envelope "payload") with
  | none =>
      rw [htext] at h
      cases h
  | some payloadJson =>
      rw [htext] at h
      have hjson := hstringify htext
      subst hjson
      simp only [parse_jsonValue hgiven] at h
      cases hparsed : parseWorkerSerialEnvelope (.object (withMember "payload"
          (jsonValue (fieldOf envelope "payload")) (envelopeMetadata sha256 envelope
            (textBytes (print (jsonValue (fieldOf envelope "payload"))))))) with
      | error failure =>
          rw [hparsed] at h
          cases h
      | ok frame =>
          rw [hparsed] at h
          simp only at h
          split at h
          · cases h
          · next hlength =>
              cases h
              exact ⟨_, frame, encoded_of_parsed hproper rfl hparsed (Nat.not_lt.mp hlength) rfl⟩

end WorkGate
