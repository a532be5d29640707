/-
# Reading artifacts back

What the segments of an artifact spell, and that a header and a payload are read back from their
canonical bytes.
-/

import WorkGate.Worker.LeaseBinding

namespace WorkGate

open WorkGate.Library
open WorkGate.Library.JsonText

/-! ## Checks -/

theorem guard_eq_some {condition : Prop} [Decidable condition] {passed : Unit} :
    (guard condition : Option Unit) = some passed ↔ condition := by
  rw [guard]
  by_cases hcondition : condition
  · simp [hcondition]
  · simp [hcondition, failure]

/-- What comes next, once a value is there. -/
theorem bind_of_some {α β : Type} {maybe : Option α} {value : α} {next : α → Option β}
    (h : maybe = some value) : (maybe >>= next) = next value := by
  rw [h]
  rfl

theorem guard_bind {β : Type} {condition : Prop} [Decidable condition] (h : condition)
    {next : Unit → Option β} : (guard condition >>= next) = next () :=
  bind_of_some (guard_eq_some.mpr h)

/-! ## Segments -/

theorem ofString_append (first second : String) : CodeUnits.ofString (first ++ second) =
    CodeUnits.ofString first ++ CodeUnits.ofString second := by
  rw [CodeUnits.ofString, String.toList_append, List.flatMap_append]
  rfl

/-- The alphabet of the segments: none of it takes two code units, and the dot is not in it. -/
theorem digit_facts : ∀ value < 64, isOpaqueIdCharacter (Base64Url.digit value) = true ∧
    Base64Url.digit value ≠ '.' ∧ (CodeUnits.ofChar (Base64Url.digit value)).length = 1 ∧
    46 ∉ CodeUnits.ofChar (Base64Url.digit value) := by decide +kernel

theorem encode_opaque (bytes : List UInt8) :
    (Base64Url.encode bytes).toList.all isOpaqueIdCharacter = true := by
  apply List.all_eq_true.mpr
  intro character hmem
  obtain ⟨value, hvalue, rfl⟩ := Base64Url.mem_encode hmem
  exact (digit_facts value hvalue).1

theorem dot_notMem_encode (bytes : List UInt8) : '.' ∉ (Base64Url.encode bytes).toList := by
  intro hmem
  obtain ⟨value, hvalue, hdot⟩ := Base64Url.mem_encode hmem
  exact (digit_facts value hvalue).2.1 hdot

theorem dot_notMem_units (bytes : List UInt8) :
    46 ∉ CodeUnits.ofString (Base64Url.encode bytes) := by
  intro hmem
  obtain ⟨character, hcharacter, hunit⟩ := List.mem_flatMap.mp hmem
  obtain ⟨value, hvalue, rfl⟩ := Base64Url.mem_encode hcharacter
  exact (digit_facts value hvalue).2.2.2 hunit

theorem length_flatMap_ofChar {characters : List Char}
    (hsingle : ∀ character ∈ characters, (CodeUnits.ofChar character).length = 1) :
    (characters.flatMap CodeUnits.ofChar).length = characters.length := by
  induction characters with
  | nil => rfl
  | cons character characters ih =>
      rw [List.forall_mem_cons] at hsingle
      rw [List.flatMap_cons, List.length_append, hsingle.1, ih hsingle.2, List.length_cons,
        Nat.add_comm]

theorem length_units_encode (bytes : List UInt8) :
    (CodeUnits.ofString (Base64Url.encode bytes)).length = (bytes.length * 4 + 2) / 3 := by
  have hsingle : ∀ character ∈ (Base64Url.encode bytes).toList,
      (CodeUnits.ofChar character).length = 1 := by
    intro character hmem
    obtain ⟨value, hvalue, rfl⟩ := Base64Url.mem_encode hmem
    exact (digit_facts value hvalue).2.2.1
  rw [CodeUnits.ofString, length_flatMap_ofChar hsingle, String.length_toList,
    Base64Url.length_encode]

/-- What was encoded is decoded, within the caller's bound. -/
theorem decodeBase64Url_encode {bytes : List UInt8} {maximumCharacters : ℕ} (hsome : bytes ≠ [])
    (hlength : (bytes.length * 4 + 2) / 3 ≤ maximumCharacters) :
    decodeBase64Url (CodeUnits.ofString (Base64Url.encode bytes)) maximumCharacters =
      some bytes := by
  have hpositive := List.length_pos_iff.mpr hsome
  have hunits := length_units_encode bytes
  have hguard : (CodeUnits.ofString (Base64Url.encode bytes)).length ≠ 0 ∧
      (CodeUnits.ofString (Base64Url.encode bytes)).length ≤ maximumCharacters ∧
      (CodeUnits.ofString (Base64Url.encode bytes)).length % 4 ≠ 1 := by
    rw [hunits]
    omega
  simp only [decodeBase64Url, guard, if_pos hguard, CodeUnits.maybeText_ofString, encode_opaque,
    Base64Url.decode_encode, Option.bind_eq_bind, Option.bind_some, if_true, pure]

theorem isDigest_encode {bytes : List UInt8} (hlength : bytes.length = 32) :
    isDigest (Base64Url.encode bytes) = true := by
  have htext : (Base64Url.encode bytes).toList.length = 43 := by
    rw [String.length_toList, Base64Url.length_encode, hlength]
  rw [isDigest, validIdentifier, htext, encode_opaque]
  rfl

/-- The bytes of a segment are read back. -/
theorem decodeSegment_encode {bytes : List UInt8} {maximumCharacters : ℕ} (hsome : bytes ≠ [])
    (hlength : (bytes.length * 4 + 2) / 3 ≤ maximumCharacters) :
    decodeSegment (CodeUnits.ofString (Base64Url.encode bytes)) maximumCharacters =
      some bytes := by
  rw [decodeSegment, decodeBase64Url_encode hsome hlength]
  exact Option.filter_some_pos (by simp)

/-- A segment is the one spelling of its bytes. -/
theorem eq_encode_of_decodeSegment {segment : CodeUnits} {maximumCharacters : ℕ}
    {bytes : List UInt8} (h : decodeSegment segment maximumCharacters = some bytes) :
    segment = CodeUnits.ofString (Base64Url.encode bytes) := by
  have hspelled := (Option.filter_eq_some_iff.mp h).2
  exact (of_decide_eq_true hspelled).symm

theorem encode_ne_nil {bytes : List UInt8} (hsome : bytes ≠ []) :
    CodeUnits.ofString (Base64Url.encode bytes) ≠ [] := by
  have hpositive := List.length_pos_iff.mpr hsome
  apply List.ne_nil_of_length_pos
  rw [length_units_encode]
  omega

/-- The dots of an artifact are those between its segments. -/
theorem splitOn_segments (header payload signature : List UInt8) :
    (CodeUnits.ofString (Base64Url.encode header ++ "." ++ Base64Url.encode payload ++ "." ++
        Base64Url.encode signature)).splitOn 46 =
      [CodeUnits.ofString (Base64Url.encode header), CodeUnits.ofString (Base64Url.encode payload),
        CodeUnits.ofString (Base64Url.encode signature)] := by
  have hdot : CodeUnits.ofString "." = [46] := by decide
  have hunits : CodeUnits.ofString (Base64Url.encode header ++ "." ++
      Base64Url.encode payload ++ "." ++ Base64Url.encode signature) =
      CodeUnits.ofString (Base64Url.encode header) ++ 46 ::
        (CodeUnits.ofString (Base64Url.encode payload) ++ 46 ::
          CodeUnits.ofString (Base64Url.encode signature)) := by
    simp only [ofString_append, hdot, List.append_assoc, List.cons_append, List.nil_append]
  rw [hunits, List.splitOn_append_cons_self_of_not_mem (dot_notMem_units header),
    List.splitOn_append_cons_self_of_not_mem (dot_notMem_units payload),
    List.splitOn_eq_singleton (dot_notMem_units signature)]

theorem splitArtifact_append {header payload signature : List UInt8} (hheader : header ≠ [])
    (hpayload : payload ≠ []) (hsignature : signature ≠ []) :
    splitArtifact (CodeUnits.ofString (Base64Url.encode header ++ "." ++
        Base64Url.encode payload ++ "." ++ Base64Url.encode signature)) =
      some (CodeUnits.ofString (Base64Url.encode header),
        CodeUnits.ofString (Base64Url.encode payload),
        CodeUnits.ofString (Base64Url.encode signature)) := by
  rw [splitArtifact, splitOn_segments]
  have hgood : ¬ (CodeUnits.ofString (Base64Url.encode header) = [] ∨
      CodeUnits.ofString (Base64Url.encode payload) = [] ∨
      CodeUnits.ofString (Base64Url.encode signature) = [] ∨
      ([] : List CodeUnits).head?.any (· ≠ []) = true) := by
    simp [encode_ne_nil hheader, encode_ne_nil hpayload, encode_ne_nil hsignature]
  exact if_neg hgood

/-! ## Headers and payloads -/

theorem asBytes_ofList_cons {character : Char} (characters : List Char) :
    asBytes (String.ofList (character :: characters)) =
      asBytes (String.ofList [character]) ++ asBytes (String.ofList characters) := by
  rw [← asBytes_append, ← String.ofList_append, List.singleton_append]

/-- The canonical text of an object begins with a brace. -/
theorem canonicalBytes_jsRecord (members : List (String × JsValue)) :
    ∃ rest, canonicalBytes (jsRecord members) = 0x7B :: rest := by
  have hbrace : asBytes (String.ofList ['{']) = [0x7B] := by decide
  rw [canonicalBytes, jsRecord, canonicalJson, Headless.Collation.canonicalJson,
    asBytes_ofList_cons, hbrace]
  exact ⟨_, rfl⟩

theorem canonicalBytes_ne_nil (members : List (String × JsValue)) :
    canonicalBytes (jsRecord members) ≠ [] := by
  obtain ⟨rest, hbytes⟩ := canonicalBytes_jsRecord members
  rw [hbytes]
  exact List.cons_ne_nil _ _

/-- A record is read back from its canonical bytes, its members in canonical order. -/
theorem parseJsonBytes_canonicalBytes {members : List (String × JsValue)}
    (hprintable : Printable (jsRecord members)) :
    parseJsonBytes (canonicalBytes (jsRecord members)) =
      some (String.ofList (canonicalJson (jsRecord members)),
        settle (canonical (jsRecord members))) := by
  have hunmarked : (canonicalBytes (jsRecord members)).take 3 ≠ [0xEF, 0xBB, 0xBF] := by
    obtain ⟨rest, hbytes⟩ := canonicalBytes_jsRecord members
    rw [hbytes]
    intro h
    exact absurd (List.cons.inj h).1 (by decide)
  have hdecoded : decodeUtf8 (canonicalBytes (jsRecord members)) = _ :=
    decodeUtf8_asBytes hunmarked
  have hparsed := parse_print (printable_canonical _ hprintable)
  rw [← canonicalJson_eq_print] at hparsed
  simp only [parseJsonBytes, hdecoded, hparsed, Option.bind_eq_bind, Option.bind_some, pure]

theorem plainText_jsText (text : String) : plainText (jsText text) = some text := by
  rw [plainText, jsText, requiredString, Option.bind_eq_bind, Option.bind_some,
    CodeUnits.maybeText_ofString]

theorem isText_jsText (text other : String) : isText (jsText text) other = (text == other) := by
  by_cases h : text = other
  · subst h
    simp [isText, jsText, requiredString]
  · have hunits : CodeUnits.ofString text ≠ CodeUnits.ofString other :=
      fun hsame => h (CodeUnits.ofString_injective hsame)
    simp [isText, jsText, requiredString, h, hunits]

theorem parseOperation_text (operation : WorkerLeaseAuthorizationOperation) :
    parseOperation (jsText operation.text) = some operation := by
  cases operation <;> simp [parseOperation, isText_jsText, WorkerLeaseAuthorizationOperation.text]

theorem parseDigest_jsText {text : String} (hdigest : isDigest text = true) :
    parseDigest (jsText text) = some text := by
  rw [parseDigest, plainText_jsText]
  exact Option.filter_some_pos hdigest

/-- The key id is read back from the header a call signs. -/
theorem parseHeader_canonicalBytes {kid : String} (hkid : validKeyId kid = true) :
    parseHeader (canonicalBytes (headerToJs kid)) = some kid := by
  have hprintable : Printable (headerToJs kid) := by simp [headerToJs, printable_jsRecord]
  have hread : parseJsonBytes (canonicalBytes (headerToJs kid)) =
      some (String.ofList (canonicalJson (headerToJs kid)), settle (canonical (headerToJs kid))) :=
    parseJsonBytes_canonicalBytes hprintable
  have hsettled : settle (canonical (headerToJs kid)) = headerToJs kid := rfl
  have hrecord : ∃ members, exactRecord (headerToJs kid) ["alg", "kid", "typ"] [] =
      some members ∧ fieldOf members "alg" = jsText "Ed25519" ∧
      fieldOf members "kid" = jsText kid ∧
      fieldOf members "typ" = jsText workerLeaseAuthorizationType := ⟨_, rfl, rfl, rfl, rfl⟩
  obtain ⟨members, hmembers, halg, hkidField, htyp⟩ := hrecord
  have hparsed : parseKeyId (CodeUnits.ofString kid) = some kid := by
    rw [parseKeyId, CodeUnits.maybeText_ofString]
    exact Option.filter_some_pos hkid
  have hunits : requiredString (jsText kid) = some (CodeUnits.ofString kid) := rfl
  simp only [parseHeader, hread, hsettled, hmembers, halg, hkidField, htyp, isText_jsText,
    Option.bind_eq_bind, Option.bind_some, beq_self_eq_true, Bool.and_self, guard, if_true,
    hunits, hparsed, pure]

/-- The payload a call signs is read back. -/
theorem parsePayload_canonicalBytes {payload : AuthorizationPayload} {sequence : ℕ}
    (hbinding : isDigest payload.controlSessionBindingSha256 = true)
    (hrequest : isDigest payload.requestSha256 = true)
    (hsequence : parseSequence (CodeUnits.ofString payload.sequence) = some sequence) :
    parsePayload (canonicalBytes payload.toJs) = some (payload, sequence) := by
  have hprintable : Printable payload.toJs := by
    simp [AuthorizationPayload.toJs, printable_jsRecord]
  have hread : parseJsonBytes (canonicalBytes payload.toJs) =
      some (String.ofList (canonicalJson payload.toJs), settle (canonical payload.toJs)) :=
    parseJsonBytes_canonicalBytes hprintable
  have hsettled : settle (canonical payload.toJs) = payload.toJs := rfl
  have hrecord : ∃ members, exactRecord payload.toJs
      ["controlSessionBindingSha256", "operation", "requestSha256", "sequence"] [] =
        some members ∧
      fieldOf members "controlSessionBindingSha256" =
        jsText payload.controlSessionBindingSha256 ∧
      fieldOf members "operation" = jsText payload.operation.text ∧
      fieldOf members "requestSha256" = jsText payload.requestSha256 ∧
      fieldOf members "sequence" = jsText payload.sequence := ⟨_, rfl, rfl, rfl, rfl, rfl⟩
  obtain ⟨members, hmembers, hbindingField, hoperationField, hrequestField, hsequenceField⟩ :=
    hrecord
  have hunits : requiredString (jsText payload.sequence) =
      some (CodeUnits.ofString payload.sequence) := rfl
  simp only [parsePayload, hread, hsettled, hmembers, hbindingField, hoperationField,
    hrequestField, hsequenceField, parseDigest_jsText hbinding, parseDigest_jsText hrequest,
    parseOperation_text, hunits, hsequence, CodeUnits.maybeText_ofString, Option.bind_eq_bind,
    Option.bind_some, guard, if_true, pure]

end WorkGate
