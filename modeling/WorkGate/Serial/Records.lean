/-
# Records and tokens of the serial protocol (web/worker-serial.ts)

What both ends read out of untrusted data before they look at what it says: an object with exactly
the expected keys, and tokens of sixteen or thirty-two bytes in their one spelling.
-/

import WorkGate.Serial.Credit
import WorkGate.Worker.LeaseRequests

namespace WorkGate

open WorkGate.Library

/-- A text of base64url characters whose last one is among these. -/
def tokenText (length : ℕ) (last : List Char) (text : String) : Bool :=
  decide (text.toList.length = length) && text.toList.all isOpaqueIdCharacter &&
    text.toList.getLast?.any (last.contains ·)

/-- `serialToken`: 21 characters and one that leaves no bits over. -/
def serialToken (text : String) : Bool := tokenText 22 ['A', 'Q', 'g', 'w'] text

/-- `serialRecord`, with its failure. -/
def readSerialRecord (value : JsValue) : Except SerialFailure (List (CodeUnits × JsValue)) :=
  match serialRecord value with
  | some members => .ok members
  | none => .error (serialFailure "shape")

/-- `exactSerialRecord`, with its failures. -/
def readExactRecord (value : JsValue) (keys : List String) :
    Except SerialFailure (List (CodeUnits × JsValue)) :=
  match serialRecord value, exactSerialRecord value keys with
  | none, _ => .error (serialFailure "shape")
  | some _, none => .error (serialFailure "fields")
  | some _, some members => .ok members

theorem exact_of_readExactRecord {value : JsValue} {keys : List String}
    {members : List (CodeUnits × JsValue)} (h : readExactRecord value keys = .ok members) :
    exactSerialRecord value keys = some members := by
  rw [readExactRecord] at h
  cases hexact : exactSerialRecord value keys with
  | some found =>
      rw [hexact] at h
      cases hrecord : serialRecord value with
      | none => rw [hrecord] at h; cases h
      | some record =>
          rw [hrecord] at h
          cases h
          rfl
  | none =>
      rw [hexact] at h
      cases hrecord : serialRecord value with
      | none => rw [hrecord] at h; cases h
      | some record => rw [hrecord] at h; cases h

/-- A record that was read is the data itself. -/
theorem readExactRecord_eq_ok {value : JsValue} {keys : List String}
    {members : List (CodeUnits × JsValue)} (h : readExactRecord value keys = .ok members) :
    value = .object members := by
  have hexact := exact_of_readExactRecord h
  cases value with
  | object entries =>
      simp only [exactSerialRecord, serialRecord, Option.bind_eq_bind, Option.bind_some,
        Option.bind_eq_some_iff] at hexact
      obtain ⟨_, -, _, -, hsame⟩ := hexact
      cases hsame
      rfl
  | undefined => cases h
  | null => cases h
  | bool flag => cases h
  | number number => cases h
  | string units => cases h
  | array elements => cases h

end WorkGate
