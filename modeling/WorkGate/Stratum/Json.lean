/-
# JSON values and the libraries behind the Pool Adapter

Stratum V1 speaks one JSON object per line.  The parser and the printer are
`serde_json`'s, the digest is `ring`'s, transactions with witness data are read by
`bitcoin` and UUID texts by `uuid`; all of these are parameters of the model.  What the
Pool Adapter does with a parsed value is its own code, and the accessors it uses are
the ones below.
-/

import Mathlib.Data.Nat.Notation

namespace WorkGate

/-- A number as `serde_json` keeps it.  A double is kept as the text it prints as. -/
inductive JsonNumber
  | posInt (value : ℕ)
  | negInt (magnitude : ℕ)
  | float (text : String)
  deriving DecidableEq

/-- `Number::to_string`. -/
def JsonNumber.text : JsonNumber → String
  | .posInt value => value.repr
  | .negInt magnitude => "-" ++ magnitude.repr
  | .float text => text

/-- `serde_json::Value`. -/
inductive Json
  | null
  | bool (value : Bool)
  | number (value : JsonNumber)
  | string (text : String)
  | array (elements : List Json)
  | object (fields : List (String × Json))

/-- `serde_json::Map`. -/
abbrev JsonMap := List (String × Json)

namespace Json

/-- `Value::as_str`. -/
def asStr : Json → Option String
  | .string text => some text
  | _ => none

/-- `Value::as_bool`. -/
def asBool : Json → Option Bool
  | .bool value => some value
  | _ => none

/-- `Value::as_array`. -/
def asArray : Json → Option (List Json)
  | .array elements => some elements
  | _ => none

/-- `Value::as_number`. -/
def asNumber : Json → Option JsonNumber
  | .number value => some value
  | _ => none

/-- `Value::as_u64`. -/
def asU64 : Json → Option ℕ
  | .number (.posInt value) => some value
  | _ => none

/-- `Value::as_object`. -/
def asObject : Json → Option JsonMap
  | .object fields => some fields
  | _ => none

end Json

/-- `Map::get`. -/
def JsonMap.get (fields : JsonMap) (key : String) : Option Json := fields.lookup key

/-- Whether a response reports `result: true`. -/
def JsonMap.reportsTrue (fields : JsonMap) : Bool :=
  ((fields.get "result").bind Json.asBool) == some true

/-- The third-party functions the Pool Adapter calls. -/
structure Dependencies where
  /-- `serde_json::from_str::<Value>`, `none` where it fails. -/
  fromStr : String → Option Json
  /-- `serde_json::to_string` of a `Value`. -/
  toStr : Json → String
  /-- Whether `Uuid::parse_str` accepts a text. -/
  parsesUuid : String → Bool
  /-- `digest::digest(&digest::SHA256, input)`. -/
  sha256 : List UInt8 → List UInt8
  sha256_length : ∀ input, (sha256 input).length = 32
  /-- The id of a transaction `bitcoin::consensus::deserialize` accepts. -/
  computeTxid : List UInt8 → Option (List UInt8)
  computeTxid_length : ∀ input txid, computeTxid input = some txid → txid.length = 32

/-- Libraries known on finitely many inputs, for runs on concrete frames: the texts that
parse, the UUIDs among them and the digests taken. -/
def Dependencies.ofTables (texts : List (String × Json)) (uuids : List String)
    (digests : List (List UInt8 × List UInt8)) : Dependencies where
  fromStr := fun text => texts.lookup text
  toStr
    | .null => "null"
    | .bool value => toString value
    | .number value => value.text
    | .string text => "\"" ++ text ++ "\""
    | _ => ""
  parsesUuid := uuids.contains
  sha256 := fun input => ((digests.lookup input).filter (·.length = 32)).getD (List.replicate 32 0)
  sha256_length := by
    intro input
    cases hdigest : (digests.lookup input).filter (·.length = 32) with
    | none => rfl
    | some digest => exact of_decide_eq_true (Option.filter_eq_some_iff.mp hdigest).2
  computeTxid := fun _ => none
  computeTxid_length := by simp

end WorkGate
