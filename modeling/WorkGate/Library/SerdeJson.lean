/-
# Writing JSON from declared structs

A serializer of structs writes the fields in the order in which they are declared, a text between
quotes with what must be escaped in it, and a number in decimal.  What it writes is the JSON text
of the record of these fields.
-/

import WorkGate.Library.Hex
import WorkGate.Library.JsonText

namespace WorkGate.Library

/-- A character inside the quotes. -/
def serdeEscape (character : Char) : List Char :=
  let code := character.toNat
  if code = 0x22 then ['\\', '"']
  else if code = 0x5C then ['\\', '\\']
  else if code = 0x08 then ['\\', 'b']
  else if code = 0x09 then ['\\', 't']
  else if code = 0x0A then ['\\', 'n']
  else if code = 0x0C then ['\\', 'f']
  else if code = 0x0D then ['\\', 'r']
  else if code < 0x20 then '\\' :: 'u' :: '0' :: '0' :: Hex.encodeByte (UInt8.ofNat code)
  else [character]

def serdeString (text : String) : List Char :=
  '"' :: (text.toList.flatMap serdeEscape ++ ['"'])

def serdeUnsigned (value : ℕ) : List Char := value.repr.toList

def serdeBool (value : Bool) : List Char := if value then "true".toList else "false".toList

/-- A struct: its fields in the order in which they are declared. -/
def serdeStruct (fields : List (String × List Char)) : List Char :=
  '{' :: ([','].intercalate (fields.map fun field => serdeString field.1 ++ ':' :: field.2) ++
    ['}'])

/-! ## What is written is the text of a record -/

/-- The letter of a character that has one, by its code. -/
theorem maybeShortEscape_eq (character : Char) : JsonText.maybeShortEscape character =
    if character.toNat = 0x22 then some '"' else if character.toNat = 0x5C then some '\\'
    else if character.toNat = 8 then some 'b' else if character.toNat = 12 then some 'f'
    else if character.toNat = 10 then some 'n' else if character.toNat = 13 then some 'r'
    else if character.toNat = 9 then some 't' else none := by
  have hquote : character = '"' ↔ character.toNat = 0x22 := Char.ext_iff.trans UInt32.toNat_inj.symm
  have hslash : character = '\\' ↔ character.toNat = 0x5C :=
    Char.ext_iff.trans UInt32.toNat_inj.symm
  simp only [JsonText.maybeShortEscape, hquote, hslash]

theorem hexUnit_of_lt {code : ℕ} (hlt : code < 32) :
    JsonText.hexUnit (UInt16.ofNat code) = '0' :: '0' :: Hex.encodeByte (UInt8.ofNat code) := by
  have hunit : (UInt16.ofNat code).toNat = code := CodeUnits.toNat_ofNat_of_lt (by omega)
  have hhigh : code / 256 = 0 := by omega
  have hlow : code % 256 = code := by omega
  rw [JsonText.hexUnit, hunit, hhigh, hlow]
  rfl

theorem serdeEscape_eq (character : Char) :
    serdeEscape character = JsonText.escape (.scalar character) := by
  rw [serdeEscape, JsonText.escape, maybeShortEscape_eq]
  by_cases hcontrol : character.toNat < 32
  · rw [hexUnit_of_lt hcontrol]
    grind
  · grind

theorem serdeString_eq_quote (text : String) :
    serdeString text = JsonText.quote (CodeUnits.ofString text) := by
  have hescape : serdeEscape = fun character => JsonText.escape (.scalar character) := by
    funext character
    exact serdeEscape_eq character
  rw [serdeString, JsonText.quote, CodeUnits.pieces_ofString, List.flatMap_map, hescape]

theorem serdeString_eq_print (text : String) :
    serdeString text = JsonText.print (.string (CodeUnits.ofString text)) := by
  rw [JsonText.print, serdeString_eq_quote]

theorem serdeUnsigned_eq_print (value : ℕ) :
    serdeUnsigned value = JsonText.print (.number (.natural value)) := by
  rw [serdeUnsigned, JsonText.print, JsonText.printNumber]

theorem serdeBool_eq_print (value : Bool) : serdeBool value = JsonText.print (.bool value) := by
  cases value with
  | false => rw [serdeBool, JsonText.print, if_neg Bool.false_ne_true]
  | true => rw [serdeBool, JsonText.print, if_pos rfl]

/-- A struct is written as the record of its fields is. -/
theorem serdeStruct_eq_print (fields : List (String × JsValue)) :
    serdeStruct (fields.map fun field => (field.1, JsonText.print field.2)) =
      JsonText.print (.object (fields.map (Prod.map CodeUnits.ofString id))) := by
  have hfield : ((fun field => serdeString field.1 ++ ':' :: field.2) ∘
      fun field : String × JsValue => (field.1, JsonText.print field.2)) =
      (fun member => JsonText.quote member.1 ++ ':' :: JsonText.print member.2) ∘
        Prod.map CodeUnits.ofString id := by
    funext field
    exact congrArg (· ++ ':' :: JsonText.print field.2) (serdeString_eq_quote field.1)
  rw [serdeStruct, JsonText.print_object, List.map_map, List.map_map, hfield]

end WorkGate.Library
