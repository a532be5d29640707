/-
# Decoding bytes that may not be UTF-8

A decoder that does not fail writes the replacement character for every sequence that breaks off
or never begins, and goes on behind it.  Bytes that are UTF-8 it reads as they are.
-/

import WorkGate.Library.CodeUnits

namespace WorkGate.Library.TextDecoder

def isContinuation (byte : UInt8) : Bool := 0x80 ≤ byte.toNat && byte.toNat ≤ 0xBF

/-- How many bytes belong behind a first byte, and between which bounds the second one lies. -/
def expectation (first : UInt8) : ℕ × ℕ × ℕ :=
  let code := first.toNat
  if code < 0xC2 || 0xF4 < code then (0, 0, 0)
  else if code < 0xE0 then (1, 0x80, 0xBF)
  else if code < 0xF0 then
    (2, if code = 0xE0 then 0xA0 else 0x80, if code = 0xED then 0x9F else 0xBF)
  else (3, if code = 0xF0 then 0x90 else 0x80, if code = 0xF4 then 0x8F else 0xBF)

/-- The length of a sequence that breaks off. -/
def brokenLength (first : UInt8) (rest : List UInt8) : ℕ :=
  let (behind, lower, upper) := expectation first
  match rest.take behind with
  | [] => 1
  | second :: others =>
      if second.toNat < lower || upper < second.toNat then 1
      else 2 + (others.takeWhile isContinuation).length

/-- The characters of the bytes, with no more steps than there are bytes. -/
def replacing : ℕ → List UInt8 → List Char
  | 0, _ => []
  | _, [] => []
  | fuel + 1, first :: rest =>
      match ByteArray.utf8DecodeChar? ⟨(first :: rest).toArray⟩ 0 with
      | some character => character :: replacing fuel ((first :: rest).drop character.utf8Size)
      | none => Char.ofNat 0xFFFD :: replacing fuel ((first :: rest).drop (brokenLength first rest))

/-- `new TextDecoder().decode`. -/
def decode (bytes : List UInt8) : String :=
  match decodeUtf8 bytes with
  | some text => text
  | none =>
      let unmarked := if bytes.take 3 == [0xEF, 0xBB, 0xBF] then bytes.drop 3 else bytes
      String.ofList (replacing unmarked.length unmarked)

/-- What was encoded is decoded, without a mark that nothing put there. -/
theorem decode_asBytes {text : String}
    (hunmarked : (asBytes text).take 3 ≠ [0xEF, 0xBB, 0xBF]) : decode (asBytes text) = text := by
  rw [decode, decodeUtf8_asBytes hunmarked]

/-- A truncated sequence is one replacement character, an overlong one is one for each byte. -/
example : decode [0x61, 0xE2, 0x82, 0x62, 0xC0, 0xAF] = "a\uFFFDb\uFFFD\uFFFD" := by
  decide +kernel

end WorkGate.Library.TextDecoder
