/-
# Texts and bytes

The UTF-8 bytes of a text, and bytes written as lower-case hexadecimal text.  Both
determine what they were made from, which is what an identity built out of a digest
needs.  Bytes are also written as unpadded base64url text.
-/

import Mathlib.Data.List.Basic
import Mathlib.Data.Nat.Notation
import Mathlib.Tactic.Common

namespace WorkGate.Library

/-- What a listed property says is checked member by member. -/
theorem forall_mem_of_all {α : Type} {property : α → Prop} [DecidablePred property]
    {members : List α} (h : members.all (fun member => decide (property member)) = true) :
    ∀ member ∈ members, property member := fun member hmem =>
  of_decide_eq_true (List.all_eq_true.mp h member hmem)

/-- The UTF-8 bytes of a text. -/
def asBytes (text : String) : List UInt8 := text.toByteArray.data.toList

theorem asBytes_injective : Function.Injective asBytes := by
  intro first second h
  rw [← String.toByteArray_inj]
  exact ByteArray.ext (Array.toList_inj.mp h)

theorem asBytes_append (first second : String) :
    asBytes (first ++ second) = asBytes first ++ asBytes second := by
  rw [asBytes, String.toByteArray_append, ByteArray.data_append, Array.toList_append]
  rfl

namespace Hex

/-- The digit of a number below sixteen. -/
def digit (value : ℕ) : Char :=
  if value < 10 then Char.ofNat (48 + value) else Char.ofNat (87 + value)

/-- Digits are told apart, and each is a letter or a decimal digit. -/
theorem digit_injective : ∀ first < 16, ∀ second < 16, digit first = digit second →
    first = second := by decide

/-- The two digits of a byte, high half first. -/
def encodeByte (byte : UInt8) : List Char := [digit (byte.toNat / 16), digit (byte.toNat % 16)]

theorem encodeByte_injective {first second : UInt8} (h : encodeByte first = encodeByte second) :
    first = second := by
  have hlt : ∀ byte : UInt8, byte.toNat / 16 < 16 := fun byte =>
    Nat.div_lt_of_lt_mul byte.toNat_lt
  obtain ⟨hhigh, hlow⟩ := List.cons.inj h
  have hhigh := digit_injective _ (hlt first) _ (hlt second) hhigh
  have hlow := digit_injective _ (Nat.mod_lt _ (by decide)) _ (Nat.mod_lt _ (by decide))
    (List.cons.inj hlow).1
  apply UInt8.toNat_inj.mp
  rw [← Nat.div_add_mod first.toNat 16, hhigh, hlow, Nat.div_add_mod]

/-- Bytes as lower-case hexadecimal text. -/
def encode (bytes : List UInt8) : String := String.ofList (bytes.flatMap encodeByte)

theorem encode_injective : Function.Injective encode := by
  intro first second h
  have hdigits : first.flatMap encodeByte = second.flatMap encodeByte := by
    have htexts := congrArg String.toList h
    rwa [encode, encode, String.toList_ofList, String.toList_ofList] at htexts
  clear h
  induction first generalizing second with
  | nil =>
      cases second with
      | nil => rfl
      | cons byte rest => simp [encodeByte] at hdigits
  | cons byte rest ih =>
      cases second with
      | nil => simp [encodeByte] at hdigits
      | cons other others =>
          rw [List.flatMap_cons, List.flatMap_cons] at hdigits
          obtain ⟨hbyte, hrest⟩ := List.append_inj hdigits rfl
          rw [encodeByte_injective hbyte, ih hrest]

end Hex

/-! ## Unpadded base64url -/

namespace Base64Url

/-- The character of a number below 64. -/
def digit (value : ℕ) : Char :=
  "ABCDEFGHIJKLMNOPQRSTUVWXYZabcdefghijklmnopqrstuvwxyz0123456789-_".toList.getD value 'A'

/-- Three bytes are four characters; one or two left over are two or three. -/
def encodeBytes : List UInt8 → List Char
  | [] => []
  | [first] => [digit (first.toNat / 4), digit (first.toNat % 4 * 16)]
  | [first, second] =>
      [digit (first.toNat / 4), digit (first.toNat % 4 * 16 + second.toNat / 16),
        digit (second.toNat % 16 * 4)]
  | first :: second :: third :: rest =>
      digit (first.toNat / 4) :: digit (first.toNat % 4 * 16 + second.toNat / 16) ::
        digit (second.toNat % 16 * 4 + third.toNat / 64) :: digit (third.toNat % 64) ::
          encodeBytes rest

/-- Bytes as unpadded base64url text. -/
def encode (bytes : List UInt8) : String := String.ofList (encodeBytes bytes)

end Base64Url

end WorkGate.Library
