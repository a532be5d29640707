/-
# ASCII texts

Programs that read identifiers, numbers and addresses go over the UTF-8 bytes of a text
and compare them with ASCII characters.  A byte below 128 is only ever the whole encoding
of one character, so such a program sees the characters themselves.
-/

import WorkGate.Library.CodeUnits

namespace WorkGate.Library

/-- The byte that stands for a character below 128. -/
def asciiByte (character : Char) : UInt8 := UInt8.ofNat character.toNat

theorem toNat_asciiByte {character : Char} (h : character.toNat < 128) :
    (asciiByte character).toNat = character.toNat := by
  rw [asciiByte, UInt8.toNat_ofNat']
  exact Nat.mod_eq_of_lt (by omega)

theorem utf8EncodeChar_of_lt {character : Char} (h : character.toNat < 128) :
    String.utf8EncodeChar character = [asciiByte character] := by
  have hcode : character.val.toNat = character.toNat := rfl
  rw [String.utf8EncodeChar]
  simp only [hcode]
  rw [if_pos (by omega)]
  rfl

/-- Every byte of a character above 127 is above 127. -/
theorem le_of_mem_utf8EncodeChar_of_le {character : Char} {byte : UInt8}
    (h : 128 ≤ character.toNat) (hbyte : byte ∈ String.utf8EncodeChar character) :
    128 ≤ byte.toNat := by
  have hcode : character.val.toNat = character.toNat := rfl
  have hofNat : ∀ value, 128 ≤ value % 256 → 128 ≤ (UInt8.ofNat value).toNat := by
    intro value hvalue
    rw [UInt8.toNat_ofNat']
    exact hvalue
  simp only [String.utf8EncodeChar, hcode] at hbyte
  split at hbyte
  · omega
  split at hbyte
  · simp only [List.mem_cons, List.not_mem_nil, or_false] at hbyte
    rcases hbyte with rfl | rfl <;> apply hofNat <;> omega
  split at hbyte
  · simp only [List.mem_cons, List.not_mem_nil, or_false] at hbyte
    rcases hbyte with rfl | rfl | rfl <;> apply hofNat <;> omega
  · simp only [List.mem_cons, List.not_mem_nil, or_false] at hbyte
    rcases hbyte with rfl | rfl | rfl | rfl <;> apply hofNat <;> omega

/-- The bytes of an ASCII text are its characters. -/
theorem asBytes_of_ascii {text : String} (h : ∀ character ∈ text.toList, character.toNat < 128) :
    asBytes text = text.toList.map asciiByte := by
  have hbytes := asBytes_ofList text.toList
  rw [String.ofList_toList] at hbytes
  rw [hbytes]
  generalize text.toList = characters at h
  induction characters with
  | nil => rfl
  | cons character characters ih =>
      rw [List.forall_mem_cons] at h
      rw [List.flatMap_cons, List.map_cons, utf8EncodeChar_of_lt h.1, ih h.2]
      rfl

/-- An ASCII text has a byte for each character. -/
theorem utf8ByteSize_of_ascii {text : String}
    (h : ∀ character ∈ text.toList, character.toNat < 128) :
    text.utf8ByteSize = text.toList.length := by
  have hsize : text.utf8ByteSize = (asBytes text).length := by
    rw [asBytes, Array.length_toList]
    rfl
  rw [hsize, asBytes_of_ascii h, List.length_map]

/-- A test that only ASCII bytes pass, on all bytes of a text, is that test on all its
characters. -/
theorem forall_mem_asBytes_iff {test : UInt8 → Bool} (htest : ∀ byte, test byte → byte.toNat < 128)
    (text : String) : (∀ byte ∈ asBytes text, test byte) ↔
      ∀ character ∈ text.toList, character.toNat < 128 ∧ test (asciiByte character) := by
  have hbytes := asBytes_ofList text.toList
  rw [String.ofList_toList] at hbytes
  rw [hbytes]
  simp only [List.mem_flatMap, forall_exists_index, and_imp]
  constructor
  · intro h character hcharacter
    have hlow : character.toNat < 128 := by
      by_contra hhigh
      have hhigh := Nat.le_of_not_lt hhigh
      cases hfirst : String.utf8EncodeChar character with
      | nil => exact absurd hfirst (by simp)
      | cons byte bytes =>
          have hmem : byte ∈ String.utf8EncodeChar character := by simp [hfirst]
          have hbelow := htest byte (h byte character hcharacter hmem)
          have habove := le_of_mem_utf8EncodeChar_of_le hhigh hmem
          omega
    constructor
    · exact hlow
    · apply h _ character hcharacter
      simp [utf8EncodeChar_of_lt hlow]
  · intro h byte character hcharacter hbyte
    have hcharacter' := h character hcharacter
    rw [utf8EncodeChar_of_lt hcharacter'.1, List.mem_singleton] at hbyte
    rw [hbyte]
    exact hcharacter'.2

end WorkGate.Library
