/-
# Texts as UTF-16 code units

Some languages keep a text as a list of 16-bit code units in which a surrogate may stand alone.
Read from the left, the units are characters and lone surrogates; a text of characters is one
without the latter, and its units tell which characters they are.
-/

import WorkGate.Library.Hex

namespace WorkGate.Library

/-- A text as its code units. -/
abbrev CodeUnits : Type := List UInt16

namespace CodeUnits

/-- What code units are read as: a character or a surrogate that stands alone. -/
inductive Piece
  | scalar (character : Char)
  | lone (unit : UInt16)
  deriving DecidableEq

def isHighSurrogate (unit : UInt16) : Bool := 0xD800 ≤ unit.toNat && unit.toNat < 0xDC00

def isLowSurrogate (unit : UInt16) : Bool := 0xDC00 ≤ unit.toNat && unit.toNat < 0xE000

/-- The code units of a character. -/
def ofChar (character : Char) : CodeUnits :=
  let value := character.toNat
  if value < 0x10000 then [UInt16.ofNat value]
  else [UInt16.ofNat (0xD800 + (value - 0x10000) / 0x400),
    UInt16.ofNat (0xDC00 + (value - 0x10000) % 0x400)]

/-- The code units of a text of characters. -/
def ofString (text : String) : CodeUnits := text.toList.flatMap ofChar

/-- A unit that is no half of a pair. -/
def single (unit : UInt16) : Piece :=
  if isHighSurrogate unit || isLowSurrogate unit then .lone unit
  else .scalar (Char.ofNat unit.toNat)

/-- The character of a pair of surrogates. -/
def pair (high low : UInt16) : Char :=
  Char.ofNat (0x10000 + (high.toNat - 0xD800) * 0x400 + (low.toNat - 0xDC00))

/-- What the units are read as. -/
def pieces : CodeUnits → List Piece
  | [] => []
  | [unit] => [single unit]
  | high :: low :: rest =>
      if isHighSurrogate high && isLowSurrogate low then .scalar (pair high low) :: pieces rest
      else single high :: pieces (low :: rest)

/-- The units that are read as a piece. -/
def Piece.units : Piece → CodeUnits
  | .scalar character => ofChar character
  | .lone unit => [unit]

theorem toNat_ofNat_of_lt {value : ℕ} (hlt : value < 0x10000) :
    (UInt16.ofNat value).toNat = value := by
  rw [UInt16.toNat_ofNat']
  exact Nat.mod_eq_of_lt hlt

theorem toNat_char {value : ℕ} (hvalid : value.isValidChar) : (Char.ofNat value).toNat = value := by
  rw [Char.ofNat, dif_pos hvalid]
  rfl

/-- A character is one unit that is no surrogate, or a pair. -/
theorem ofChar_cases (character : Char) :
    (∃ unit, ofChar character = [unit] ∧ single unit = .scalar character ∧
      isHighSurrogate unit = false) ∨
    (∃ high low, ofChar character = [high, low] ∧ isHighSurrogate high = true ∧
      isLowSurrogate low = true ∧ pair high low = character) := by
  have hvalid : character.toNat.isValidChar := character.valid
  have hback : Char.ofNat character.toNat = character := Char.ofNat_toNat character
  by_cases hlt : character.toNat < 0x10000
  · left
    have hunit := toNat_ofNat_of_lt hlt
    have hhigh : isHighSurrogate (UInt16.ofNat character.toNat) = false := by
      simp only [isHighSurrogate, hunit, Bool.and_eq_false_iff, decide_eq_false_iff_not]
      rcases hvalid with h | h <;> omega
    have hlow : isLowSurrogate (UInt16.ofNat character.toNat) = false := by
      simp only [isLowSurrogate, hunit, Bool.and_eq_false_iff, decide_eq_false_iff_not]
      rcases hvalid with h | h <;> omega
    refine ⟨UInt16.ofNat character.toNat, by rw [ofChar, if_pos hlt], ?_, hhigh⟩
    rw [single, hhigh, hlow, hunit, hback]
    rfl
  · right
    have hbound : character.toNat < 0x110000 := by
      rcases hvalid with h | h <;> omega
    have hhigh := toNat_ofNat_of_lt
      (show 0xD800 + (character.toNat - 0x10000) / 0x400 < 0x10000 by omega)
    have hlow := toNat_ofNat_of_lt
      (show 0xDC00 + (character.toNat - 0x10000) % 0x400 < 0x10000 by omega)
    refine ⟨_, _, by rw [ofChar, if_neg hlt], ?_, ?_, ?_⟩
    · simp only [isHighSurrogate, hhigh, Bool.and_eq_true, decide_eq_true_eq]
      omega
    · simp only [isLowSurrogate, hlow, Bool.and_eq_true, decide_eq_true_eq]
      omega
    · have hvalue : 0x10000 +
          (0xD800 + (character.toNat - 0x10000) / 0x400 - 0xD800) * 0x400 +
          (0xDC00 + (character.toNat - 0x10000) % 0x400 - 0xDC00) = character.toNat := by
        omega
      rw [pair, hhigh, hlow, hvalue, hback]

theorem units_single (unit : UInt16) : (single unit).units = [unit] := by
  by_cases hsurrogate : isHighSurrogate unit || isLowSurrogate unit
  · rw [single, if_pos hsurrogate, Piece.units]
  · have hlt := unit.toNat_lt
    simp only [isHighSurrogate, isLowSurrogate, Bool.or_eq_true, Bool.and_eq_true,
      decide_eq_true_eq, not_or, not_and] at hsurrogate
    have hvalid : unit.toNat.isValidChar := by
      unfold Nat.isValidChar
      omega
    rw [single, if_neg (by simpa [isHighSurrogate, isLowSurrogate] using hsurrogate), Piece.units,
      ofChar, toNat_char hvalid, if_pos hlt, UInt16.ofNat_toNat]

theorem units_pair {high low : UInt16} (hhigh : isHighSurrogate high = true)
    (hlow : isLowSurrogate low = true) : ofChar (pair high low) = [high, low] := by
  simp only [isHighSurrogate, isLowSurrogate, Bool.and_eq_true, decide_eq_true_eq] at hhigh hlow
  have hvalid : (0x10000 + (high.toNat - 0xD800) * 0x400 + (low.toNat - 0xDC00)).isValidChar := by
    unfold Nat.isValidChar
    omega
  have hvalue : (pair high low).toNat =
      0x10000 + (high.toNat - 0xD800) * 0x400 + (low.toNat - 0xDC00) := toNat_char hvalid
  have hfirst : 0xD800 + ((pair high low).toNat - 0x10000) / 0x400 = high.toNat := by
    rw [hvalue]
    omega
  have hsecond : 0xDC00 + ((pair high low).toNat - 0x10000) % 0x400 = low.toNat := by
    rw [hvalue]
    omega
  rw [ofChar, if_neg (by omega), hfirst, hsecond, UInt16.ofNat_toNat, UInt16.ofNat_toNat]

/-- The units are those of their pieces. -/
theorem flatMap_pieces (units : CodeUnits) : (pieces units).flatMap Piece.units = units := by
  induction units using pieces.induct with
  | case1 => rfl
  | case2 unit => simp [pieces, units_single]
  | case3 high low rest hpair ih =>
      rw [Bool.and_eq_true] at hpair
      rw [pieces, if_pos (by simpa using hpair), List.flatMap_cons, ih, Piece.units,
        units_pair hpair.1 hpair.2]
      rfl
  | case4 high low rest hpair ih =>
      rw [pieces, if_neg hpair, List.flatMap_cons, ih, units_single]
      rfl

/-- Units tell what they are read as apart. -/
theorem pieces_injective : Function.Injective pieces := by
  intro first second h
  rw [← flatMap_pieces first, h, flatMap_pieces]

/-- A text of characters is read as its characters. -/
theorem pieces_ofString (text : String) : pieces (ofString text) = text.toList.map .scalar := by
  rw [ofString]
  induction text.toList with
  | nil => rfl
  | cons character characters ih =>
      rw [List.flatMap_cons, List.map_cons]
      rcases ofChar_cases character with ⟨unit, hunits, hsingle, hhigh⟩ |
        ⟨high, low, hunits, hhigh, hlow, hpair⟩
      · rw [hunits, List.singleton_append]
        cases hrest : characters.flatMap ofChar with
        | nil =>
            rw [hrest] at ih
            rw [pieces, hsingle, ← ih]
            rfl
        | cons next rest =>
            rw [pieces, hhigh, Bool.false_and, if_neg Bool.false_ne_true, hsingle, ← hrest, ih]
      · rw [hunits, List.cons_append, List.singleton_append, pieces, hhigh, hlow, hpair, ih]
        rfl

theorem ofString_injective : Function.Injective ofString := by
  intro first second h
  have hpieces := congrArg pieces h
  rw [pieces_ofString, pieces_ofString] at hpieces
  have hscalar : Function.Injective Piece.scalar := fun _ _ => Piece.scalar.inj
  exact String.toList_inj.mp (List.map_injective_iff.mpr hscalar hpieces)

/-! ## Characters only -/

/-- The character a piece stands for, if it is one. -/
def Piece.maybeCharacter : Piece → Option Char
  | .scalar character => some character
  | .lone _ => none

/-- The text the units are, if no surrogate stands alone. -/
def maybeText (units : CodeUnits) : Option String :=
  ((pieces units).mapM Piece.maybeCharacter).map String.ofList

theorem mapM_maybeCharacter_scalar (characters : List Char) :
    (characters.map Piece.scalar).mapM Piece.maybeCharacter = some characters := by
  induction characters with
  | nil => rfl
  | cons character characters ih =>
      rw [List.map_cons, List.mapM_cons, ih]
      rfl

theorem maybeText_ofString (text : String) : maybeText (ofString text) = some text := by
  rw [maybeText, pieces_ofString, mapM_maybeCharacter_scalar, Option.map_some, String.ofList_toList]

theorem mapM_maybeCharacter_eq_some {found : List Piece} {characters : List Char}
    (h : found.mapM Piece.maybeCharacter = some characters) : found = characters.map .scalar := by
  induction found generalizing characters with
  | nil =>
      cases h
      rfl
  | cons piece found ih =>
      simp only [List.mapM_cons, Option.bind_eq_bind, Option.pure_def, Option.bind_eq_some_iff,
        Option.some.injEq] at h
      obtain ⟨character, hcharacter, rest, hrest, rfl⟩ := h
      cases piece with
      | lone unit => cases hcharacter
      | scalar found =>
          cases hcharacter
          rw [ih hrest, List.map_cons]

/-- The units of a text are that text's. -/
theorem maybeText_eq_some {units : CodeUnits} {text : String} :
    maybeText units = some text ↔ units = ofString text := by
  constructor
  · intro h
    obtain ⟨characters, hcharacters, rfl⟩ := Option.map_eq_some_iff.mp h
    apply pieces_injective
    rw [pieces_ofString, mapM_maybeCharacter_eq_some hcharacters, String.toList_ofList]
  · rintro rfl
    exact maybeText_ofString text

/-! ## Bytes -/

/-- A surrogate that stands alone is written as the replacement character. -/
def Piece.character : Piece → Char
  | .scalar character => character
  | .lone _ => Char.ofNat 0xFFFD

/-- The UTF-8 bytes of the units. -/
def utf8 (units : CodeUnits) : List UInt8 :=
  asBytes (String.ofList ((pieces units).map Piece.character))

theorem utf8_ofString (text : String) : utf8 (ofString text) = asBytes text := by
  have hsame : Piece.character ∘ Piece.scalar = id := rfl
  rw [utf8, pieces_ofString, List.map_map, hsame, List.map_id, String.ofList_toList]

end CodeUnits

/-- The text of bytes that are UTF-8; a byte order mark before it is dropped. -/
def decodeUtf8 (bytes : List UInt8) : Option String :=
  let marked := bytes.take 3 == [0xEF, 0xBB, 0xBF]
  String.fromUTF8? ⟨(if marked then bytes.drop 3 else bytes).toArray⟩

theorem decodeUtf8_asBytes {text : String}
    (hunmarked : (asBytes text).take 3 ≠ [0xEF, 0xBB, 0xBF]) :
    decodeUtf8 (asBytes text) = some text := by
  have hbytes : (⟨(asBytes text).toArray⟩ : ByteArray) = text.toByteArray := by
    rw [asBytes, Array.toArray_toList]
  have hmark : ((asBytes text).take 3 == [0xEF, 0xBB, 0xBF]) = false := by
    simpa using hunmarked
  simp only [decodeUtf8, hmark, if_neg Bool.false_ne_true, hbytes]
  rw [String.fromUTF8?, dif_pos text.isValidUTF8]
  rfl

/-- The bytes of a text are those of its characters. -/
theorem asBytes_ofList (characters : List Char) :
    asBytes (String.ofList characters) = characters.flatMap String.utf8EncodeChar := by
  rw [asBytes, String.toByteArray_ofList, List.utf8Encode]
  exact congrArg Array.toList List.data_toByteArray

/-- A character is at most four bytes. -/
theorem length_asBytes_ofList_le (characters : List Char) :
    (asBytes (String.ofList characters)).length ≤ 4 * characters.length := by
  rw [asBytes_ofList]
  induction characters with
  | nil => simp
  | cons character characters ih =>
      have hsize := character.utf8Size_le_four
      rw [List.flatMap_cons, List.length_append, String.length_utf8EncodeChar, List.length_cons]
      omega

/-- A character that is no control character has no byte that is one. -/
theorem le_of_mem_utf8EncodeChar {character : Char} {byte : UInt8} (h : 32 ≤ character.toNat)
    (hbyte : byte ∈ String.utf8EncodeChar character) : 32 ≤ byte.toNat := by
  have hcode : character.val.toNat = character.toNat := rfl
  have hbound : character.toNat < 0x110000 := by
    rcases character.valid with hlow | hhigh
    · exact Nat.lt_trans hlow (by decide)
    · exact hhigh.2
  have hofNat : ∀ value, 32 ≤ value % 256 → 32 ≤ (UInt8.ofNat value).toNat := by
    intro value hvalue
    rw [UInt8.toNat_ofNat']
    exact hvalue
  simp only [String.utf8EncodeChar, hcode] at hbyte
  split at hbyte
  · rw [List.mem_singleton] at hbyte
    rw [hbyte]
    exact hofNat _ (by omega)
  split at hbyte
  · simp only [List.mem_cons, List.not_mem_nil, or_false] at hbyte
    rcases hbyte with rfl | rfl
    · exact hofNat _ (by omega)
    · exact hofNat _ (by omega)
  split at hbyte
  · simp only [List.mem_cons, List.not_mem_nil, or_false] at hbyte
    rcases hbyte with rfl | rfl | rfl
    · exact hofNat _ (by omega)
    · exact hofNat _ (by omega)
    · exact hofNat _ (by omega)
  · simp only [List.mem_cons, List.not_mem_nil, or_false] at hbyte
    rcases hbyte with rfl | rfl | rfl | rfl
    · exact hofNat _ (by omega)
    · exact hofNat _ (by omega)
    · exact hofNat _ (by omega)
    · exact hofNat _ (by omega)

end WorkGate.Library
