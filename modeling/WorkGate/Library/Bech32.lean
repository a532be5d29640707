/-
# Segregated witness addresses

The address format of BIP 173 and BIP 350.  A data part is written in 32 characters, each an
element of the field with 32 elements; six of them at the end make the whole a multiple of a
generator polynomial, up to a constant that depends on the version.  The rest carries a
version and, regrouped from five to eight bits, a witness program.
-/

import Mathlib
import WorkGate.Library.Bits

namespace WorkGate.Library.Bech32

/-- An element of the field with 32 elements, by the bits of its polynomial. -/
abbrev Symbol := BitVec 5

/-- The character of each symbol. -/
def alphabet : List Char := "qpzry9x8gf2tvdw0s3jn54khce6mua7l".toList

def character (symbol : Symbol) : Char := alphabet.getD symbol.toNat 'q'

/-- Every symbol is found under its character, which is neither the separator nor an uppercase
letter. -/
theorem character_table : ∀ symbol : Symbol,
    alphabet.idxOf? (character symbol) = some symbol.toNat ∧ character symbol ≠ '1' ∧
      (character symbol).toLower = character symbol ∧ (character symbol).toNat < 128 ∧
      (character symbol).toUpper.toNat < 128 := by
  decide +kernel

theorem idxOf?_character (symbol : Symbol) :
    alphabet.idxOf? (character symbol) = some symbol.toNat :=
  (character_table symbol).1

/-- The separator is no character of the alphabet. -/
theorem character_ne_separator (symbol : Symbol) : character symbol ≠ '1' :=
  (character_table symbol).2.1

@[simp]
theorem toLower_character (symbol : Symbol) : (character symbol).toLower = character symbol :=
  (character_table symbol).2.2.1

theorem toNat_character_lt (symbol : Symbol) : (character symbol).toNat < 128 :=
  (character_table symbol).2.2.2.1

theorem toNat_toUpper_character_lt (symbol : Symbol) : (character symbol).toUpper.toNat < 128 :=
  (character_table symbol).2.2.2.2

/-- Looking all characters of a text up gives the symbols it writes. -/
theorem mapM_idxOf?_eq_some_iff (text : List Char) (indexes : List ℕ) :
    text.mapM (fun written => alphabet.idxOf? written) = some indexes ↔
      ∃ symbols : List Symbol, text = symbols.map character ∧
        indexes = symbols.map BitVec.toNat := by
  induction text generalizing indexes with
  | nil =>
      rw [List.mapM_nil, Option.pure_def, Option.some_inj]
      constructor
      · rintro rfl
        exact ⟨[], rfl, rfl⟩
      · rintro ⟨symbols, htext, rfl⟩
        rw [List.map_eq_nil_iff.mp htext.symm, List.map_nil]
  | cons written text ih =>
      simp only [List.mapM_cons, Option.bind_eq_bind, Option.pure_def, Option.bind_eq_some_iff,
        Option.some_inj, ih]
      constructor
      · rintro ⟨index, hindex, _, ⟨symbols, rfl, rfl⟩, rfl⟩
        obtain ⟨hlt, hwritten, -⟩ := List.idxOf?_eq_some_iff.mp hindex
        have hsmall : index % 2 ^ 5 = index := Nat.mod_eq_of_lt hlt
        refine ⟨BitVec.ofNat 5 index :: symbols, ?_, ?_⟩
        · rw [List.map_cons, character, BitVec.toNat_ofNat, hsmall,
            List.getD_eq_getElem _ _ hlt, hwritten]
        · rw [List.map_cons, BitVec.toNat_ofNat, hsmall]
      · rintro ⟨symbols, htext, rfl⟩
        cases symbols with
        | nil => cases htext
        | cons symbol symbols =>
            rw [List.map_cons, List.cons.injEq] at htext
            refine ⟨symbol.toNat, ?_, symbols.map BitVec.toNat, ⟨symbols, htext.2, rfl⟩, rfl⟩
            rw [htext.1, idxOf?_character]

/-! ## The checksum -/

/-- Multiplication by the root of `x ^ 5 + x ^ 3 + 1`. -/
def timesRoot (symbol : Symbol) : Symbol := (symbol <<< 1) ^^^ if symbol.msb then 0b01001 else 0

/-- Multiplication in the field. -/
def times (symbol factor : Symbol) : Symbol :=
  [4, 3, 2, 1, 0].foldl
    (fun product index => timesRoot product ^^^ if factor.getLsbD index then symbol else 0) 0

/-- A polynomial over the field of degree below six, the leading coefficient first. -/
@[ext]
structure Residue where
  c5 : Symbol
  c4 : Symbol
  c3 : Symbol
  c2 : Symbol
  c1 : Symbol
  c0 : Symbol
  deriving DecidableEq

namespace Residue

/-- The coefficients as one word. -/
def bits (residue : Residue) : BitVec (5 + (5 + (5 + (5 + (5 + 5))))) :=
  residue.c5 ++ (residue.c4 ++ (residue.c3 ++ (residue.c2 ++ (residue.c1 ++ residue.c0))))

/-- What the generator polynomial leaves below its leading term, by coefficients. -/
def generator : Residue := ⟨29, 22, 20, 21, 29, 18⟩

/-- A symbol times the generator below its leading term. -/
def multiple (symbol : Symbol) : Residue where
  c5 := times symbol generator.c5
  c4 := times symbol generator.c4
  c3 := times symbol generator.c3
  c2 := times symbol generator.c2
  c1 := times symbol generator.c1
  c0 := times symbol generator.c0

/-- Times `x` plus a symbol, modulo the generator polynomial. -/
def step (residue : Residue) (symbol : Symbol) : Residue where
  c5 := residue.c4 ^^^ (multiple residue.c5).c5
  c4 := residue.c3 ^^^ (multiple residue.c5).c4
  c3 := residue.c2 ^^^ (multiple residue.c5).c3
  c2 := residue.c1 ^^^ (multiple residue.c5).c2
  c1 := residue.c0 ^^^ (multiple residue.c5).c1
  c0 := symbol ^^^ (multiple residue.c5).c0

theorem toNat_bits (residue : Residue) :
    residue.bits.toNat = 2 ^ 25 * residue.c5.toNat + (2 ^ 20 * residue.c4.toNat +
      (2 ^ 15 * residue.c3.toNat + (2 ^ 10 * residue.c2.toNat +
        (2 ^ 5 * residue.c1.toNat + residue.c0.toNat)))) := by
  have happend : ∀ {upper lower : ℕ} (high : BitVec upper) (low : BitVec lower),
      (high ++ low).toNat = 2 ^ lower * high.toNat + low.toNat := by
    intro upper lower high low
    rw [BitVec.toNat_append, ← Nat.shiftLeft_add_eq_or_of_lt low.isLt, Nat.shiftLeft_eq,
      Nat.mul_comm]
  rw [bits, happend, happend, happend, happend, happend]

/-- The leading coefficient is what lies above the lower 25 bits. -/
theorem toNat_bits_shiftRight (residue : Residue) :
    residue.bits.toNat >>> 25 = residue.c5.toNat := by
  rw [Nat.shiftRight_eq_div_pow, toNat_bits]
  have h0 := residue.c0.isLt
  have h1 := residue.c1.isLt
  have h2 := residue.c2.isLt
  have h3 := residue.c3.isLt
  have h4 := residue.c4.isLt
  omega

/-- One step as words: the lower coefficients move up, the symbol comes in below them, and the
multiple of the generator is taken away. -/
theorem toNat_bits_step (residue : Residue) (symbol : Symbol) :
    (residue.step symbol).bits.toNat =
      (residue.bits.toNat % 2 ^ 25 * 2 ^ 5 + symbol.toNat) ^^^
        (multiple residue.c5).bits.toNat := by
  have hmoved : (residue.step symbol).bits =
      bits ⟨residue.c4, residue.c3, residue.c2, residue.c1, residue.c0, symbol⟩ ^^^
        (multiple residue.c5).bits := by
    rw [bits, bits, bits, BitVec.xor_append, BitVec.xor_append, BitVec.xor_append,
      BitVec.xor_append, BitVec.xor_append]
    rfl
  rw [hmoved, BitVec.toNat_xor, toNat_bits residue, toNat_bits ⟨_, _, _, _, _, symbol⟩]
  congr 1
  dsimp only
  have h0 := residue.c0.isLt
  have h1 := residue.c1.isLt
  have h2 := residue.c2.isLt
  have h3 := residue.c3.isLt
  have h4 := residue.c4.isLt
  omega

end Residue

/-- A human-readable part as symbols. -/
def expand (readable : List Char) : List Symbol :=
  (readable.map fun character => BitVec.ofNat 5 (character.toNat / 32)) ++
    0 :: readable.map fun character => BitVec.ofNat 5 (character.toNat % 32)

/-- The residue of an address with its checksum. -/
def residueOf (readable : List Char) (symbols : List Symbol) : Residue :=
  (expand readable ++ symbols).foldl Residue.step ⟨0, 0, 0, 0, 0, 1⟩

/-- The residue of a valid address: Bech32 for version 0, Bech32m for the others. -/
def checkConstant (version : Symbol) : BitVec 30 := if version = 0 then 1 else 0x2bc830a3

/-! ## Witness programs -/

def symbolBits (symbols : List Symbol) : List Bool :=
  symbols.flatMap fun symbol => Bits.low 5 symbol.toNat

def byteBits (bytes : List UInt8) : List Bool := bytes.flatMap fun byte => Bits.low 8 byte.toNat

/-- The bits of the program, with fewer than five zero bits after them. -/
def Packs (bits : List Bool) (program : List UInt8) : Prop :=
  ∃ padding : List Bool, padding.length < 5 ∧ (∀ bit ∈ padding, bit = false) ∧
    bits = byteBits program ++ padding

/-- The symbols hold the bits of the program. -/
def Carries (symbols : List Symbol) (program : List UInt8) : Prop :=
  Packs (symbolBits symbols) program

@[simp]
theorem length_symbolBits (symbols : List Symbol) :
    (symbolBits symbols).length = 5 * symbols.length := by
  induction symbols with
  | nil => rfl
  | cons symbol symbols ih =>
      rw [symbolBits] at ih ⊢
      rw [List.flatMap_cons, List.length_append, Bits.length_low, ih, List.length_cons]
      omega

@[simp]
theorem length_byteBits (bytes : List UInt8) : (byteBits bytes).length = 8 * bytes.length := by
  induction bytes with
  | nil => rfl
  | cons byte bytes ih =>
      rw [byteBits] at ih ⊢
      rw [List.flatMap_cons, List.length_append, Bits.length_low, ih, List.length_cons]
      omega

/-- Fewer bits than a byte are padding. -/
theorem packs_iff_of_length_lt {bits : List Bool} (h : bits.length < 8) (program : List UInt8) :
    Packs bits program ↔ program = [] ∧ bits.length < 5 ∧ ∀ bit ∈ bits, bit = false := by
  constructor
  · rintro ⟨padding, hlength, hzero, rfl⟩
    rw [List.length_append, length_byteBits] at h
    obtain rfl : program = [] := List.eq_nil_of_length_eq_zero (by omega)
    exact ⟨rfl, hlength, hzero⟩
  · rintro ⟨rfl, hlength, hzero⟩
    exact ⟨bits, hlength, hzero, rfl⟩

/-- Eight bits at the front are the first byte. -/
theorem packs_low_append_iff (byte : UInt8) (bits : List Bool) (program : List UInt8) :
    Packs (Bits.low 8 byte.toNat ++ bits) program ↔
      ∃ rest, program = byte :: rest ∧ Packs bits rest := by
  constructor
  · rintro ⟨padding, hlength, hzero, hbits⟩
    cases program with
    | nil =>
        have htotal := congrArg List.length hbits
        rw [List.length_append, Bits.length_low, List.length_append, length_byteBits] at htotal
        simp only [List.length_nil] at htotal
        omega
    | cons first rest =>
        rw [byteBits, List.flatMap_cons, List.append_assoc] at hbits
        obtain ⟨hfirst, hrest⟩ := List.append_inj hbits (by simp)
        have hbyte : byte = first :=
          UInt8.toNat_inj.mp (Bits.eq_of_low_eq byte.toNat_lt first.toNat_lt hfirst)
        exact ⟨rest, by rw [hbyte], padding, hlength, hzero, hrest⟩
  · rintro ⟨rest, rfl, padding, hlength, hzero, rfl⟩
    refine ⟨padding, hlength, hzero, ?_⟩
    rw [byteBits, byteBits, List.flatMap_cons, List.append_assoc]

/-- A witness program of a version, with the checksum that belongs to it. -/
structure SegwitAddress (readable : List Char) where
  version : Symbol
  symbols : List Symbol
  check : List Symbol
  program : List UInt8
  version_le : version.toNat ≤ 16
  carries : Carries symbols program
  program_length : 2 ≤ program.length ∧ program.length ≤ 40
  version_zero : version = 0 → program.length = 20 ∨ program.length = 32
  check_length : check.length = 6
  checked : (residueOf readable (version :: symbols ++ check)).bits = checkConstant version

namespace SegwitAddress

variable {readable : List Char}

def data (address : SegwitAddress readable) : List Char :=
  (address.version :: address.symbols ++ address.check).map character

/-- The address in lower case. -/
def text (address : SegwitAddress readable) : List Char := readable ++ '1' :: address.data

/-- The bounds on a program bound the address. -/
theorem length_data (address : SegwitAddress readable) :
    11 ≤ address.data.length ∧ address.data.length ≤ 71 := by
  obtain ⟨padding, hpadding, -, hbits⟩ := address.carries
  have hlength := congrArg List.length hbits
  rw [length_symbolBits, List.length_append, length_byteBits] at hlength
  have hprogram := address.program_length
  rw [data, List.length_map, List.length_append, List.length_cons, address.check_length]
  omega

end SegwitAddress

namespace SegwitAddress

/-- The data part has no separator in it. -/
theorem separator_notMem_data (address : SegwitAddress readable) : '1' ∉ address.data := by
  intro hmem
  obtain ⟨symbol, -, hsymbol⟩ := List.mem_map.mp hmem
  exact character_ne_separator symbol hsymbol

@[simp]
theorem map_toLower_data (address : SegwitAddress readable) :
    address.data.map Char.toLower = address.data := by
  rw [data, List.map_map]
  apply List.map_congr_left
  intro symbol _
  exact toLower_character symbol

end SegwitAddress

/-- A text that writes a segregated witness address, all in one case. -/
def IsSegwitAddress (readable text : List Char) : Prop :=
  ∃ address : SegwitAddress readable,
    text = address.text ∨ text = address.text.map Char.toUpper

/-- A text with no letter of the one or of the other case. -/
def SingleCase (text : List Char) : Prop :=
  text = text.map Char.toLower ∨ text = text.map Char.toUpper

theorem isSegwitAddress_iff {readable : List Char} (hreadable : readable.map Char.toLower = readable)
    (text : List Char) : IsSegwitAddress readable text ↔
      SingleCase text ∧ ∃ address : SegwitAddress readable,
        text.map Char.toLower = address.text := by
  have htext : ∀ address : SegwitAddress readable,
      address.text.map Char.toLower = address.text := by
    intro address
    rw [SegwitAddress.text, List.map_append, List.map_cons, hreadable, address.map_toLower_data]
    rfl
  have hfolded : ∀ letters : List Char,
      (letters.map Char.toUpper).map Char.toLower = letters.map Char.toLower := by
    intro letters
    rw [List.map_map]
    exact List.map_congr_left fun letter _ => Char.toLower_toUpper_eq_toLower letter
  have hraised : ∀ letters : List Char,
      (letters.map Char.toLower).map Char.toUpper = letters.map Char.toUpper := by
    intro letters
    rw [List.map_map]
    exact List.map_congr_left fun letter _ => Char.toUpper_toLower_eq_toUpper letter
  constructor
  · rintro ⟨address, rfl | rfl⟩
    · exact ⟨.inl (htext address).symm, address, htext address⟩
    · refine ⟨.inr ?_, address, ?_⟩
      · rw [← hraised (address.text.map Char.toUpper), hfolded, htext]
      · rw [hfolded, htext]
  · rintro ⟨hlower | hupper, address, haddress⟩
    · exact ⟨address, .inl (hlower.trans haddress)⟩
    · refine ⟨address, .inr ?_⟩
      rw [← haddress, hraised]
      exact hupper

end WorkGate.Library.Bech32
