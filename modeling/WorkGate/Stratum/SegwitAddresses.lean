/-
# Segregated witness addresses (src/pool_offer/selection.rs)

`valid_segwit_mainnet` checks an address in one pass over its characters, its checksum in one
32-bit word and its program in another.  Over the address format this says which texts it
accepts: the addresses of Bitcoin mainnet, and the texts that become one when what stands
between `bc1` and the last `1` is left out.
-/

import WorkGate.Library.Ascii
import WorkGate.Library.Bech32
import WorkGate.Stratum.PoolSelections

namespace WorkGate

open WorkGate.Library Bech32

/-! ## The checksum -/

/-- The generators taken in do not depend on the word they are taken into. -/
theorem foldl_generators (top next : UInt32) (generators : List (UInt32 × ℕ)) :
    generators.foldl (fun next (generator, index) =>
      if (top >>> UInt32.ofNat index) &&& 1 == 1 then next ^^^ generator else next) next =
    next ^^^ generators.foldl (fun next (generator, index) =>
      if (top >>> UInt32.ofNat index) &&& 1 == 1 then next ^^^ generator else next) 0 := by
  induction generators generalizing next with
  | nil => exact UInt32.xor_zero.symm
  | cons head generators ih =>
      rw [List.foldl_cons, List.foldl_cons, ih]
      nth_rewrite 2 [ih]
      rw [← UInt32.xor_assoc]
      congr 1
      dsimp only
      split
      · rw [UInt32.zero_xor]
      · rw [UInt32.xor_zero]

/-- The generators of the set bits of a symbol make its multiple of the generator polynomial. -/
theorem toNat_foldl_generators (symbol : Symbol) :
    (bech32Generators.zipIdx.foldl (fun next ((generator, index) : UInt32 × ℕ) =>
      if (UInt32.ofNat symbol.toNat >>> UInt32.ofNat index) &&& 1 == 1 then next ^^^ generator
      else next) 0).toNat = (Residue.multiple symbol).bits.toNat := by
  revert symbol
  decide +kernel

/-- One round of the loop is one step of the residue. -/
theorem toNat_bech32Step {checksum : UInt32} {value : UInt8} {residue : Residue} {symbol : Symbol}
    (hchecksum : checksum.toNat = residue.bits.toNat) (hvalue : value.toNat = symbol.toNat) :
    (bech32Step checksum value).toNat = (residue.step symbol).bits.toNat := by
  have htop : checksum >>> 25 = UInt32.ofNat residue.c5.toNat := by
    apply UInt32.toNat_inj.mp
    have hlt := residue.c5.isLt
    have hfits : residue.c5.toNat < 2 ^ 32 := hlt.trans (by decide)
    rw [UInt32.toNat_shiftRight, hchecksum, UInt32.toNat_ofNat', Nat.mod_eq_of_lt hfits]
    exact residue.toNat_bits_shiftRight
  have hmoved : (((checksum &&& 0x01ffffff) <<< 5) ^^^ value.toUInt32).toNat =
      residue.bits.toNat % 2 ^ 25 * 2 ^ 5 + symbol.toNat := by
    have hlt := symbol.isLt
    have hmask : (checksum &&& 0x01ffffff).toNat = residue.bits.toNat % 2 ^ 25 := by
      rw [UInt32.toNat_and, hchecksum]
      exact Nat.and_two_pow_sub_one_eq_mod _ 25
    have hshift : (residue.bits.toNat % 2 ^ 25) <<< 5 % 2 ^ 32 =
        2 ^ 5 * (residue.bits.toNat % 2 ^ 25) := by
      rw [Nat.shiftLeft_eq]
      omega
    rw [UInt32.toNat_xor, UInt32.toNat_shiftLeft, hmask, UInt8.toNat_toUInt32, hvalue]
    calc _ = (2 ^ 5 * (residue.bits.toNat % 2 ^ 25)) ^^^ symbol.toNat :=
          congrArg (· ^^^ symbol.toNat) hshift
      _ = 2 ^ 5 * (residue.bits.toNat % 2 ^ 25) + symbol.toNat := Bits.xor_eq_add hlt _
      _ = residue.bits.toNat % 2 ^ 25 * 2 ^ 5 + symbol.toNat := by rw [Nat.mul_comm]
  rw [bech32Step, foldl_generators, UInt32.toNat_xor, hmoved, htop, toNat_foldl_generators,
    Residue.toNat_bits_step]

/-- Symbols as the octets the source keeps them in. -/
def octets (symbols : List Symbol) : List UInt8 :=
  symbols.map fun symbol => UInt8.ofNat symbol.toNat

theorem toNat_ofNat_symbol (symbol : Symbol) : (UInt8.ofNat symbol.toNat).toNat = symbol.toNat := by
  rw [UInt8.toNat_ofNat']
  exact Nat.mod_eq_of_lt (symbol.isLt.trans (by decide))

theorem toNat_foldl_bech32Step {checksum : UInt32} {residue : Residue}
    (hchecksum : checksum.toNat = residue.bits.toNat) (symbols : List Symbol) :
    ((octets symbols).foldl bech32Step checksum).toNat =
      (symbols.foldl Residue.step residue).bits.toNat := by
  induction symbols generalizing checksum residue with
  | nil => exact hchecksum
  | cons symbol symbols ih => exact ih (toNat_bech32Step hchecksum (toNat_ofNat_symbol symbol))

/-- `bech32_polymod` computes the residue of an address on Bitcoin mainnet. -/
theorem toNat_bech32Polymod (symbols : List Symbol) :
    (bech32Polymod "bc" (octets symbols)).toNat =
      (residueOf "bc".toList symbols).bits.toNat := by
  have hbytes : asBytes "bc" = [98, 99] := rfl
  have hexpanded : expand "bc".toList = [3, 3, 0, 2, 3] := by simp [expand]
  have hstart : (1 : UInt32).toNat = (⟨0, 0, 0, 0, 0, 1⟩ : Residue).bits.toNat := by decide
  have hrun := toNat_foldl_bech32Step hstart (expand "bc".toList ++ symbols)
  rw [residueOf, ← hrun, bech32Polymod, hbytes, hexpanded]
  rfl

/-! ## The program -/

/-- A symbol read into the word comes after the bits held back in it. -/
theorem low_readSymbol (accumulator : UInt32) (symbol : Symbol) {bits : ℕ} (hbits : bits < 8) :
    Bits.low (bits + 5) ((accumulator <<< 5) ||| (UInt8.ofNat symbol.toNat).toUInt32).toNat =
      Bits.low bits accumulator.toNat ++ Bits.low 5 symbol.toNat := by
  apply Bits.low_append symbol.isLt
  intro index hindex
  have hsmall : index < 32 := by omega
  have hshift : (accumulator <<< 5).toNat = (2 ^ 5 * accumulator.toNat) % 2 ^ 32 := by
    rw [UInt32.toNat_shiftLeft, Nat.mul_comm, ← Nat.shiftLeft_eq]
    rfl
  rw [UInt32.toNat_or, hshift, UInt8.toNat_toUInt32, toNat_ofNat_symbol, Nat.testBit_or,
    Nat.testBit_mod_two_pow, decide_eq_true hsmall, Bool.true_and, ← Nat.testBit_or,
    Nat.two_pow_add_eq_or_of_lt symbol.isLt]

/-- The byte the source pushes is the eight bits above those it holds back. -/
theorem low_pushedByte (accumulator : UInt32) {bits : ℕ} (hbits : bits < 8) :
    Bits.low (8 + bits) accumulator.toNat =
      Bits.low 8 (accumulator >>> UInt32.ofNat bits).toUInt8.toNat ++
        Bits.low bits accumulator.toNat := by
  rw [Bits.low_add]
  congr 1
  apply Bits.low_congr
  intro index hindex
  have hshift : (accumulator >>> UInt32.ofNat bits).toNat = accumulator.toNat >>> bits := by
    rw [UInt32.toNat_shiftRight, UInt32.toNat_ofNat', Nat.mod_eq_of_lt (by omega : bits < 2 ^ 32),
      Nat.mod_eq_of_lt (by omega : bits < 32)]
  rw [UInt32.toNat_toUInt8, hshift, Nat.testBit_mod_two_pow, decide_eq_true hindex, Bool.true_and]

/-- The last check of the source: what is held back fills no symbol and is clear. -/
theorem heldBack_iff (accumulator : UInt32) {bits : ℕ} (hbits : bits < 8) :
    (decide (bits ≥ 5) || (accumulator <<< UInt32.ofNat (8 - bits)) &&& 0xff != 0) = false ↔
      bits < 5 ∧ ∀ bit ∈ Bits.low bits accumulator.toNat, bit = false := by
  have hmask : (accumulator <<< UInt32.ofNat (8 - bits)) &&& 0xff = 0 ↔
      accumulator.toNat % 2 ^ bits = 0 := by
    rw [← UInt32.toNat_inj, UInt32.toNat_and, UInt32.toNat_shiftLeft, UInt32.toNat_ofNat',
      Nat.mod_eq_of_lt (by omega : 8 - bits < 2 ^ 32), Nat.mod_eq_of_lt (by omega : 8 - bits < 32)]
    have height : (2 : ℕ) ^ 8 = 2 ^ bits * 2 ^ (8 - bits) := by
      rw [← Nat.pow_add, Nat.add_sub_cancel' hbits.le]
    have hlow : (accumulator.toNat <<< (8 - bits) % 2 ^ 32) &&& (0xff : UInt32).toNat =
        accumulator.toNat % 2 ^ bits * 2 ^ (8 - bits) := by
      calc _ = accumulator.toNat <<< (8 - bits) % 2 ^ 32 % 2 ^ 8 :=
            Nat.and_two_pow_sub_one_eq_mod _ 8
        _ = accumulator.toNat <<< (8 - bits) % 2 ^ 8 := by
            rw [Nat.mod_mod_of_dvd _ (by decide : 2 ^ 8 ∣ 2 ^ 32)]
        _ = accumulator.toNat % 2 ^ bits * 2 ^ (8 - bits) := by
            rw [Nat.shiftLeft_eq, height, Nat.mul_mod_mul_right]
    rw [hlow, UInt32.toNat_zero, Nat.mul_eq_zero]
    simp
  rw [Bool.or_eq_false_iff, decide_eq_false_iff_not, Nat.not_le, bne_eq_false_iff_eq, hmask,
    Bits.forall_low_eq_false_iff]

/-- The loop unpacks the bits it holds back and those of the symbols ahead of it. -/
theorem convertFiveToEightBits_eq_some_iff (symbols : List Symbol) (accumulator : UInt32)
    {bits : ℕ} (hbits : bits < 8) (program : List UInt8) :
    convertFiveToEightBits accumulator bits (octets symbols) = some program ↔
      Packs (Bits.low bits accumulator.toNat ++ symbolBits symbols) program := by
  induction symbols generalizing accumulator bits program with
  | nil =>
      have hlength : (Bits.low bits accumulator.toNat).length = bits := Bits.length_low _ _
      rw [symbolBits, List.flatMap_nil, List.append_nil,
        packs_iff_of_length_lt (hlength.trans_lt hbits), hlength, ← heldBack_iff _ hbits, octets,
        List.map_nil, convertFiveToEightBits]
      by_cases hheld : (decide (bits ≥ 5) ||
          (accumulator <<< UInt32.ofNat (8 - bits)) &&& 0xff != 0) = true
      · simp [hheld]
      · simp [hheld, eq_comm]
  | cons symbol symbols ih =>
      have hread := low_readSymbol accumulator symbol hbits
      have hbitsOf : symbolBits (symbol :: symbols) =
          Bits.low 5 symbol.toNat ++ symbolBits symbols := rfl
      rw [hbitsOf, ← List.append_assoc, ← hread, octets, List.map_cons, ← octets,
        convertFiveToEightBits]
      split
      · next hfull =>
          have hrest : bits - 3 < 8 := by omega
          have hsum : bits + 5 = 8 + (bits - 3) := by omega
          rw [hsum, low_pushedByte _ hrest, List.append_assoc, packs_low_append_iff,
            Option.map_eq_some_iff]
          simp only [ih _ hrest]
          constructor
          · rintro ⟨rest, hpacks, rfl⟩
            exact ⟨rest, rfl, hpacks⟩
          · rintro ⟨rest, rfl, hpacks⟩
            exact ⟨rest, hpacks, rfl⟩
      · next hshort => exact ih _ (by omega) program

/-! ## Addresses -/

theorem ofNat_symbol_eq_zero_iff (version : Symbol) :
    UInt8.ofNat version.toNat = 0 ↔ version = 0 := by
  rw [← UInt8.toNat_inj, toNat_ofNat_symbol, ← BitVec.toNat_inj]
  rfl

/-- The source's test of version and checksum. -/
theorem checksumTest_iff (version : Symbol) (symbols : List Symbol) :
    (decide (UInt8.ofNat version.toNat > 16) ||
        (UInt8.ofNat version.toNat == 0 && bech32Polymod "bc" (octets symbols) != 1) ||
        (decide (UInt8.ofNat version.toNat > 0) &&
          bech32Polymod "bc" (octets symbols) != 0x2bc830a3)) = false ↔
      version.toNat ≤ 16 ∧ (residueOf "bc".toList symbols).bits = checkConstant version := by
  have hchecksum : ∀ constant : UInt32, bech32Polymod "bc" (octets symbols) = constant ↔
      (residueOf "bc".toList symbols).bits.toNat = constant.toNat := by
    intro constant
    rw [← UInt32.toNat_inj, toNat_bech32Polymod]
  have hversion := ofNat_symbol_eq_zero_iff version
  have hlarge : UInt8.ofNat version.toNat > 16 ↔ 16 < version.toNat := by
    rw [gt_iff_lt, UInt8.lt_iff_toNat_lt, toNat_ofNat_symbol]
    rfl
  have hpositive : UInt8.ofNat version.toNat > 0 ↔ version ≠ 0 := by
    rw [gt_iff_lt, UInt8.pos_iff_ne_zero, ne_eq, hversion]
  simp only [Bool.or_eq_false_iff, decide_eq_false_iff_not, Bool.and_eq_false_iff,
    beq_eq_false_iff_ne, bne_eq_false_iff_eq, hlarge, hpositive, hchecksum, ne_eq, hversion,
    Nat.not_lt, ← BitVec.toNat_inj, checkConstant]
  by_cases hzero : version.toNat = 0
  · simp [hzero]
  · simp [hzero]

/-- The checks after the separator, on symbols. -/
theorem validSegwitPayload_map_iff (version : Symbol) {symbols check : List Symbol}
    (hcheck : check.length = 6) :
    validSegwitPayload ((version :: symbols ++ check).map character) = true ↔
      (version.toNat ≤ 16 ∧
        (residueOf "bc".toList (version :: symbols ++ check)).bits = checkConstant version) ∧
      ∃ program, Carries symbols program ∧ (2 ≤ program.length ∧ program.length ≤ 40) ∧
        (version = 0 → program.length = 20 ∨ program.length = 32) := by
  have hlookup : ((version :: symbols ++ check).map character).mapM
      (fun written => bech32Charset.idxOf? written) =
      some ((version :: symbols ++ check).map BitVec.toNat) :=
    (mapM_idxOf?_eq_some_iff _ _).mpr ⟨_, rfl, rfl⟩
  have hvalues : ((version :: symbols ++ check).map BitVec.toNat).map UInt8.ofNat =
      octets (version :: symbols ++ check) := List.map_map
  have hbody : (octets (version :: symbols ++ check)).tail.take
      ((octets (version :: symbols ++ check)).length - 7) = octets symbols := by
    have hlength : (octets (version :: symbols ++ check)).length - 7 = (octets symbols).length := by
      simp only [octets, List.length_map, List.length_append, List.length_cons, hcheck]
      omega
    rw [hlength]
    exact (congrArg (List.take _) List.map_append).trans List.take_left
  have hhead : (octets (version :: symbols ++ check)).headD 0 = UInt8.ofNat version.toNat := rfl
  rw [validSegwitPayload, hlookup]
  dsimp only
  rw [hvalues, hbody, hhead, ← checksumTest_iff]
  by_cases htest : (decide (UInt8.ofNat version.toNat > 16) ||
      (UInt8.ofNat version.toNat == 0 &&
        bech32Polymod "bc" (octets (version :: symbols ++ check)) != 1) ||
      (decide (UInt8.ofNat version.toNat > 0) &&
        bech32Polymod "bc" (octets (version :: symbols ++ check)) != 0x2bc830a3)) = true
  · rw [if_pos htest, htest]
    simp
  · rw [if_neg htest]
    rw [Bool.not_eq_true] at htest
    simp only [htest, true_and]
    have hconvert := convertFiveToEightBits_eq_some_iff symbols 0 (by decide : 0 < 8)
    have hversion := ofNat_symbol_eq_zero_iff version
    have hrules : ∀ program : List UInt8,
        (decide (2 ≤ program.length ∧ program.length ≤ 40) &&
          (UInt8.ofNat version.toNat != 0 || program.length == 20 || program.length == 32)) =
            true ↔
          (2 ≤ program.length ∧ program.length ≤ 40) ∧
            (version = 0 → program.length = 20 ∨ program.length = 32) := by
      intro program
      simp only [Bool.and_eq_true, decide_eq_true_eq, Bool.or_eq_true, bne_iff_ne, ne_eq,
        hversion, beq_iff_eq, or_assoc, imp_iff_not_or]
    cases hfound : convertFiveToEightBits 0 0 (octets symbols) with
    | none =>
        constructor
        · intro h
          cases h
        · rintro ⟨program, hcarries, -⟩
          have hsome := (hconvert program).mpr hcarries
          rw [hfound] at hsome
          cases hsome
    | some program =>
        constructor
        · intro h
          exact ⟨program, (hconvert program).mp hfound, (hrules program).mp h⟩
        · rintro ⟨other, hother, h⟩
          have hsome := (hconvert other).mpr hother
          rw [hfound, Option.some_inj] at hsome
          rw [← hsome] at h
          exact (hrules program).mpr h

theorem utf8ByteSize_written (symbols : List Symbol) :
    (String.ofList (symbols.map character)).utf8ByteSize = symbols.length := by
  rw [utf8ByteSize_of_ascii, String.toList_ofList, List.length_map]
  intro written hwritten
  rw [String.toList_ofList] at hwritten
  obtain ⟨symbol, -, rfl⟩ := List.mem_map.mp hwritten
  exact toNat_character_lt symbol

/-- The checks after the separator accept the data parts of mainnet addresses. -/
theorem validSegwitPayload_iff (payload : List Char) :
    (7 ≤ (String.ofList payload).utf8ByteSize ∧ validSegwitPayload payload = true) ↔
      ∃ address : SegwitAddress "bc".toList, payload = address.data := by
  constructor
  · rintro ⟨hsize, h⟩
    cases hlookup : payload.mapM fun written => bech32Charset.idxOf? written with
    | none =>
        rw [validSegwitPayload, hlookup] at h
        cases h
    | some indexes =>
        obtain ⟨written, rfl, -⟩ := (mapM_idxOf?_eq_some_iff payload indexes).mp hlookup
        rw [utf8ByteSize_written] at hsize
        cases written with
        | nil => simp at hsize
        | cons version rest =>
            rw [List.length_cons] at hsize
            have hcheck : (rest.drop (rest.length - 6)).length = 6 := by
              rw [List.length_drop]
              omega
            have hparts : version :: rest =
                version :: rest.take (rest.length - 6) ++ rest.drop (rest.length - 6) := by
              rw [List.cons_append, List.take_append_drop]
            rw [hparts] at h ⊢
            obtain ⟨⟨hversion, hchecked⟩, program, hcarries, hprogram, hzero⟩ :=
              (validSegwitPayload_map_iff version hcheck).mp h
            exact ⟨⟨version, _, _, program, hversion, hcarries, hprogram, hzero, hcheck,
              hchecked⟩, rfl⟩
  · rintro ⟨address, rfl⟩
    constructor
    · have hlength := address.length_data.1
      rw [SegwitAddress.data, List.length_map] at hlength
      rw [SegwitAddress.data, utf8ByteSize_written]
      omega
    · apply (validSegwitPayload_map_iff address.version address.check_length).mpr
      exact ⟨⟨address.version_le, address.checked⟩, address.program, address.carries,
        address.program_length, address.version_zero⟩

/-! ## Texts -/

/-- What `rfind` splits off is what follows the last separator. -/
theorem takeWhile_separator {data : List Char} (h : '1' ∉ data) (before : List Char) :
    ((before ++ '1' :: data).reverse.takeWhile (· != '1')).reverse = data := by
  have hall : ∀ written ∈ data.reverse, (written != '1') = true := by
    intro written hmem
    rw [bne_iff_ne]
    rintro rfl
    exact h (List.mem_reverse.mp hmem)
  rw [List.reverse_append, List.reverse_cons, List.append_assoc, List.takeWhile_append_of_pos hall]
  simp

/-- A text with a separator splits at the last one. -/
theorem exists_separator {text : List Char} (h : '1' ∈ text) :
    ∃ before, text = before ++ '1' :: (text.reverse.takeWhile (· != '1')).reverse := by
  induction text using List.reverseRecOn with
  | nil => cases h
  | append_singleton text last ih =>
      rw [List.reverse_append, List.reverse_singleton, List.singleton_append]
      by_cases hlast : last = '1'
      · rw [hlast, List.takeWhile_cons_of_neg (by simp)]
        exact ⟨text, rfl⟩
      · have hmem : '1' ∈ text := by
          rcases List.mem_append.mp h with hmem | hmem
          · exact hmem
          · exact absurd (List.mem_singleton.mp hmem).symm hlast
        obtain ⟨before, hbefore⟩ := ih hmem
        rw [List.takeWhile_cons_of_pos (by simpa using hlast), List.reverse_cons]
        refine ⟨before, ?_⟩
        rw [← List.cons_append, ← List.append_assoc, ← hbefore]

/-- The texts of one case that leave something between `bc1` and the last separator, and would
write an address without it. -/
def SkipsCharacters (value : String) : Prop :=
  value.utf8ByteSize ≤ 90 ∧ SingleCase value.toList ∧
    ∃ (skipped : List Char) (address : SegwitAddress "bc".toList),
      value.toList.map Char.toLower = "bc1".toList ++ skipped ++ '1' :: address.data

/-- The source's checks, as what they say of the text. -/
theorem validSegwitMainnet_iff_split (value : String) : validSegwitMainnet value = true ↔
    value.utf8ByteSize ≤ 90 ∧ SingleCase value.toList ∧
      "bc1".toList <+: value.toList.map Char.toLower ∧
        ∃ (before : List Char) (address : SegwitAddress "bc".toList),
          value.toList.map Char.toLower = before ++ '1' :: address.data := by
  have hcase : (value.toList != value.toList.map Char.toLower &&
      value.toList != value.toList.map Char.toUpper) = false ↔ SingleCase value.toList := by
    rw [Bool.and_eq_false_iff, bne_eq_false_iff_eq, bne_eq_false_iff_eq]
    rfl
  have hguard : (decide (value.utf8ByteSize > 90) ||
      (value.toList != value.toList.map Char.toLower &&
        value.toList != value.toList.map Char.toUpper) ||
      !"bc1".toList.isPrefixOf (value.toList.map Char.toLower)) = false ↔
        value.utf8ByteSize ≤ 90 ∧ SingleCase value.toList ∧
          "bc1".toList <+: value.toList.map Char.toLower := by
    rw [Bool.or_eq_false_iff, Bool.or_eq_false_iff, hcase, decide_eq_false_iff_not, Nat.not_lt,
      Bool.not_eq_false', List.isPrefixOf_iff_prefix, and_assoc]
  unfold validSegwitMainnet
  dsimp only
  by_cases hchecks : value.utf8ByteSize ≤ 90 ∧ SingleCase value.toList ∧
      "bc1".toList <+: value.toList.map Char.toLower
  · rw [hguard.mpr hchecks, if_neg Bool.false_ne_true]
    obtain ⟨hsize, hsingle, hprefix⟩ := hchecks
    have hseparator : '1' ∈ value.toList.map Char.toLower :=
      hprefix.subset (by simp)
    have hpayload : (if (String.ofList ((value.toList.map Char.toLower).reverse.takeWhile
        (· != '1')).reverse).utf8ByteSize < 7 then false
      else validSegwitPayload ((value.toList.map Char.toLower).reverse.takeWhile
        (· != '1')).reverse) = true ↔ ∃ address : SegwitAddress "bc".toList,
          ((value.toList.map Char.toLower).reverse.takeWhile (· != '1')).reverse =
            address.data := by
      rw [← validSegwitPayload_iff]
      split
      · next hshort => simp [Nat.not_le_of_lt hshort]
      · next hlong => simp [Nat.le_of_not_lt hlong]
    rw [hpayload]
    constructor
    · rintro ⟨address, haddress⟩
      obtain ⟨before, hbefore⟩ := exists_separator hseparator
      rw [haddress] at hbefore
      exact ⟨hsize, hsingle, hprefix, before, address, hbefore⟩
    · rintro ⟨-, -, -, before, address, hbefore⟩
      refine ⟨address, ?_⟩
      rw [hbefore]
      exact takeWhile_separator address.separator_notMem_data before
  · have hrejected := mt hguard.mp hchecks
    rw [Bool.not_eq_false] at hrejected
    rw [if_pos hrejected]
    constructor
    · intro h
      cases h
    · rintro ⟨hsize, hsingle, hprefix, -⟩
      exact absurd ⟨hsize, hsingle, hprefix⟩ hchecks

/-- An address keeps nothing between `bc1` and its data part. -/
theorem not_skipsCharacters_of_isSegwitAddress {value : String}
    (h : IsSegwitAddress "bc".toList value.toList) : ¬ SkipsCharacters value := by
  rintro ⟨-, -, skipped, other, hskipped⟩
  obtain ⟨-, address, haddress⟩ := (isSegwitAddress_iff (by simp) value.toList).mp h
  have htext : "bc1".toList ++ address.data = "bc1".toList ++ (skipped ++ '1' :: other.data) := by
    rw [← List.append_assoc, ← hskipped, haddress]
    rfl
  have hmem : '1' ∈ address.data := by
    rw [List.append_cancel_left htext]
    exact List.mem_append_right skipped List.mem_cons_self
  exact address.separator_notMem_data hmem

/-- Addresses are ASCII texts in either case. -/
theorem ascii_text (address : SegwitAddress "bc".toList) :
    ∀ written ∈ address.text, written.toNat < 128 ∧ written.toUpper.toNat < 128 := by
  have hreadable : ∀ written ∈ ['b', 'c', '1'],
      written.toNat < 128 ∧ written.toUpper.toNat < 128 := by
    rw [List.forall_mem_cons, List.forall_mem_cons, List.forall_mem_singleton]
    decide
  have hparts : address.text = ['b', 'c', '1'] ++ address.data := rfl
  intro written hwritten
  rw [hparts] at hwritten
  rcases List.mem_append.mp hwritten with hmem | hmem
  · exact hreadable written hmem
  · obtain ⟨symbol, -, rfl⟩ := List.mem_map.mp hmem
    exact ⟨toNat_character_lt symbol, toNat_toUpper_character_lt symbol⟩

theorem length_text (address : SegwitAddress "bc".toList) :
    14 ≤ address.text.length ∧ address.text.length ≤ 74 := by
  have hlength : address.text.length = address.data.length + 3 := rfl
  have hdata := address.length_data
  omega

theorem ascii_of_isSegwitAddress {text : List Char} (h : IsSegwitAddress "bc".toList text) :
    ∀ written ∈ text, written.toNat < 128 := by
  intro written hwritten
  obtain ⟨address, rfl | rfl⟩ := h
  · exact (ascii_text address written hwritten).1
  · obtain ⟨folded, hfolded, rfl⟩ := List.mem_map.mp hwritten
    exact (ascii_text address folded hfolded).2

theorem length_of_isSegwitAddress {text : List Char} (h : IsSegwitAddress "bc".toList text) :
    14 ≤ text.length ∧ text.length ≤ 74 := by
  obtain ⟨address, rfl | rfl⟩ := h
  · exact length_text address
  · rw [List.length_map]
    exact length_text address

/-- Addresses are short enough for the source. -/
theorem utf8ByteSize_le_of_isSegwitAddress {value : String}
    (h : IsSegwitAddress "bc".toList value.toList) : value.utf8ByteSize ≤ 90 := by
  rw [utf8ByteSize_of_ascii (ascii_of_isSegwitAddress h)]
  exact (length_of_isSegwitAddress h).2.trans (by decide)

/-- What `valid_segwit_mainnet` accepts. -/
theorem validSegwitMainnet_iff (value : String) : validSegwitMainnet value = true ↔
    IsSegwitAddress "bc".toList value.toList ∨ SkipsCharacters value := by
  have haddress := @isSegwitAddress_iff "bc".toList (by simp) value.toList
  rw [validSegwitMainnet_iff_split]
  constructor
  · rintro ⟨hsize, hsingle, ⟨rest, hrest⟩, before, address, hbefore⟩
    have htext : 'b' :: 'c' :: '1' :: rest = before ++ '1' :: address.data :=
      hrest.trans hbefore
    -- the prefix ends at the last separator or goes on before it
    rcases before with _ | ⟨first, _ | ⟨second, _ | ⟨third, skipped⟩⟩⟩
    · simp at htext
    · simp at htext
    · left
      rw [haddress]
      refine ⟨hsingle, address, ?_⟩
      simp only [List.cons_append, List.nil_append, List.cons.injEq] at htext
      rw [hbefore, ← htext.1, ← htext.2.1]
      rfl
    · right
      refine ⟨hsize, hsingle, skipped, address, ?_⟩
      simp only [List.cons_append, List.cons.injEq] at htext
      rw [hbefore, ← htext.1, ← htext.2.1, ← htext.2.2.1]
      rfl
  · rintro (h | ⟨hsize, hsingle, skipped, address, htext⟩)
    · obtain ⟨hsingle, address, htext⟩ := haddress.mp h
      exact ⟨utf8ByteSize_le_of_isSegwitAddress h, hsingle, ⟨address.data, htext.symm⟩, _, address, htext⟩
    · refine ⟨hsize, hsingle, ⟨skipped ++ '1' :: address.data, ?_⟩, _, address, htext⟩
      rw [htext, List.append_assoc]

/-- The source accepts just the addresses of mainnet, but for the texts it skips characters
of. -/
theorem validSegwitMainnet_exact (value : String) :
    (validSegwitMainnet value = true ↔ IsSegwitAddress "bc".toList value.toList) ↔
      ¬ SkipsCharacters value := by
  have hexclusive := @not_skipsCharacters_of_isSegwitAddress value
  rw [validSegwitMainnet_iff]
  tauto

/-- A second separator, and the human-readable part is no longer `bc`. -/
theorem doubledSeparator_accepted :
    validSegwitMainnet "bc11qw508d6qejxtdg4y5r3zarvary0c5xw7kv8f3t4" = true ∧
      ¬ IsSegwitAddress "bc".toList "bc11qw508d6qejxtdg4y5r3zarvary0c5xw7kv8f3t4".toList := by
  constructor
  · decide +kernel
  · intro h
    obtain ⟨-, address, htext⟩ := (isSegwitAddress_iff (by simp) _).mp h
    have hparts : "bc1".toList ++ "1qw508d6qejxtdg4y5r3zarvary0c5xw7kv8f3t4".toList =
        "bc1".toList ++ address.data := htext
    have hdata := List.append_cancel_left hparts
    apply address.separator_notMem_data
    rw [← hdata]
    decide +kernel

end WorkGate
