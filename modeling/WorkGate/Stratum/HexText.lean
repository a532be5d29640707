/-
# Which texts `decode_hex` reads (src/stratum_v1/target.rs)

Hexadecimal text comes from the pool and from the Worker as it is.  It is cut into slices of two
bytes, each of which is parsed in radix sixteen.  Radix parsing also takes a plus sign before a
single digit, and a slice that ends inside a character does not exist.
-/

import WorkGate.Library.Ascii
import WorkGate.Stratum.Target

namespace WorkGate

open WorkGate.Library

/-! ## Hexadecimal text -/

/-- The value of an ASCII hexadecimal digit: its place among the sixteen. -/
def hexCharacterValue (character : Char) : Option ℕ :=
  ("0123456789abcdef".toList.idxOf? character).or ("0123456789ABCDEF".toList.idxOf? character)

/-- Digits two by two, and the bytes they write. -/
inductive HexText : List Char → List UInt8 → Prop
  | nil : HexText [] []
  | pair {high low : Char} {highValue lowValue : ℕ} {rest : List Char} {bytes : List UInt8} :
      hexCharacterValue high = some highValue → hexCharacterValue low = some lowValue →
      HexText rest bytes →
      HexText (high :: low :: rest) (UInt8.ofNat (16 * highValue + lowValue) :: bytes)

/-- No panic, and bytes exactly where the text writes them. -/
def DecodesStrictly (value : String) : Prop :=
  decodeHex value ≠ .error .panic ∧
    ∀ bytes, decodeHex value = .ok bytes ↔ value ≠ "" ∧ HexText value.toList bytes

/-! ## Pairs of bytes -/

def IsHexByte (byte : UInt8) : Prop := (hexDigitValue byte).isSome = true

/-- Two digits, or a plus sign and a digit. -/
def ReadsAsByte (pair : UInt8 × UInt8) : Prop :=
  (IsHexByte pair.1 ∨ pair.1 = 43) ∧ IsHexByte pair.2

/-- The bytes of the pairs, one pair after another. -/
def joinPairs : List (UInt8 × UInt8) → List UInt8
  | [] => []
  | (high, low) :: pairs => high :: low :: joinPairs pairs

/-- Every pair of the text is read, and one of them for its sign. -/
def ReadsSign (value : String) : Prop :=
  ∃ pairs, asBytes value = joinPairs pairs ∧ (∀ pair ∈ pairs, ReadsAsByte pair) ∧
    ∃ pair ∈ pairs, pair.1 = 43

/-- After pairs that are read comes one that ends inside a character, in a text of an even number
of bytes. -/
def CutsCharacter (value : String) : Prop :=
  (asBytes value).length % 2 = 0 ∧ ∃ pairs high low next rest,
    asBytes value = joinPairs pairs ++ high :: low :: next :: rest ∧
      (∀ pair ∈ pairs, ReadsAsByte pair) ∧ isContinuationByte next = true

theorem joinPairs_injective : Function.Injective joinPairs := by
  intro first second h
  induction first generalizing second with
  | nil =>
      cases second with
      | nil => rfl
      | cons pair pairs => cases h
  | cons pair pairs ih =>
      cases second with
      | nil => cases h
      | cons other others =>
          simp only [joinPairs, List.cons.injEq] at h
          rw [Prod.ext h.1 h.2.1, ih h.2.2]

/-- A hexadecimal digit is ASCII. -/
theorem IsHexByte.lt {byte : UInt8} (h : IsHexByte byte) : byte.toNat < 128 := by
  have hall : ∀ number < 256, (hexDigitValue (UInt8.ofNat number)).isSome = true → number < 128 := by
    decide +kernel
  have hbyte := hall byte.toNat byte.toNat_lt
  rw [UInt8.ofNat_toNat] at hbyte
  exact hbyte h

theorem not_isContinuationByte {byte : UInt8} (h : byte.toNat < 128) :
    isContinuationByte byte = false := by
  rw [isContinuationByte, Bool.and_eq_false_iff]
  left
  rw [decide_eq_false_iff_not, UInt8.le_iff_toNat_le]
  exact Nat.not_le.mpr h

theorem not_isHexByte_plus : ¬ IsHexByte 43 := by
  unfold IsHexByte
  decide

/-- Radix parsing reads exactly these pairs. -/
theorem isSome_hexPairValue_iff {high low : UInt8} :
    (hexPairValue high low).isSome = true ↔ ReadsAsByte (high, low) := by
  rw [hexPairValue, ReadsAsByte]
  by_cases hplus : high = 43
  · rw [if_pos hplus, Option.isSome_map]
    exact ⟨fun h => ⟨.inr hplus, h⟩, fun h => h.2⟩
  · rw [if_neg hplus]
    unfold IsHexByte
    cases hhigh : hexDigitValue high with
    | none => simp [hplus]
    | some highValue =>
        cases hlow : hexDigitValue low with
        | none => simp
        | some lowValue => simp

theorem ReadsAsByte.not_isContinuationByte {pair : UInt8 × UInt8} (h : ReadsAsByte pair) :
    isContinuationByte pair.1 = false := by
  apply WorkGate.not_isContinuationByte
  rcases h.1 with hdigit | hplus
  · exact hdigit.lt
  · rw [hplus]
    decide

/-! ## The loop -/

/-- The loop panics where, after pairs that are read, a slice ends inside a character. -/
theorem decodeHexPairs_eq_panic_iff {bytes : List UInt8} :
    decodeHexPairs bytes = .error .panic ↔ ∃ pairs high low next rest,
      bytes = joinPairs pairs ++ high :: low :: next :: rest ∧
        (∀ pair ∈ pairs, ReadsAsByte pair) ∧ isContinuationByte next = true := by
  fun_induction decodeHexPairs bytes with
  | case1 =>
      constructor
      · intro h
        cases h
      · rintro ⟨pairs, high, low, next, rest, h, -⟩
        cases pairs <;> cases h
  | case2 byte =>
      constructor
      · intro h
        cases h
      · rintro ⟨pairs, high, low, next, rest, h, -⟩
        cases pairs <;> cases h
  | case3 high low rest hsplit =>
      refine ⟨fun _ => ?_, fun _ => rfl⟩
      cases rest with
      | nil => cases hsplit
      | cons next rest => exact ⟨[], high, low, next, rest, rfl, by simp, hsplit⟩
  | case4 high low rest hwhole hnone =>
      constructor
      · intro h
        cases h
      · rintro ⟨pairs, first, second, next, tail, h, hpairs, hnext⟩
        cases pairs with
        | nil =>
            cases h
            exact absurd hnext hwhole
        | cons pair pairs =>
            cases h
            have hread := isSome_hexPairValue_iff.mpr (hpairs _ List.mem_cons_self)
            rw [hnone] at hread
            cases hread
  | case5 high low rest hwhole byte hbyte ih =>
      have hmap : (decodeHexPairs rest).map (byte :: ·) = .error .panic ↔
          decodeHexPairs rest = .error .panic := by
        cases decodeHexPairs rest with
        | error fault => exact Iff.rfl
        | ok tail =>
            constructor
            · intro h
              cases h
            · intro h
              cases h
      have hread : ReadsAsByte (high, low) := by
        apply isSome_hexPairValue_iff.mp
        rw [hbyte]
        rfl
      rw [hmap, ih]
      constructor
      · rintro ⟨pairs, first, second, next, tail, rfl, hpairs, hnext⟩
        exact ⟨(high, low) :: pairs, first, second, next, tail, rfl,
          List.forall_mem_cons.mpr ⟨hread, hpairs⟩, hnext⟩
      · rintro ⟨pairs, first, second, next, tail, h, hpairs, hnext⟩
        cases pairs with
        | nil =>
            cases h
            exact absurd hnext hwhole
        | cons pair pairs =>
            cases h
            exact ⟨pairs, first, second, next, tail, rfl, (List.forall_mem_cons.mp hpairs).2, hnext⟩

/-- The loop returns the values of the pairs where all are read. -/
theorem decodeHexPairs_eq_ok_iff {bytes decoded : List UInt8} :
    decodeHexPairs bytes = .ok decoded ↔ ∃ pairs, bytes = joinPairs pairs ∧
      pairs.mapM (fun pair => hexPairValue pair.1 pair.2) = some decoded := by
  fun_induction decodeHexPairs bytes generalizing decoded with
  | case1 =>
      constructor
      · intro h
        cases h
        exact ⟨[], rfl, rfl⟩
      · rintro ⟨pairs, h, hread⟩
        cases pairs with
        | nil =>
            cases hread
            rfl
        | cons pair pairs => cases h
  | case2 byte =>
      constructor
      · intro h
        cases h
      · rintro ⟨pairs, h, -⟩
        cases pairs with
        | nil => cases h
        | cons pair pairs => cases h
  | case3 high low rest hsplit =>
      constructor
      · intro h
        cases h
      · rintro ⟨pairs, h, hread⟩
        cases pairs with
        | nil => cases h
        | cons pair pairs =>
            cases h
            cases pairs with
            | nil => cases hsplit
            | cons other pairs =>
                rw [List.mapM_cons, List.mapM_cons] at hread
                obtain ⟨_, -, hread⟩ := Option.bind_eq_some_iff.mp hread
                obtain ⟨_, hread, -⟩ := Option.bind_eq_some_iff.mp hread
                obtain ⟨value, hvalue, -⟩ := Option.bind_eq_some_iff.mp hread
                have hother : ReadsAsByte other := by
                  apply isSome_hexPairValue_iff.mp
                  rw [hvalue]
                  rfl
                have hstart : isContinuationByte other.1 = true := hsplit
                rw [hother.not_isContinuationByte] at hstart
                cases hstart
  | case4 high low rest hwhole hnone =>
      constructor
      · intro h
        cases h
      · rintro ⟨pairs, h, hread⟩
        cases pairs with
        | nil => cases h
        | cons pair pairs =>
            cases h
            rw [List.mapM_cons] at hread
            obtain ⟨value, hvalue, -⟩ := Option.bind_eq_some_iff.mp hread
            rw [hnone] at hvalue
            cases hvalue
  | case5 high low rest hwhole byte hbyte ih =>
      constructor
      · intro h
        cases hrest : decodeHexPairs rest with
        | error fault =>
            rw [hrest] at h
            cases h
        | ok tail =>
            rw [hrest] at h
            cases h
            obtain ⟨pairs, rfl, hpairs⟩ := ih.mp hrest
            refine ⟨(high, low) :: pairs, rfl, ?_⟩
            rw [List.mapM_cons, hbyte, hpairs]
            rfl
      · rintro ⟨pairs, h, hread⟩
        cases pairs with
        | nil => cases h
        | cons pair pairs =>
            cases h
            rw [List.mapM_cons] at hread
            obtain ⟨value, hvalue, hread⟩ := Option.bind_eq_some_iff.mp hread
            obtain ⟨tail, htail, hread⟩ := Option.bind_eq_some_iff.mp hread
            rw [hbyte] at hvalue
            cases hvalue
            cases hread
            rw [ih.mpr ⟨pairs, rfl, htail⟩]
            rfl

/-! ## Characters and pairs -/

theorem hexCharacterValue_lt {character : Char} {value : ℕ}
    (h : hexCharacterValue character = some value) : character.toNat < 128 := by
  have hall : ∀ character ∈ "0123456789abcdef".toList ++ "0123456789ABCDEF".toList,
      character.toNat < 128 := forall_mem_of_all (by decide +kernel)
  apply hall
  rw [List.mem_append]
  rcases Option.or_eq_some_iff.mp h with hlower | ⟨-, hupper⟩
  · obtain ⟨hlt, hget, -⟩ := List.idxOf?_eq_some_iff.mp hlower
    exact .inl (hget ▸ List.getElem_mem hlt)
  · obtain ⟨hlt, hget, -⟩ := List.idxOf?_eq_some_iff.mp hupper
    exact .inr (hget ▸ List.getElem_mem hlt)

/-- A digit means the same as a byte and as a character. -/
theorem hexDigitValue_asciiByte {character : Char} (h : character.toNat < 128) :
    hexDigitValue (asciiByte character) = hexCharacterValue character := by
  have hall : ∀ number < 128, hexDigitValue (asciiByte (Char.ofNat number)) =
      hexCharacterValue (Char.ofNat number) := by decide +kernel
  have hcharacter := hall character.toNat h
  rwa [Char.ofNat_toNat] at hcharacter

theorem hexPairValue_of_digits {high low : UInt8} {highValue lowValue : ℕ}
    (hhigh : hexDigitValue high = some highValue) (hlow : hexDigitValue low = some lowValue) :
    hexPairValue high low = some (UInt8.ofNat (16 * highValue + lowValue)) := by
  have hplus : high ≠ 43 := by
    rintro rfl
    cases hhigh
  rw [hexPairValue, if_neg hplus, hhigh, hlow]
  rfl

theorem ascii_of_hexText {characters : List Char} {bytes : List UInt8}
    (h : HexText characters bytes) : ∀ character ∈ characters, character.toNat < 128 := by
  induction h with
  | nil => simp
  | pair hhigh hlow _ ih =>
      exact List.forall_mem_cons.mpr ⟨hexCharacterValue_lt hhigh,
        List.forall_mem_cons.mpr ⟨hexCharacterValue_lt hlow, ih⟩⟩

/-- A pair of digits, without a sign. -/
def IsDigitPair (pair : UInt8 × UInt8) : Prop := IsHexByte pair.1 ∧ IsHexByte pair.2

theorem pairs_of_hexText {characters : List Char} {bytes : List UInt8}
    (h : HexText characters bytes) : ∃ pairs, characters.map asciiByte = joinPairs pairs ∧
      (∀ pair ∈ pairs, IsDigitPair pair) ∧
      pairs.mapM (fun pair => hexPairValue pair.1 pair.2) = some bytes := by
  induction h with
  | nil => exact ⟨[], rfl, by simp, rfl⟩
  | @pair high low highValue lowValue rest bytes hhigh hlow _ ih =>
      obtain ⟨pairs, hjoined, hdigits, hread⟩ := ih
      have hfirst := hexDigitValue_asciiByte (hexCharacterValue_lt hhigh)
      have hsecond := hexDigitValue_asciiByte (hexCharacterValue_lt hlow)
      rw [hhigh] at hfirst
      rw [hlow] at hsecond
      refine ⟨(asciiByte high, asciiByte low) :: pairs, ?_, ?_, ?_⟩
      · rw [List.map_cons, List.map_cons, hjoined, joinPairs]
      · have hpair : IsDigitPair (asciiByte high, asciiByte low) := by
          refine ⟨?_, ?_⟩
          · rw [IsHexByte, hfirst]
            rfl
          · rw [IsHexByte, hsecond]
            rfl
        exact List.forall_mem_cons.mpr ⟨hpair, hdigits⟩
      · rw [List.mapM_cons, hexPairValue_of_digits hfirst hsecond, hread]
        rfl

theorem hexText_of_pairs {characters : List Char} {bytes : List UInt8}
    {pairs : List (UInt8 × UInt8)} (hascii : ∀ character ∈ characters, character.toNat < 128)
    (hjoined : characters.map asciiByte = joinPairs pairs)
    (hdigits : ∀ pair ∈ pairs, IsDigitPair pair)
    (hread : pairs.mapM (fun pair => hexPairValue pair.1 pair.2) = some bytes) :
    HexText characters bytes := by
  induction pairs generalizing characters bytes with
  | nil =>
      cases hread
      rw [List.map_eq_nil_iff.mp hjoined]
      exact .nil
  | cons pair pairs ih =>
      obtain ⟨high, tail, rfl, hhigh, hjoined⟩ := List.map_eq_cons_iff.mp hjoined
      obtain ⟨low, rest, rfl, hlow, hjoined⟩ := List.map_eq_cons_iff.mp hjoined
      obtain ⟨⟨hfirst, hsecond⟩, hdigits⟩ := List.forall_mem_cons.mp hdigits
      obtain ⟨hhighAscii, hascii⟩ := List.forall_mem_cons.mp hascii
      obtain ⟨hlowAscii, hascii⟩ := List.forall_mem_cons.mp hascii
      obtain ⟨highValue, hhighValue⟩ := Option.isSome_iff_exists.mp hfirst
      obtain ⟨lowValue, hlowValue⟩ := Option.isSome_iff_exists.mp hsecond
      rw [List.mapM_cons] at hread
      obtain ⟨byte, hbyte, hread⟩ := Option.bind_eq_some_iff.mp hread
      obtain ⟨decoded, hdecoded, hread⟩ := Option.bind_eq_some_iff.mp hread
      rw [hexPairValue_of_digits hhighValue hlowValue] at hbyte
      cases hbyte
      cases hread
      rw [← hhigh, hexDigitValue_asciiByte hhighAscii] at hhighValue
      rw [← hlow, hexDigitValue_asciiByte hlowAscii] at hlowValue
      exact .pair hhighValue hlowValue (ih hascii hjoined hdigits hdecoded)

theorem isHexByte_of_joinPairs {pairs : List (UInt8 × UInt8)}
    (h : ∀ pair ∈ pairs, IsDigitPair pair) : ∀ byte ∈ joinPairs pairs, IsHexByte byte := by
  induction pairs with
  | nil => simp [joinPairs]
  | cons pair pairs ih =>
      obtain ⟨hpair, hpairs⟩ := List.forall_mem_cons.mp h
      exact List.forall_mem_cons.mpr ⟨hpair.1, List.forall_mem_cons.mpr ⟨hpair.2, ih hpairs⟩⟩

/-- A text writes bytes where its own bytes are pairs of digits with these values. -/
theorem hexText_iff {value : String} {decoded : List UInt8} :
    HexText value.toList decoded ↔ ∃ pairs, asBytes value = joinPairs pairs ∧
      (∀ pair ∈ pairs, IsDigitPair pair) ∧
      pairs.mapM (fun pair => hexPairValue pair.1 pair.2) = some decoded := by
  constructor
  · intro h
    rw [asBytes_of_ascii (ascii_of_hexText h)]
    exact pairs_of_hexText h
  · rintro ⟨pairs, hjoined, hdigits, hread⟩
    have hbytes : ∀ byte ∈ asBytes value, (hexDigitValue byte).isSome = true := by
      rw [hjoined]
      exact isHexByte_of_joinPairs hdigits
    have hlow : ∀ byte, (hexDigitValue byte).isSome = true → byte.toNat < 128 :=
      fun byte hbyte => IsHexByte.lt hbyte
    have hascii : ∀ character ∈ value.toList, character.toNat < 128 := fun character hmem =>
      ((forall_mem_asBytes_iff hlow value).mp hbytes character hmem).1
    rw [asBytes_of_ascii hascii] at hjoined
    exact hexText_of_pairs hascii hjoined hdigits hread

/-! ## Where decoding is strict -/

theorem length_joinPairs (pairs : List (UInt8 × UInt8)) :
    (joinPairs pairs).length = 2 * pairs.length := by
  induction pairs with
  | nil => rfl
  | cons pair pairs ih =>
      rw [joinPairs, List.length_cons, List.length_cons, List.length_cons, ih]
      omega

/-- Decoding is the loop, on a text that has bytes and an even number of them. -/
theorem decodeHex_of_even {value : String} (hsome : value ≠ "")
    (heven : (asBytes value).length % 2 = 0) : decodeHex value = decodeHexPairs (asBytes value) := by
  have hempty : value.isEmpty = false := by
    rw [Bool.eq_false_iff]
    intro h
    exact hsome (String.isEmpty_iff.mp h)
  rw [decodeHex, hempty, Bool.false_or, if_neg (by simpa using heven)]

theorem even_of_decodeHex {value : String}
    (h : decodeHex value ≠ .error (.error .invalidFrame)) :
    value ≠ "" ∧ (asBytes value).length % 2 = 0 := by
  constructor
  · rintro rfl
    exact h rfl
  · by_contra hodd
    apply h
    have hlength : (decide ((asBytes value).length % 2 ≠ 0)) = true := decide_eq_true hodd
    rw [decodeHex, hlength, Bool.or_true, if_pos rfl]

theorem decodeHex_eq_panic_iff {value : String} :
    decodeHex value = .error .panic ↔ CutsCharacter value := by
  constructor
  · intro h
    have hproper : decodeHex value ≠ .error (.error .invalidFrame) := by
      rw [h]
      nofun
    obtain ⟨hsome, heven⟩ := even_of_decodeHex hproper
    rw [decodeHex_of_even hsome heven] at h
    exact ⟨heven, decodeHexPairs_eq_panic_iff.mp h⟩
  · rintro ⟨heven, hcut⟩
    have hsome : value ≠ "" := by
      rintro rfl
      obtain ⟨pairs, high, low, next, rest, hbytes, -⟩ := hcut
      cases pairs <;> cases hbytes
    rw [decodeHex_of_even hsome heven]
    exact decodeHexPairs_eq_panic_iff.mpr hcut

theorem decodeHex_eq_ok_iff {value : String} {decoded : List UInt8} :
    decodeHex value = .ok decoded ↔ value ≠ "" ∧ ∃ pairs, asBytes value = joinPairs pairs ∧
      pairs.mapM (fun pair => hexPairValue pair.1 pair.2) = some decoded := by
  constructor
  · intro h
    have hproper : decodeHex value ≠ .error (.error .invalidFrame) := by
      rw [h]
      nofun
    obtain ⟨hsome, heven⟩ := even_of_decodeHex hproper
    rw [decodeHex_of_even hsome heven] at h
    exact ⟨hsome, decodeHexPairs_eq_ok_iff.mp h⟩
  · rintro ⟨hsome, pairs, hjoined, hread⟩
    have heven : (asBytes value).length % 2 = 0 := by
      rw [hjoined, length_joinPairs]
      omega
    rw [decodeHex_of_even hsome heven]
    exact decodeHexPairs_eq_ok_iff.mpr ⟨pairs, hjoined, hread⟩

theorem readsAsByte_of_mapM {pairs : List (UInt8 × UInt8)} {decoded : List UInt8}
    (h : pairs.mapM (fun pair => hexPairValue pair.1 pair.2) = some decoded) :
    ∀ pair ∈ pairs, ReadsAsByte pair := by
  induction pairs generalizing decoded with
  | nil => simp
  | cons pair pairs ih =>
      rw [List.mapM_cons] at h
      obtain ⟨value, hvalue, h⟩ := Option.bind_eq_some_iff.mp h
      obtain ⟨rest, hrest, -⟩ := Option.bind_eq_some_iff.mp h
      refine List.forall_mem_cons.mpr ⟨?_, ih hrest⟩
      apply isSome_hexPairValue_iff.mp
      rw [hvalue]
      rfl

theorem exists_mapM_of_readsAsByte {pairs : List (UInt8 × UInt8)}
    (h : ∀ pair ∈ pairs, ReadsAsByte pair) :
    ∃ decoded, pairs.mapM (fun pair => hexPairValue pair.1 pair.2) = some decoded := by
  induction pairs with
  | nil => exact ⟨[], rfl⟩
  | cons pair pairs ih =>
      obtain ⟨hpair, hpairs⟩ := List.forall_mem_cons.mp h
      obtain ⟨value, hvalue⟩ := Option.isSome_iff_exists.mp (isSome_hexPairValue_iff.mpr hpair)
      obtain ⟨rest, hrest⟩ := ih hpairs
      refine ⟨value :: rest, ?_⟩
      rw [List.mapM_cons, hvalue, hrest]
      rfl

/-- Decoding is total and strict exactly on the texts that do not read a sign and do not cut a
character. -/
theorem decodesStrictly_iff (value : String) :
    DecodesStrictly value ↔ ¬ ReadsSign value ∧ ¬ CutsCharacter value := by
  constructor
  · rintro ⟨htotal, hstrict⟩
    refine ⟨?_, fun hcut => htotal (decodeHex_eq_panic_iff.mpr hcut)⟩
    rintro ⟨pairs, hjoined, hread, pair, hmem, hplus⟩
    obtain ⟨decoded, hdecoded⟩ := exists_mapM_of_readsAsByte hread
    have hsome : value ≠ "" := by
      rintro rfl
      cases pairs with
      | nil => cases hmem
      | cons pair pairs => cases hjoined
    have hok := decodeHex_eq_ok_iff.mpr ⟨hsome, pairs, hjoined, hdecoded⟩
    -- The same bytes would be pairs of digits, one of which is the plus sign.
    obtain ⟨others, hothers, hdigits, -⟩ := hexText_iff.mp ((hstrict decoded).mp hok).2
    rw [joinPairs_injective (hjoined.symm.trans hothers)] at hmem
    have hdigit := (hdigits pair hmem).1
    rw [hplus] at hdigit
    exact not_isHexByte_plus hdigit
  · rintro ⟨hsign, hcut⟩
    refine ⟨fun h => hcut (decodeHex_eq_panic_iff.mp h), fun decoded => ?_⟩
    rw [decodeHex_eq_ok_iff, hexText_iff]
    refine and_congr_right fun _ => exists_congr fun pairs => and_congr_right fun hjoined => ?_
    constructor
    · intro hdecoded
      have hread := readsAsByte_of_mapM hdecoded
      refine ⟨fun pair hmem => ⟨?_, (hread pair hmem).2⟩, hdecoded⟩
      refine (hread pair hmem).1.resolve_right fun hplus => ?_
      exact hsign ⟨pairs, hjoined, hread, pair, hmem, hplus⟩
    · exact fun h => h.2

theorem hexCharacterValue_of_hexText {first : Char} {rest : List Char} {bytes : List UInt8}
    (h : HexText (first :: rest) bytes) : ∃ value, hexCharacterValue first = some value := by
  cases h with
  | pair hhigh _ _ => exact ⟨_, hhigh⟩

/-- A plus sign is taken for a digit, and a slice through a two-byte character panics. -/
theorem decodeHex_not_strict : decodeHex "+f" = .ok [15] ∧
    decodeHex "0\u00e90" = .error .panic ∧ ¬ ∀ value, DecodesStrictly value := by
  have hsign : decodeHex "+f" = .ok [15] := by decide +kernel
  refine ⟨hsign, by decide +kernel, fun h => ?_⟩
  have htext : HexText ['+', 'f'] [15] := (((h "+f").2 [15]).mp hsign).2
  obtain ⟨value, hvalue⟩ := hexCharacterValue_of_hexText htext
  have hnone : hexCharacterValue '+' = none := by decide +kernel
  rw [hnone] at hvalue
  cases hvalue

end WorkGate
