/-
# Payout addresses on both sides (src/pool_offer/selection.rs, web/headless-pool-offer.ts)

The Authority and the client validate the same addresses by different arithmetic.  Their Base58
agrees on every text.  Their Bech32 comes apart on two kinds of text: those the Authority skips
characters of, and those the client lower-cases a Kelvin sign of.
-/

import WorkGate.Headless.Base58

namespace WorkGate.Headless

open WorkGate.Library Bech32

/-! ## Segregated witness data -/

theorem and_one_ne_zero (word : UInt32) : (word &&& 1 != 0) = (word &&& 1 == 1) := by
  have hbit : (word &&& 1).toNat = word.toNat % 2 := by
    rw [UInt32.toNat_and]
    exact Nat.and_two_pow_sub_one_eq_mod _ 1
  rw [Bool.eq_iff_iff, bne_iff_ne, beq_iff_eq, ne_eq, ← UInt32.toNat_inj, ← UInt32.toNat_inj, hbit]
  change ¬ word.toNat % 2 = 0 ↔ word.toNat % 2 = 1
  omega

theorem ofNat_eq_toUInt32 {value : ℕ} (h : value < 256) :
    UInt32.ofNat value = (UInt8.ofNat value).toUInt32 := by
  apply UInt32.toNat_inj.mp
  rw [UInt32.toNat_ofNat', UInt8.toNat_toUInt32, UInt8.toNat_ofNat', Nat.mod_eq_of_lt h,
    Nat.mod_eq_of_lt (by omega)]

theorem polymodRound_eq (checksum : UInt32) {value : ℕ} (h : value < 256) :
    polymodRound checksum value = bech32Step checksum (UInt8.ofNat value) := by
  simp only [polymodRound, bech32Step, ofNat_eq_toUInt32 h, and_one_ne_zero]
  rfl

theorem foldl_polymodRound (checksum : UInt32) (symbols : List Symbol) :
    (symbols.map BitVec.toNat).foldl polymodRound checksum =
      (octets symbols).foldl bech32Step checksum := by
  induction symbols generalizing checksum with
  | nil => rfl
  | cons symbol symbols ih =>
      rw [octets] at ih ⊢
      rw [List.map_cons, List.map_cons, List.foldl_cons, List.foldl_cons, ih,
        polymodRound_eq checksum (symbol.isLt.trans (by decide))]

/-- Both sides compute one checksum. -/
theorem bech32Polymod_eq (symbols : List Symbol) :
    bech32Polymod (bech32Hrp "bc" ++ symbols.map BitVec.toNat) =
      (WorkGate.bech32Polymod "bc" (octets symbols)).toNat := by
  have hletters : charCode 'b' = 98 ∧ charCode 'c' = 99 := by decide
  have hhrp : bech32Hrp "bc" = ([3, 3, 0, 2, 3] : List Symbol).map BitVec.toNat := by
    simp [bech32Hrp, hletters]
  have hbytes : asBytes "bc" = [98, 99] := rfl
  rw [bech32Polymod, hhrp, ← List.map_append, foldl_polymodRound, WorkGate.bech32Polymod, hbytes]
  rfl

/-- What the client pushes is the byte the Authority pushes. -/
theorem toNat_signedShiftRight (accumulator : UInt32) {count : ℕ} (h : count < 8) :
    (signedShiftRight accumulator count &&& maximum 8).toNat =
      (accumulator >>> UInt32.ofNat count).toUInt8.toNat := by
  have hmaximum : (maximum 8).toNat = 2 ^ 8 - 1 := by decide
  have hshift : (accumulator >>> UInt32.ofNat count).toNat = accumulator.toNat >>> count := by
    rw [UInt32.toNat_shiftRight, UInt32.toNat_ofNat', Nat.mod_eq_of_lt (by omega : count < 2 ^ 32),
      Nat.mod_eq_of_lt (by omega : count < 32)]
  rw [UInt32.toNat_and, hmaximum, Nat.and_two_pow_sub_one_eq_mod, UInt32.toNat_toUInt8, hshift]
  apply Nat.eq_of_testBit_eq
  intro index
  rw [Nat.testBit_mod_two_pow, Nat.testBit_mod_two_pow, Nat.testBit_shiftRight]
  by_cases hindex : index < 8
  · have hword : (signedShiftRight accumulator count).toNat.testBit index =
        (accumulator.toBitVec.sshiftRight (count % 32)).getLsbD index := rfl
    have hbit : accumulator.toNat.testBit (count + index) =
        accumulator.toBitVec.getLsbD (count + index) := rfl
    rw [hword, hbit, BitVec.getLsbD_sshiftRight, Nat.mod_eq_of_lt (by omega : count < 32)]
    have hinside : count + index < 32 := by omega
    have hnarrow : ¬ 32 ≤ index := by omega
    simp [hinside, hnarrow]
  · rw [decide_eq_false hindex, Bool.false_and, Bool.false_and]

/-- Below two bytes the inner loop runs once at most. -/
theorem flushBits_eight (accumulator : UInt32) {bitCount : ℕ} (h : bitCount < 16) :
    flushBits 8 accumulator bitCount =
      if bitCount ≥ 8 then
        ([(accumulator >>> UInt32.ofNat (bitCount - 8)).toUInt8.toNat], bitCount - 8)
      else ([], bitCount) := by
  rw [flushBits]
  by_cases hfull : 8 ≤ bitCount
  · have hrest : flushBits 8 accumulator (bitCount - 8) = ([], bitCount - 8) := by
      rw [flushBits, if_neg (by omega)]
    rw [if_pos ⟨by decide, hfull⟩, if_pos hfull, hrest,
      toNat_signedShiftRight accumulator (by omega)]
  · rw [if_neg (by omega), if_neg hfull]

/-- Both sides unpack one program. -/
theorem convertBits_eq (symbols : List Symbol) (accumulator : UInt32) {bits : ℕ} (h : bits < 8) :
    convertBits 5 8 accumulator bits (symbols.map BitVec.toNat) =
      (convertFiveToEightBits accumulator bits (octets symbols)).map
        (List.map UInt8.toNat) := by
  have hmaximum : maximum 8 = 0xff := by decide
  induction symbols generalizing accumulator bits with
  | nil =>
      rw [List.map_nil, octets, List.map_nil, convertBits, convertFiveToEightBits, hmaximum]
      split
      · rfl
      · rfl
  | cons symbol symbols ih =>
      have hsmall : (symbol.toNat >>> 5 != 0) = false := by
        rw [Nat.shiftRight_eq_div_pow, Nat.div_eq_of_lt symbol.isLt]
        rfl
      have hvalue := ofNat_eq_toUInt32 (symbol.isLt.trans (by decide))
      have hoctets : octets (symbol :: symbols) =
          UInt8.ofNat symbol.toNat :: octets symbols := rfl
      rw [hoctets, List.map_cons, convertBits, convertFiveToEightBits, hsmall,
        if_neg Bool.false_ne_true, hvalue]
      dsimp only
      rw [flushBits_eight _ (by omega : bits + 5 < 16)]
      by_cases hfull : bits + 5 ≥ 8
      · have hleft : bits + 5 - 8 = bits - 3 := by omega
        rw [if_pos hfull, if_pos hfull, hleft]
        dsimp only
        rw [ih _ (by omega : bits - 3 < 8)]
        rw [Option.map_map, Option.map_map]
        rfl
      · rw [if_neg hfull, if_neg hfull]
        dsimp only
        rw [ih _ (by omega : bits + 5 < 8), Option.map_map]
        rfl

/-- The client's checks after the separator, on symbols. -/
theorem validSegwitData_map_iff (version : Symbol) {symbols check : List Symbol}
    (hcheck : check.length = 6) :
    validSegwitData ((version :: symbols ++ check).map character) = true ↔
      (version.toNat ≤ 16 ∧
        (residueOf "bc".toList (version :: symbols ++ check)).bits = checkConstant version) ∧
      ∃ program, Carries symbols program ∧ (2 ≤ program.length ∧ program.length ≤ 40) ∧
        (version = 0 → program.length = 20 ∨ program.length = 32) := by
  have hlookup : ((version :: symbols ++ check).map character).mapM
      (fun written => bech32Charset.idxOf? written) =
      some ((version :: symbols ++ check).map BitVec.toNat) :=
    (mapM_idxOf?_eq_some_iff _ _).mpr ⟨_, rfl, rfl⟩
  have hlength : (version :: symbols ++ check).length = symbols.length + 7 := by
    rw [List.length_append, List.length_cons, hcheck]
  have hbody : (((version :: symbols ++ check).map BitVec.toNat).take
      (symbols.length + 7 - 6)).tail = symbols.map BitVec.toNat := by
    have hcount : symbols.length + 7 - 6 = symbols.length + 1 := rfl
    rw [hcount, List.map_append, List.map_cons, List.cons_append, List.take_succ_cons,
      List.tail_cons]
    exact List.take_left' (List.length_map _)
  have hhead : ((version :: symbols ++ check).map BitVec.toNat).headD 0 = version.toNat := rfl
  have hlong : ¬ symbols.length + 7 < 7 := by omega
  have hchecksum : bech32Polymod (bech32Hrp "bc" ++
      (version :: symbols ++ check).map BitVec.toNat) =
        (residueOf "bc".toList (version :: symbols ++ check)).bits.toNat := by
    rw [bech32Polymod_eq, toNat_bech32Polymod]
  have hconstant : (if (version.toNat == 0) = true then 1 else 0x2bc830a3) =
      (checkConstant version).toNat := by
    have hzero : version.toNat = 0 ↔ version = 0 := by
      rw [← BitVec.toNat_inj]
      rfl
    rw [checkConstant, apply_ite BitVec.toNat]
    simp only [beq_iff_eq, hzero]
    rfl
  rw [validSegwitData, hlookup]
  dsimp only
  rw [List.length_map, hlength, if_neg hlong, hhead, hchecksum, hconstant, hbody,
    convertBits_eq symbols 0 (by decide : 0 < 8)]
  by_cases hversion : version.toNat > 16
  · rw [if_pos hversion]
    have hlarge : ¬ version.toNat ≤ 16 := Nat.not_le.mpr hversion
    simp [hlarge]
  rw [if_neg hversion]
  by_cases hsum : (residueOf "bc".toList (version :: symbols ++ check)).bits =
      checkConstant version
  · have hsame : ¬ ((residueOf "bc".toList (version :: symbols ++ check)).bits.toNat !=
        (checkConstant version).toNat) = true := by
      rw [hsum]
      simp
    rw [if_neg hsame]
    have hconvert := convertFiveToEightBits_eq_some_iff symbols 0 (by decide : 0 < 8)
    have hzero : version.toNat = 0 ↔ version = 0 := by
      rw [← BitVec.toNat_inj]
      rfl
    have hrules : ∀ program : List UInt8,
        (if (decide ((program.map UInt8.toNat).length < 2) ||
            decide ((program.map UInt8.toNat).length > 40)) = true then false
          else version.toNat != 0 || (program.map UInt8.toNat).length == 20 ||
            (program.map UInt8.toNat).length == 32) = true ↔
          (2 ≤ program.length ∧ program.length ≤ 40) ∧
            (version = 0 → program.length = 20 ∨ program.length = 32) := by
      intro program
      rw [List.length_map]
      by_cases hbounds : 2 ≤ program.length ∧ program.length ≤ 40
      · have hinside : ¬ (decide (program.length < 2) || decide (program.length > 40)) = true := by
          simp only [Bool.or_eq_true, decide_eq_true_eq]
          omega
        rw [if_neg hinside]
        simp only [hbounds, Bool.or_eq_true, bne_iff_ne, ne_eq, hzero, beq_iff_eq, or_assoc,
          imp_iff_not_or, and_self, true_and]
      · have houtside : (decide (program.length < 2) || decide (program.length > 40)) = true := by
          simp only [Bool.or_eq_true, decide_eq_true_eq]
          omega
        rw [if_pos houtside]
        simp only [hbounds, Bool.false_eq_true, false_and]
    have hlow : version.toNat ≤ 16 := Nat.le_of_not_lt hversion
    cases hfound : convertFiveToEightBits 0 0 (octets symbols) with
    | none =>
        constructor
        · intro h
          cases h
        · rintro ⟨-, program, hcarries, -⟩
          have hsome := (hconvert program).mpr hcarries
          rw [hfound] at hsome
          cases hsome
    | some program =>
        constructor
        · intro h
          exact ⟨⟨hlow, hsum⟩, program, (hconvert program).mp hfound, (hrules program).mp h⟩
        · rintro ⟨-, other, hother, h⟩
          have hsome := (hconvert other).mpr hother
          rw [hfound, Option.some_inj] at hsome
          rw [← hsome] at h
          exact (hrules program).mpr h
  · have hdiffers : ((residueOf "bc".toList (version :: symbols ++ check)).bits.toNat !=
        (checkConstant version).toNat) = true := by
      rw [bne_iff_ne, ne_eq, BitVec.toNat_inj]
      exact hsum
    rw [if_pos hdiffers]
    constructor
    · intro h
      cases h
    · rintro ⟨⟨-, hchecked⟩, -⟩
      exact absurd hchecked hsum

/-- The client's checks after the separator accept the data parts of mainnet addresses. -/
theorem validSegwitData_iff (payload : List Char) : validSegwitData payload = true ↔
    ∃ address : SegwitAddress "bc".toList, payload = address.data := by
  rw [← validSegwitPayload_iff]
  cases hlookup : payload.mapM fun written => bech32Charset.idxOf? written with
  | none =>
      rw [validSegwitData, validSegwitPayload, hlookup]
      simp
  | some indexes =>
      obtain ⟨written, rfl, hindexes⟩ := (mapM_idxOf?_eq_some_iff payload indexes).mp hlookup
      rw [utf8ByteSize_written]
      by_cases hlong : 7 ≤ written.length
      · cases written with
        | nil => simp at hlong
        | cons version rest =>
            rw [List.length_cons] at hlong
            have hcheck : (rest.drop (rest.length - 6)).length = 6 := by
              rw [List.length_drop]
              omega
            have hparts : version :: rest =
                version :: rest.take (rest.length - 6) ++ rest.drop (rest.length - 6) := by
              rw [List.cons_append, List.take_append_drop]
            have hlength : 7 ≤ (version :: rest).length := by
              rw [List.length_cons]
              omega
            have hauthority := @validSegwitPayload_map_iff version
              (rest.take (rest.length - 6)) _ hcheck
            have hclient := @validSegwitData_map_iff version
              (rest.take (rest.length - 6)) _ hcheck
            rw [← hparts] at hauthority hclient
            rw [hclient, hauthority]
            exact (and_iff_right hlength).symm
      · have hshort : (indexes.length < 7) = True := by
          rw [hindexes, List.length_map]
          exact eq_true (Nat.lt_of_not_le hlong)
        rw [validSegwitData, hlookup]
        simp [hlong, hshort]

/-! ## Segregated witness texts -/

theorem splitLast_eq_none_iff (separator : Char) (text : List Char) :
    splitLast separator text = none ↔ separator ∉ text := by
  induction text with
  | nil => simp [splitLast]
  | cons letter letters ih =>
      rw [splitLast, List.mem_cons]
      cases hrest : splitLast separator letters with
      | none =>
          have habsent := ih.mp hrest
          by_cases hletter : letter = separator
          · simp [hletter]
          · simp [hletter, habsent, Ne.symm hletter]
      | some parts =>
          have hpresent : separator ∈ letters := by
            by_contra habsent
            rw [ih.mpr habsent] at hrest
            cases hrest
          simp [hpresent]

theorem splitLast_eq_some_iff (separator : Char) (text before after : List Char) :
    splitLast separator text = some (before, after) ↔
      text = before ++ separator :: after ∧ separator ∉ after := by
  induction text generalizing before with
  | nil => simp [splitLast]
  | cons letter letters ih =>
      rw [splitLast]
      cases hrest : splitLast separator letters with
      | none =>
          have habsent := (splitLast_eq_none_iff separator letters).mp hrest
          cases before with
          | nil =>
              by_cases hletter : letter = separator
              · rw [if_pos hletter, hletter]
                simp only [Option.some_inj, Prod.mk.injEq, true_and, List.nil_append,
                  List.cons.injEq]
                constructor
                · rintro rfl
                  exact ⟨rfl, habsent⟩
                · rintro ⟨rfl, -⟩
                  rfl
              · simp [hletter]
          | cons first before =>
              have hnever : letters ≠ before ++ separator :: after := by
                rintro rfl
                exact habsent (List.mem_append_right _ List.mem_cons_self)
              by_cases hletter : letter = separator
              · simp [hletter, hnever]
              · simp [hletter, hnever]
      | some parts =>
          obtain ⟨found, rest⟩ := parts
          cases before with
          | nil =>
              have hpresent : separator ∈ letters := by
                by_contra habsent
                rw [(splitLast_eq_none_iff separator letters).mpr habsent] at hrest
                cases hrest
              simp only [Option.some_inj, Prod.mk.injEq, reduceCtorEq, false_and, false_iff,
                List.nil_append, List.cons.injEq, not_and, not_not]
              rintro ⟨-, rfl⟩
              exact hpresent
          | cons first before =>
              have hletters := ih before
              rw [hrest, Option.some_inj, Prod.mk.injEq] at hletters
              simp only [Option.some_inj, Prod.mk.injEq, List.cons.injEq, List.cons_append]
              rw [and_assoc, hletters, and_assoc]

/-- Folding the case of a text keeps every character beyond ASCII. -/
theorem isPlain_of_toLower {letter : Char} (h : (plainLetter letter).toLower.toNat < 128) :
    CaseTable.IsPlain letter := by
  by_contra hother
  obtain ⟨hhigh, hne⟩ := not_or.mp hother
  have hupper : ¬ letter.isUpper = true := by
    intro hupper
    have hcode : letter.val.toNat ≤ 90 := by
      rw [Char.isUpper, decide_eq_true_eq] at hupper
      exact UInt32.le_iff_toNat_le.mp hupper.2
    exact hhigh (Nat.lt_of_le_of_lt hcode (by decide))
  rw [plainLetter_of_ne hne, Char.toLower_eq_of_not_isUpper hupper] at h
  exact hhigh h

/-- The client's checks, as what they say of the text. -/
theorem validSegwitMainnet_iff_lower (table : CaseTable) (address : String) :
    validSegwitMainnet table address = true ↔
      (address.toList = table.toLowerCase address.toList ∨
        address.toList = table.toUpperCase address.toList) ∧
        ∃ written : SegwitAddress "bc".toList,
          table.toLowerCase address.toList = written.text := by
  have hcase : (address.toList != table.toLowerCase address.toList &&
      address.toList != table.toUpperCase address.toList) = false ↔
        address.toList = table.toLowerCase address.toList ∨
          address.toList = table.toUpperCase address.toList := by
    rw [Bool.and_eq_false_iff, bne_eq_false_iff_eq, bne_eq_false_iff_eq]
  rw [validSegwitMainnet]
  by_cases hsingle : address.toList = table.toLowerCase address.toList ∨
      address.toList = table.toUpperCase address.toList
  · rw [hcase.mpr hsingle, if_neg Bool.false_ne_true, and_iff_right hsingle]
    cases hsplit : splitLast '1' (table.toLowerCase address.toList) with
    | none =>
        have habsent := (splitLast_eq_none_iff '1' _).mp hsplit
        constructor
        · intro h
          cases h
        · rintro ⟨written, hwritten⟩
          rw [hwritten] at habsent
          exact absurd (List.mem_append_right _ List.mem_cons_self) habsent
    | some parts =>
        obtain ⟨before, after⟩ := parts
        obtain ⟨htext, hafter⟩ := (splitLast_eq_some_iff '1' _ before after).mp hsplit
        dsimp only
        constructor
        · intro h
          by_cases hreadable : before = "bc".toList
          · rw [hreadable, bne_self_eq_false, if_neg Bool.false_ne_true, validSegwitData_iff] at h
            obtain ⟨written, hwritten⟩ := h
            refine ⟨written, ?_⟩
            rw [htext, hreadable, hwritten]
            rfl
          · rw [if_pos (bne_iff_ne.mpr hreadable)] at h
            cases h
        · rintro ⟨written, hwritten⟩
          have hparts := (splitLast_eq_some_iff '1' _ "bc".toList written.data).mpr
            ⟨hwritten, written.separator_notMem_data⟩
          rw [hsplit, Option.some_inj, Prod.mk.injEq] at hparts
          rw [hparts.1, bne_self_eq_false, if_neg Bool.false_ne_true, validSegwitData_iff]
          exact ⟨written, hparts.2⟩
  · have hmixed := mt hcase.mp hsingle
    rw [Bool.not_eq_false] at hmixed
    rw [if_pos hmixed]
    constructor
    · intro h
      cases h
    · rintro ⟨h, -⟩
      exact absurd h hsingle

/-- What the client accepts: the addresses of mainnet, once a Kelvin sign is read as the letter it
looks like. -/
theorem validSegwitMainnet_iff (table : CaseTable) (address : String) :
    validSegwitMainnet table address = true ↔
      IsSegwitAddress "bc".toList (address.toList.map plainLetter) := by
  have hlower : ∀ written : SegwitAddress "bc".toList,
      table.toLowerCase address.toList = written.text ↔
        (∀ letter ∈ address.toList, CaseTable.IsPlain letter) ∧
          (address.toList.map plainLetter).map Char.toLower = written.text := by
    intro written
    exact table.toLowerCase_eq_iff fun letter hletter => (ascii_text written letter hletter).1
  rw [validSegwitMainnet_iff_lower, isSegwitAddress_iff (by simp), SingleCase]
  constructor
  · rintro ⟨hsingle, written, hwritten⟩
    obtain ⟨hplain, hfolded⟩ := (hlower written).mp hwritten
    rw [table.eq_toLowerCase_iff hplain, table.eq_toUpperCase_iff hplain] at hsingle
    exact ⟨hsingle, written, hfolded⟩
  · rintro ⟨hsingle, written, hfolded⟩
    have hplain : ∀ letter ∈ address.toList, CaseTable.IsPlain letter := by
      intro letter hletter
      apply isPlain_of_toLower
      apply (ascii_text written _ _).1
      rw [← hfolded]
      exact List.mem_map_of_mem (List.mem_map_of_mem hletter)
    rw [table.eq_toLowerCase_iff hplain, table.eq_toUpperCase_iff hplain]
    exact ⟨hsingle, written, (hlower written).mpr ⟨hplain, hfolded⟩⟩

/-! ## Agreement -/

/-- The address of a Kelvin sign in place of a `K`: the sign is its own upper case, and its lower
case is a `k`. -/
def WritesKelvinSign (address : String) : Prop :=
  kelvinSign ∈ address.toList ∧ IsSegwitAddress "bc".toList (address.toList.map plainLetter)

theorem length_ofString {address : String}
    (h : ∀ character ∈ address.toList, character.toNat < 0x10000) :
    (CodeUnits.ofString address).length = address.toList.length := by
  rw [CodeUnits.ofString]
  generalize address.toList = characters at h
  induction characters with
  | nil => rfl
  | cons character characters ih =>
      rw [List.forall_mem_cons] at h
      rw [List.flatMap_cons, List.length_append, ih h.2, CodeUnits.ofChar, if_pos h.1,
        List.length_singleton, List.length_cons, Nat.add_comm]

theorem map_plainLetter_of_notMem {text : List Char} (h : kelvinSign ∉ text) :
    text.map plainLetter = text := by
  calc text.map plainLetter = text.map id := by
        apply List.map_congr_left
        intro letter hletter
        apply plainLetter_of_ne
        rintro rfl
        exact h hletter
    _ = text := List.map_id text

/-- Base58 texts never reach the checks that differ. -/
theorem head_of_lower {text : List Char} (h : (text.map Char.toLower).head? = some 'b') :
    ¬ (text.head? = some '1' ∨ text.head? = some '3') := by
  rw [List.head?_map] at h
  rintro (hhead | hhead)
  · rw [hhead] at h
    exact absurd h (by decide)
  · rw [hhead] at h
    exact absurd h (by decide)

theorem head_of_skipsCharacters {address : String} (h : SkipsCharacters address) :
    ¬ (address.toList.head? = some '1' ∨ address.toList.head? = some '3') := by
  obtain ⟨-, -, skipped, written, htext⟩ := h
  apply head_of_lower
  rw [htext]
  rfl

theorem head_of_isSegwitAddress {address : String}
    (h : IsSegwitAddress "bc".toList (address.toList.map plainLetter)) :
    ¬ (address.toList.head? = some '1' ∨ address.toList.head? = some '3') := by
  obtain ⟨-, written, htext⟩ := (isSegwitAddress_iff (by simp) _).mp h
  have hhead : ¬ ((address.toList.map plainLetter).head? = some '1' ∨
      (address.toList.map plainLetter).head? = some '3') := by
    apply head_of_lower
    rw [htext]
    rfl
  have hone : plainLetter '1' = '1' := by decide
  have hthree : plainLetter '3' = '3' := by decide
  rw [List.head?_map] at hhead
  rintro (hfirst | hfirst)
  · rw [hfirst, Option.map_some, hone] at hhead
    exact hhead (.inl rfl)
  · rw [hfirst, Option.map_some, hthree] at hhead
    exact hhead (.inr rfl)

variable {deps : Dependencies} {table : CaseTable} {address : String}

theorem authority_of_segwit
    (h : ¬ (address.toList.head? = some '1' ∨ address.toList.head? = some '3')) :
    WorkGate.validMainnetAddress deps address = WorkGate.validSegwitMainnet address := by
  rw [WorkGate.validMainnetAddress]
  split
  · next hhead => exact absurd (.inl hhead) h
  · next hhead => exact absurd (.inr hhead) h
  · rfl

theorem client_of_segwit
    (h : ¬ (address.toList.head? = some '1' ∨ address.toList.head? = some '3')) :
    validMainnetAddress deps table address =
      if decide ((CodeUnits.ofString address).length < 14) ||
        decide ((CodeUnits.ofString address).length > 90) then false
      else validSegwitMainnet table address := by
  rw [validMainnetAddress]
  split
  · rfl
  split
  · next hhead => exact absurd (.inl hhead) h
  · next hhead => exact absurd (.inr hhead) h
  · rfl

theorem authority_of_base58
    (h : address.toList.head? = some '1' ∨ address.toList.head? = some '3') :
    WorkGate.validMainnetAddress deps address = validBase58checkMainnet deps address := by
  rw [WorkGate.validMainnetAddress]
  rcases h with hhead | hhead
  · rw [hhead]
    rfl
  · rw [hhead]
    rfl

theorem client_of_base58
    (h : address.toList.head? = some '1' ∨ address.toList.head? = some '3') :
    validMainnetAddress deps table address =
      if decide ((CodeUnits.ofString address).length < 14) ||
        decide ((CodeUnits.ofString address).length > 90) then false
      else validBase58checkMainnet deps address := by
  rw [validMainnetAddress, ← validBase58CheckMainnet_eq]
  rcases h with hhead | hhead
  · rw [hhead]
    rfl
  · rw [hhead]
    rfl

/-- Without Base58 the client accepts the addresses it reads, whatever its limits on length. -/
theorem client_iff_segwit
    (h : ¬ (address.toList.head? = some '1' ∨ address.toList.head? = some '3')) :
    validMainnetAddress deps table address = true ↔
      IsSegwitAddress "bc".toList (address.toList.map plainLetter) := by
  rw [← validSegwitMainnet_iff table]
  have hlength : validSegwitMainnet table address = true →
      ¬ (decide ((CodeUnits.ofString address).length < 14) ||
        decide ((CodeUnits.ofString address).length > 90)) = true := by
    intro haccepted
    have haddress := (validSegwitMainnet_iff table address).mp haccepted
    have hascii := ascii_of_isSegwitAddress haddress
    have hbounds := length_of_isSegwitAddress haddress
    have hunits : (CodeUnits.ofString address).length = address.toList.length := by
      apply length_ofString
      intro character hcharacter
      by_cases hkelvin : character = kelvinSign
      · rw [hkelvin]
        decide
      · have hlow := hascii _ (List.mem_map_of_mem hcharacter)
        rw [plainLetter_of_ne hkelvin] at hlow
        exact hlow.trans (by decide)
    rw [List.length_map, ← hunits] at hbounds
    simp only [Bool.or_eq_true, decide_eq_true_eq]
    omega
  rw [client_of_segwit h]
  constructor
  · intro haccepted
    split at haccepted
    · cases haccepted
    · exact haccepted
  · intro haccepted
    rw [if_neg (hlength haccepted)]
    exact haccepted

/-- On Base58 texts both sides agree, and the client's limits on length take nothing away. -/
theorem client_eq_authority_of_base58
    (h : address.toList.head? = some '1' ∨ address.toList.head? = some '3') :
    validMainnetAddress deps table address = WorkGate.validMainnetAddress deps address := by
  rw [authority_of_base58 h, client_of_base58 h]
  split
  · next hlength =>
      cases hvalid : validBase58checkMainnet deps address with
      | false => rfl
      | true =>
          obtain ⟨hascii, hshort, hlong⟩ := length_of_validBase58 hvalid
          have hunits := length_ofString fun character hcharacter =>
            (hascii character hcharacter).trans (by decide : 128 < 0x10000)
          rw [hunits, Bool.or_eq_true, decide_eq_true_eq, decide_eq_true_eq] at hlength
          omega
  · rfl

/-- Reading a Kelvin sign as a letter adds no separator. -/
theorem not_skipsCharacters_of_writesKelvinSign (h : WritesKelvinSign address) :
    ¬ SkipsCharacters address := by
  rintro ⟨-, -, skipped, other, hskipped⟩
  obtain ⟨-, written, hwritten⟩ := (isSegwitAddress_iff (by simp) _).mp h.2
  have hcount : ∀ letter : Char, (plainLetter letter).toLower = '1' ↔ letter.toLower = '1' := by
    intro letter
    by_cases hkelvin : letter = kelvinSign
    · rw [hkelvin]
      decide
    · rw [plainLetter_of_ne hkelvin]
  have hcounts : ((address.toList.map plainLetter).map Char.toLower).count '1' =
      (address.toList.map Char.toLower).count '1' := by
    rw [List.map_map, List.count_eq_countP, List.count_eq_countP, List.countP_map,
      List.countP_map]
    apply List.countP_congr
    intro letter _
    simp only [Function.comp_apply, beq_iff_eq]
    exact hcount letter
  have habsent : ∀ data : SegwitAddress "bc".toList, data.data.count '1' = 0 := by
    intro data
    exact List.count_eq_zero.mpr data.separator_notMem_data
  have hone : written.text.count '1' = 1 := by
    have hparts : written.text = ['b', 'c', '1'] ++ written.data := rfl
    rw [hparts, List.count_append, habsent]
    decide
  have hprefix : "bc1".toList.count '1' = 1 := by simp
  rw [hwritten, hone, hskipped, List.count_append, List.count_append, List.count_cons_self,
    habsent, hprefix] at hcounts
  omega

/-- The two validators agree on every text, but for those the Authority skips characters of and
those the client lower-cases a Kelvin sign of. -/
theorem validMainnetAddress_agrees_iff (deps : Dependencies) (table : CaseTable)
    (address : String) :
    (WorkGate.validMainnetAddress deps address = true ↔
      validMainnetAddress deps table address = true) ↔
        ¬ SkipsCharacters address ∧ ¬ WritesKelvinSign address := by
  by_cases hhead : address.toList.head? = some '1' ∨ address.toList.head? = some '3'
  · rw [client_eq_authority_of_base58 hhead]
    constructor
    · intro _
      exact ⟨fun hskips => head_of_skipsCharacters hskips hhead,
        fun hkelvin => head_of_isSegwitAddress hkelvin.2 hhead⟩
    · intro _
      exact Iff.rfl
  · rw [authority_of_segwit hhead, client_iff_segwit hhead, WorkGate.validSegwitMainnet_iff]
    have hexclusive := @not_skipsCharacters_of_isSegwitAddress address
    by_cases hkelvin : kelvinSign ∈ address.toList
    · have hforeign : ¬ IsSegwitAddress "bc".toList address.toList := by
        intro haddress
        exact absurd (ascii_of_isSegwitAddress haddress kelvinSign hkelvin) (by decide)
      have hwrites : WritesKelvinSign address ↔
          IsSegwitAddress "bc".toList (address.toList.map plainLetter) := and_iff_right hkelvin
      have hskips := @not_skipsCharacters_of_writesKelvinSign address
      tauto
    · have hwrites : ¬ WritesKelvinSign address := fun h => hkelvin h.1
      rw [map_plainLetter_of_notMem hkelvin]
      tauto

/-- Of the database only ASCII and the Kelvin sign, every other character being left alone. -/
def asciiCaseTable : CaseTable where
  lower letter := if letter = kelvinSign then ['k'] else [letter.toLower]
  upper letter := [letter.toUpper]
  isCased letter := letter.isAlpha
  isCaseIgnorable _ := false
  lower_ascii := by
    intro letter hlow
    apply if_neg
    rintro rfl
    exact absurd hlow (by decide)
  upper_ascii := fun _ _ => rfl
  lower_kelvinSign := if_pos rfl
  upper_kelvinSign := by decide
  lower_other := by
    intro letter hhigh hne
    refine ⟨letter.toLower, ?_, ?_⟩
    · rw [if_neg hne]
      exact List.mem_singleton_self _
    · by_contra hlow
      have hplain := isPlain_of_toLower
        (by rw [plainLetter_of_ne hne]; exact Nat.lt_of_not_le hlow)
      rcases hplain with hascii | hkelvin
      · omega
      · exact hne hkelvin

/-- The Authority accepts a doubled separator the client rejects, the client a Kelvin sign the
Authority rejects. -/
theorem addresses_disagree :
    (WorkGate.validMainnetAddress (.ofTables [] [] [])
        "bc11qw508d6qejxtdg4y5r3zarvary0c5xw7kv8f3t4" = true ∧
      validMainnetAddress (.ofTables [] [] []) asciiCaseTable
        "bc11qw508d6qejxtdg4y5r3zarvary0c5xw7kv8f3t4" = false) ∧
    (WorkGate.validMainnetAddress (.ofTables [] [] [])
        "BC1QW508D6QEJXTDG4Y5R3ZARVARY0C5XW7\u212AV8F3T4" = false ∧
      validMainnetAddress (.ofTables [] [] []) asciiCaseTable
        "BC1QW508D6QEJXTDG4Y5R3ZARVARY0C5XW7\u212AV8F3T4" = true) := by
  decide +kernel

end WorkGate.Headless
