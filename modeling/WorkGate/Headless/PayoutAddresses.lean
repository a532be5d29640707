/-
# Payout addresses in the client (web/headless-pool-offer.ts)

The client checks a payout address before it sends it.  It counts and slices code units, folds
case by the tables of Unicode, and has its numbers in 32-bit words or, for Base58, in one large
integer.  A text has no surrogate that stands alone here, and the client only cuts it beside a
`1`, so it is the list of its characters.
-/

import WorkGate.Library.CaseMapping
import WorkGate.Library.CodeUnits
import WorkGate.Stratum.SegwitAddresses

namespace WorkGate.Headless

open WorkGate.Library Bech32

/-! ## Base58Check -/

/-- The bytes of a number, put one after the other before those of `decoded`. -/
def unshiftBytes (numeric : ℕ) (decoded : List UInt8) : List UInt8 :=
  if 0 < numeric then unshiftBytes (numeric >>> 8) (UInt8.ofNat (numeric &&& 0xff) :: decoded)
  else decoded
termination_by numeric
decreasing_by
  rw [Nat.shiftRight_eq_div_pow]
  exact Nat.div_lt_self ‹_› (by decide)

/-- `validBase58CheckMainnet`. -/
def validBase58CheckMainnet (deps : Dependencies) (address : String) : Bool :=
  match address.toList.mapM fun character => base58Alphabet.idxOf? character with
  | none => false
  | some digits =>
    let numeric := digits.foldl (fun numeric digit => numeric * 58 + digit) 0
    let decoded := (address.toList.takeWhile (· == '1')).foldl (fun decoded _ => 0 :: decoded)
      (unshiftBytes numeric [])
    if decoded.length != 25 || (decoded.head? != some 0x00 && decoded.head? != some 0x05) then false
    else
      let payload := decoded.take 21
      let secondDigest := deps.sha256 (deps.sha256 payload)
      (decoded.drop 21).zipIdx.all fun (byte, index) => secondDigest[index]? == some byte

/-! ## Bech32 -/

/-- `charCodeAt(0)`. -/
def charCode (character : Char) : ℕ := ((CodeUnits.ofChar character).headD 0).toNat

/-- `bech32Hrp`. -/
def bech32Hrp (value : String) : List ℕ :=
  value.toList.map (fun character => charCode character >>> 5) ++
    0 :: value.toList.map fun character => charCode character &&& 31

def generators : List UInt32 := [0x3b6a57b2, 0x26508e6d, 0x1ea119fa, 0x3d4233dd, 0x2a1462b3]

/-- One value taken into the checksum; the operators work on 32-bit words. -/
def polymodRound (checksum : UInt32) (value : ℕ) : UInt32 :=
  let top := checksum >>> 25
  let checksum := ((checksum &&& 0x1ffffff) <<< 5) ^^^ UInt32.ofNat value
  generators.zipIdx.foldl (fun checksum (generator, index) =>
    if (top >>> UInt32.ofNat index) &&& 1 != 0 then checksum ^^^ generator else checksum) checksum

/-- `bech32Polymod`. -/
def bech32Polymod (values : List ℕ) : ℕ := (values.foldl polymodRound 1).toNat

/-- `>>`, which keeps the sign of the word. -/
def signedShiftRight (word : UInt32) (count : ℕ) : UInt32 :=
  ⟨word.toBitVec.sshiftRight (count % 32)⟩

/-- `(1 << toBits) - 1`. -/
def maximum (toBits : ℕ) : UInt32 := (1 <<< UInt32.ofNat toBits) - 1

/-- The inner loop of `convertBits`: what it pushes, and the count of bits it leaves. -/
def flushBits (toBits : ℕ) (accumulator : UInt32) (bitCount : ℕ) : List ℕ × ℕ :=
  if 0 < toBits ∧ toBits ≤ bitCount then
    let rest := flushBits toBits accumulator (bitCount - toBits)
    ((signedShiftRight accumulator (bitCount - toBits) &&& maximum toBits).toNat :: rest.1, rest.2)
  else ([], bitCount)
termination_by bitCount

/-- `convertBits`, from the bits read so far. -/
def convertBits (fromBits toBits : ℕ) (accumulator : UInt32) (bitCount : ℕ) :
    List ℕ → Option (List ℕ)
  | [] =>
      if bitCount ≥ fromBits ||
          (accumulator <<< UInt32.ofNat (toBits - bitCount)) &&& maximum toBits != 0 then none
      else some []
  | value :: values =>
      if value >>> fromBits != 0 then none
      else
        let accumulator := (accumulator <<< UInt32.ofNat fromBits) ||| UInt32.ofNat value
        let flushed := flushBits toBits accumulator (bitCount + fromBits)
        (convertBits fromBits toBits accumulator flushed.2 values).map (flushed.1 ++ ·)

/-- A text at its last separator: what is before and what is after it. -/
def splitLast (separator : Char) : List Char → Option (List Char × List Char)
  | [] => none
  | letter :: letters =>
      match splitLast separator letters with
      | some (before, after) => some (letter :: before, after)
      | none => if letter = separator then some ([], letters) else none

/-- What `validSegwitMainnet` checks of the characters after the separator. -/
def validSegwitData (payload : List Char) : Bool :=
  match payload.mapM fun character => bech32Charset.idxOf? character with
  | none => false
  | some data =>
    if data.length < 7 then false
    else
      let witnessVersion := data.headD 0
      if witnessVersion > 16 then false
      else if bech32Polymod (bech32Hrp "bc" ++ data) !=
          (if witnessVersion == 0 then 1 else 0x2bc830a3) then false
      else match convertBits 5 8 0 0 (data.take (data.length - 6)).tail with
        | none => false
        | some program =>
          if program.length < 2 || program.length > 40 then false
          else witnessVersion != 0 || program.length == 20 || program.length == 32

/-- `validSegwitMainnet`. -/
def validSegwitMainnet (table : CaseTable) (address : String) : Bool :=
  if address.toList != table.toLowerCase address.toList &&
      address.toList != table.toUpperCase address.toList then false
  else match splitLast '1' (table.toLowerCase address.toList) with
    | none => false
    | some (before, after) => if before != "bc".toList then false else validSegwitData after

/-- `validMainnetAddress`. -/
def validMainnetAddress (deps : Dependencies) (table : CaseTable) (address : String) : Bool :=
  let length := (CodeUnits.ofString address).length
  if length < 14 || length > 90 then false
  else match address.toList.head? with
    | some '1' | some '3' => validBase58CheckMainnet deps address
    | _ => validSegwitMainnet table address

end WorkGate.Headless
