/-
# Headers and targets (src/stratum_v1/target.rs)

From a job and a submission back to the block header that was hashed, and from a pool's
difficulty to the target a share is held to.  Hexadecimal text comes from the wire, so
decoding it can fail, and cutting it in the middle of a character panics.
-/

import WorkGate.Library.Hex
import WorkGate.Stratum.Credentials

namespace WorkGate

open WorkGate.Library

/-- How a call of the Stratum session can end other than by returning. -/
inductive StratumFault
  | error (error : StratumV1Error)
  | panic
  deriving DecidableEq

/-- A fixed-size byte array. -/
@[ext]
structure Bytes (size : ℕ) where
  data : List UInt8
  length_data : data.length = size
  deriving DecidableEq

namespace Bytes

variable {size : ℕ}

/-- `try_into` a fixed-size array. -/
def ofList (size : ℕ) (failure : StratumV1Error) (bytes : List UInt8) :
    Except StratumFault (Bytes size) :=
  if hsize : bytes.length = size then .ok ⟨bytes, hsize⟩ else .error (.error failure)

/-- `reverse`. -/
def reverse (bytes : Bytes size) : Bytes size :=
  ⟨bytes.data.reverse, by rw [List.length_reverse, bytes.length_data]⟩

/-- The number written most significant byte first. -/
def toNat (bytes : Bytes size) : ℕ := Limbs.bigEndian bytes.data

/-- `<=` on arrays. -/
def le (first second : Bytes size) : Bool := Limbs.lexLe first.data second.data

theorem le_iff (first second : Bytes size) : first.le second = true ↔ first.toNat ≤ second.toNat :=
  Limbs.lexLe_iff (first.length_data.trans second.length_data.symm)

end Bytes

/-! ## Difficulty -/

/-- The digits of an unsigned decimal, `none` where there is none or another character. -/
def parseDigits (digits : List Char) : Option ℕ :=
  if digits.isEmpty || !digits.all Char.isDigit then none
  else some (digits.foldl (fun value digit => 10 * value + (digit.toNat - 48)) 0)

/-- `str::parse::<u64>`. -/
def parseU64 : List Char → Option ℕ
  | '+' :: digits => (parseDigits digits).filter (· < 2 ^ 64)
  | digits => (parseDigits digits).filter (· < 2 ^ 64)

/-- `str::parse::<i32>`. -/
def parseI32 : List Char → Option ℤ
  | '-' :: digits => ((parseDigits digits).filter (· ≤ 2 ^ 31)).map fun value => -(value : ℤ)
  | '+' :: digits => ((parseDigits digits).filter (· < 2 ^ 31)).map fun value => (value : ℤ)
  | digits => ((parseDigits digits).filter (· < 2 ^ 31)).map fun value => (value : ℤ)

/-- `u64::checked_mul`. -/
def checkedMul (left right : ℕ) : Option ℕ :=
  if left * right < 2 ^ 64 then some (left * right) else none

/-- `u64::checked_add`. -/
def checkedAdd (left right : ℕ) : Option ℕ :=
  if left + right < 2 ^ 64 then some (left + right) else none

/-- `u64::checked_pow` of ten. -/
def checkedPowerOfTen (exponent : ℕ) : Option ℕ :=
  if 10 ^ exponent < 2 ^ 64 then some (10 ^ exponent) else none

/-- `text.find(['e', 'E'])` and the parts on both sides. -/
def splitExponent (text : List Char) : List Char × ℤ :=
  let mantissa := text.takeWhile fun character => character != 'e' && character != 'E'
  match text.dropWhile fun character => character != 'e' && character != 'E' with
  | [] => (mantissa, 0)
  | _ :: exponent => (mantissa, (parseI32 exponent).getD (-2 ^ 31))

/-- `mantissa.split_once('.')`. -/
def splitFraction (mantissa : List Char) : List Char × Option (List Char) :=
  match mantissa.dropWhile (· != '.') with
  | [] => (mantissa, none)
  | _ :: fraction => (mantissa.takeWhile (· != '.'), some fraction)

/-- The numerator and the denominator of a mantissa. -/
def mantissaRatio (whole fraction : List Char) : Option (ℕ × ℕ) := do
  let denominator ← checkedPowerOfTen fraction.length
  let scaled ← (parseU64 whole).bind (checkedMul · denominator)
  let numerator ← checkedAdd ((parseU64 fraction).getD 0) scaled
  if 0 < numerator then some (numerator, denominator) else none

/-- A ratio multiplied by a power of ten. -/
def scaleRatio (numerator denominator : ℕ) (exponent : ℤ) : Option (ℕ × ℕ) := do
  let power ← checkedPowerOfTen exponent.natAbs
  if 0 < exponent then
    let numerator ← checkedMul numerator power
    some (numerator, denominator)
  else if exponent < 0 then
    let denominator ← checkedMul denominator power
    some (numerator, denominator)
  else some (numerator, denominator)

/-- `greatest_common_divisor`, the loop over both variables. -/
def greatestCommonDivisor (left right : ℕ) : ℕ :=
  if right = 0 then left else greatestCommonDivisor right (left % right)
termination_by right
decreasing_by exact Nat.mod_lt _ (by omega)

theorem greatestCommonDivisor_eq (left right : ℕ) :
    greatestCommonDivisor left right = Nat.gcd left right := by
  induction left, right using greatestCommonDivisor.induct with
  | case1 left => rw [greatestCommonDivisor, if_pos rfl, Nat.gcd_zero_right]
  | case2 left right hright ih =>
      rw [greatestCommonDivisor, if_neg hright, ih, Nat.gcd_comm, ← Nat.gcd_rec, Nat.gcd_comm]

/-- `decimal_ratio`. -/
def decimalRatio (difficulty : Json) : Option (ℕ × ℕ) := do
  let number ← difficulty.asNumber
  let (mantissa, exponent) := splitExponent number.text.toList
  if ¬ (-18 ≤ exponent ∧ exponent ≤ 18) then none
  else
    let (whole, maybeFraction) := splitFraction mantissa
    if whole.head? = some '-' || (maybeFraction.any fun fraction => fraction.length > 18) then none
    else
      let (numerator, denominator) ← mantissaRatio whole (maybeFraction.getD [])
      let (numerator, denominator) ← scaleRatio numerator denominator exponent
      let divisor := greatestCommonDivisor numerator denominator
      some (numerator / divisor, denominator / divisor)

/-- The bytes of a product and the carry out of them.  The `u128` carry never overflows. -/
def multiplyBytes (multiplier : ℕ) : List UInt8 → List UInt8 × ℕ
  | [] => ([], 0)
  | byte :: rest =>
      let (product, carry) := multiplyBytes multiplier rest
      let value := byte.toNat * multiplier + carry
      (UInt8.ofNat value :: product, value / 256)

/-- The eight bytes above a product. -/
def carryBytes (carry : ℕ) : List UInt8 :=
  (List.range 8).reverse.map fun index => UInt8.ofNat (carry / 256 ^ index)

/-- Long division, one byte at a time, `none` where a digit does not fit a byte. -/
def divideBytes (divisor : ℕ) : ℕ → List UInt8 → Option (List UInt8)
  | _, [] => some []
  | remainder, byte :: rest =>
      let dividend := remainder * 256 + byte.toNat
      if dividend / divisor ≥ 256 then none
      else (divideBytes divisor (dividend % divisor) rest).map
        (UInt8.ofNat (dividend / divisor) :: ·)

/-- `scale_target`. -/
def scaleTarget (target : List UInt8) (multiplier divisor : ℕ) :
    Except StratumFault (Bytes 32) :=
  if divisor = 0 then .error (.error .unsupportedDifficulty)
  else
    let (product, carry) := multiplyBytes multiplier target
    match divideBytes divisor 0 (carryBytes carry ++ product) with
    | none => .error (.error .unsupportedDifficulty)
    | some quotient =>
      if (quotient.take 8).any (· != 0) then .ok ⟨List.replicate 32 255, length_easiest⟩
      else Bytes.ofList 32 .unsupportedDifficulty (quotient.drop 8)

/-- `difficulty_one_target`. -/
def difficultyOneTarget : List UInt8 := [0, 0, 0, 0, 255, 255] ++ List.replicate 26 0

/-- `target_for_difficulty`. -/
def targetForDifficulty (difficulty : Json) : Except StratumFault (Bytes 32) :=
  match decimalRatio difficulty with
  | none => .error (.error .unsupportedDifficulty)
  | some (numerator, denominator) => scaleTarget difficultyOneTarget denominator numerator

/-! ## Hexadecimal text -/

/-- The value of a hexadecimal digit. -/
def hexDigitValue (byte : UInt8) : Option ℕ :=
  if 48 ≤ byte ∧ byte ≤ 57 then some (byte.toNat - 48)
  else if 97 ≤ byte ∧ byte ≤ 102 then some (byte.toNat - 87)
  else if 65 ≤ byte ∧ byte ≤ 70 then some (byte.toNat - 55)
  else none

/-- `u8::from_str_radix` of two bytes, which also reads a plus sign and one digit. -/
def hexPairValue (high low : UInt8) : Option UInt8 :=
  if high = 43 then (hexDigitValue low).map UInt8.ofNat
  else do
    let high ← hexDigitValue high
    let low ← hexDigitValue low
    some (UInt8.ofNat (16 * high + low))

/-- Whether a byte continues a character that began before it. -/
def isContinuationByte (byte : UInt8) : Bool := decide (128 ≤ byte) && decide (byte < 192)

/-- The loop of `decode_hex`, two bytes at a time; a slice that would end inside a character
panics. -/
def decodeHexPairs : List UInt8 → Except StratumFault (List UInt8)
  | [] => .ok []
  | [_] => .error (.error .invalidFrame)
  | high :: low :: rest =>
      if rest.head?.any isContinuationByte then .error .panic
      else match hexPairValue high low with
        | none => .error (.error .invalidFrame)
        | some byte => (decodeHexPairs rest).map (byte :: ·)

/-- `decode_hex`. -/
def decodeHex (value : String) : Except StratumFault (List UInt8) :=
  if value.isEmpty || (asBytes value).length % 2 ≠ 0 then .error (.error .invalidFrame)
  else decodeHexPairs (asBytes value)

/-- `decode_fixed_hex`. -/
def decodeFixedHex (size : ℕ) (value : String) : Except StratumFault (Bytes size) := do
  Bytes.ofList size .invalidFrame (← decodeHex value)

theorem length_decodeHexPairs {bytes decoded : List UInt8}
    (h : decodeHexPairs bytes = .ok decoded) : bytes.length = 2 * decoded.length := by
  fun_induction decodeHexPairs bytes generalizing decoded with
  | case1 =>
      cases h
      rfl
  | case2 byte => cases h
  | case3 high low rest hsplit => cases h
  | case4 high low rest hwhole hnone => cases h
  | case5 high low rest hwhole byte hbyte ih =>
      cases hrest : decodeHexPairs rest with
      | error fault =>
          rw [hrest] at h
          cases h
      | ok tail =>
          rw [hrest] at h
          cases h
          rw [List.length_cons, List.length_cons, List.length_cons, ih hrest]
          omega

/-- Two characters a byte. -/
theorem length_decodeHex {value : String} {decoded : List UInt8}
    (h : decodeHex value = .ok decoded) : (asBytes value).length = 2 * decoded.length := by
  rw [decodeHex] at h
  split at h
  · cases h
  · exact length_decodeHexPairs h

/-! ## Headers -/

/-- A job the pool announced, with the target in force when it did. -/
structure StratumJob where
  previousBlockHash : String
  coinbasePrefix : String
  coinbaseSuffix : String
  merkleBranches : List String
  version : String
  networkBits : String
  assignedTarget : Bytes 32
  deriving DecidableEq

/-- `double_sha256`. -/
def doubleSha256 (deps : Dependencies) (input : List UInt8) : Bytes 32 :=
  ⟨deps.sha256 (deps.sha256 input), deps.sha256_length _⟩

/-- `coinbase_txid`: the id of a transaction leaves its witnesses out. -/
def coinbaseTxid (deps : Dependencies) (coinbase : List UInt8) :
    Except StratumFault (Bytes 32) :=
  let hasWitness := coinbase[4]? == some 0 && coinbase[5]?.any (· != 0)
  if !hasWitness then .ok (doubleSha256 deps coinbase)
  else match htxid : deps.computeTxid coinbase with
    | none => .error (.error .invalidFrame)
    | some txid => .ok ⟨txid, deps.computeTxid_length coinbase txid htxid⟩

/-- The loop over the merkle branches. -/
def merkleRoot (deps : Dependencies) : Bytes 32 → List String → Except StratumFault (Bytes 32)
  | root, [] => .ok root
  | root, branch :: branches => do
      let branch ← decodeFixedHex 32 branch
      merkleRoot deps (doubleSha256 deps (root.data ++ branch.data)) branches

/-- Every four-byte word of a string reversed. -/
def reverseWords : List UInt8 → List UInt8
  | a :: b :: c :: d :: rest => d :: c :: b :: a :: reverseWords rest
  | rest => rest

/-- `stratum_previous_block_bytes`. -/
def stratumPreviousBlockBytes (value : String) : Except StratumFault (List UInt8) := do
  return reverseWords (← decodeFixedHex 32 value).data

/-- `submitted_header`. -/
def submittedHeader (deps : Dependencies) (job : StratumJob)
    (extranonce1 extranonce2 ntime nonce : String) : Except StratumFault (Bytes 80) := do
  let coinbaseStart ← decodeHex job.coinbasePrefix
  let extranonce1 ← decodeHex extranonce1
  let extranonce2 ← decodeHex extranonce2
  let coinbaseEnd ← decodeHex job.coinbaseSuffix
  let txid ← coinbaseTxid deps (coinbaseStart ++ extranonce1 ++ extranonce2 ++ coinbaseEnd)
  let root ← merkleRoot deps txid job.merkleBranches
  let version ← decodeFixedHex 4 job.version
  let previousBlock ← stratumPreviousBlockBytes job.previousBlockHash
  let ntime ← decodeFixedHex 4 ntime
  let networkBits ← decodeFixedHex 4 job.networkBits
  let nonce ← decodeFixedHex 4 nonce
  Bytes.ofList 80 .invalidFrame (version.reverse.data ++ previousBlock ++ root.data ++
    ntime.reverse.data ++ networkBits.reverse.data ++ nonce.reverse.data)

/-- `compact_target`. -/
def compactTarget (networkBits : String) : Except StratumFault (Bytes 32) := do
  let compact := (← decodeFixedHex 4 networkBits).toNat
  let exponent := compact / 2 ^ 24
  let mantissa := compact % 2 ^ 23
  if compact / 2 ^ 23 % 2 ≠ 0 ∨ mantissa = 0 ∨ exponent > 32 then .error (.error .invalidFrame)
  else if exponent ≤ 3 then
    let value := mantissa / 2 ^ (8 * (3 - exponent))
    Bytes.ofList 32 .invalidFrame (List.replicate 28 0 ++
      [UInt8.ofNat (value / 2 ^ 24), UInt8.ofNat (value / 2 ^ 16), UInt8.ofNat (value / 2 ^ 8),
        UInt8.ofNat value])
  else
    Bytes.ofList 32 .invalidFrame (List.replicate (32 - exponent) 0 ++
      [UInt8.ofNat (mantissa / 2 ^ 16), UInt8.ofNat (mantissa / 2 ^ 8), UInt8.ofNat mantissa] ++
      List.replicate (exponent - 3) 0)

/-- `classify_network_target`. -/
def classifyNetworkTarget (deps : Dependencies) (header : Bytes 80) (networkBits : String) :
    Except StratumFault NetworkTargetOutcome := do
  let target ← compactTarget networkBits
  return if (doubleSha256 deps header.data).reverse.le target then .networkTargetMet
    else .belowNetworkTarget

/-- `meets_assigned_target`. -/
def meetsAssignedTarget (deps : Dependencies) (header : Bytes 80) (target : Bytes 32) : Bool :=
  (doubleSha256 deps header.data).reverse.le target

/-- A share meets its target when its hash, read as a number, is at most the target. -/
theorem meetsAssignedTarget_iff {deps : Dependencies} {header : Bytes 80} {target : Bytes 32} :
    meetsAssignedTarget deps header target = true ↔
      (doubleSha256 deps header.data).reverse.toNat ≤ target.toNat :=
  Bytes.le_iff _ _

end WorkGate
