/-
# Deployment trust of a Work Lease Authority (web/worker-lease-authorization.ts,
web/ed25519-public-key.ts)

The verification keys a Worker trusts.  A key is taken only if its text is the one spelling of a
point of the prime-order subgroup of the curve, other than the identity.
-/

import WorkGate.Worker.LeaseRequests

namespace WorkGate

open WorkGate.Library

/-! ## Ed25519 public keys -/

def ed25519FieldPrime : ℕ := 2 ^ 255 - 19

def ed25519SubgroupOrder : ℕ := 2 ^ 252 + 27742317777372353535851937790883648493

/-- Square and multiply, a bit of the exponent at a time. -/
def fieldPowerFrom : ℕ → ℕ → ℕ → ℕ → ℕ
  | 0, result, _, _ => result
  | fuel + 1, result, factor, remaining =>
      bif remaining == 0 then result
      else fieldPowerFrom fuel
        (bif remaining % 2 == 1 then result * factor % ed25519FieldPrime else result)
        (factor * factor % ed25519FieldPrime) (remaining / 2)

/-- `fieldPower`; no exponent has more than 256 bits. -/
def fieldPower (base exponent : ℕ) : ℕ :=
  fieldPowerFrom 256 1 (base % ed25519FieldPrime) exponent

/-- `field(-value)`, of a reduced value. -/
def fieldNegative (value : ℕ) : ℕ := (ed25519FieldPrime - value) % ed25519FieldPrime

/-- The inverse by Fermat's little theorem. -/
def fieldInverse (value : ℕ) : ℕ := fieldPower value (ed25519FieldPrime - 2)

def ed25519D : ℕ := fieldNegative (121665 * fieldInverse 121666 % ed25519FieldPrime)

def ed25519SqrtM1 : ℕ := fieldPower 2 ((ed25519FieldPrime - 1) / 4)

structure EdwardsPoint where
  x : ℕ
  y : ℕ
  deriving DecidableEq

def ed25519Identity : EdwardsPoint := ⟨0, 1⟩

/-- `addPoints`. -/
def addPoints (left right : EdwardsPoint) : EdwardsPoint :=
  let product := ed25519D * left.x * right.x * left.y * right.y % ed25519FieldPrime
  let xNumerator := (left.x * right.y + left.y * right.x) % ed25519FieldPrime
  let yNumerator := (left.y * right.y + left.x * right.x) % ed25519FieldPrime
  { x := xNumerator * fieldInverse ((1 + product) % ed25519FieldPrime) % ed25519FieldPrime
    y := yNumerator * fieldInverse ((1 + fieldNegative product) % ed25519FieldPrime) %
      ed25519FieldPrime }

/-- Double and add, a bit of the scalar at a time. -/
def scalarMultiplyFrom : ℕ → EdwardsPoint → EdwardsPoint → ℕ → EdwardsPoint
  | 0, result, _, _ => result
  | fuel + 1, result, addend, remaining =>
      bif remaining == 0 then result
      else scalarMultiplyFrom fuel
        (bif remaining % 2 == 1 then addPoints result addend else result)
        (addPoints addend addend) (remaining / 2)

/-- `scalarMultiply`; no scalar has more than 256 bits. -/
def scalarMultiply (point : EdwardsPoint) (scalar : ℕ) : EdwardsPoint :=
  scalarMultiplyFrom 256 ed25519Identity point scalar

/-- `maybeDecompressEd25519`. -/
def maybeDecompressEd25519 (y sign : ℕ) : Option EdwardsPoint :=
  let ySquared := y * y % ed25519FieldPrime
  let numerator := (ySquared + fieldNegative 1) % ed25519FieldPrime
  let denominator := (ed25519D * ySquared + 1) % ed25519FieldPrime
  let xSquared := numerator * fieldInverse denominator % ed25519FieldPrime
  let root := fieldPower xSquared ((ed25519FieldPrime + 3) / 8)
  let x := bif root * root % ed25519FieldPrime == xSquared then root
    else root * ed25519SqrtM1 % ed25519FieldPrime
  if x * x % ed25519FieldPrime ≠ xSquared then none
  else if x = 0 ∧ sign = 1 then none
  else some ⟨bif x % 2 == sign then x else fieldNegative x, y⟩

/-- `littleEndianInteger`. -/
def littleEndianInteger : List UInt8 → ℕ
  | [] => 0
  | byte :: bytes => byte.toNat + 256 * littleEndianInteger bytes

/-- `isCanonicalPrimeSubgroupEd25519PublicKey`. -/
def isCanonicalPrimeSubgroupEd25519PublicKey (text : String) : Bool :=
  isDigest text &&
    match decodeBase64Url (CodeUnits.ofString text) 43 with
    | none => false
    | some bytes =>
      bytes.length = 32 && Base64Url.encode bytes = text &&
        let encoded := littleEndianInteger bytes
        let y := encoded % 2 ^ 255
        y < ed25519FieldPrime &&
          match maybeDecompressEd25519 y (encoded / 2 ^ 255) with
          | none => false
          | some point =>
              point ≠ ed25519Identity &&
                scalarMultiply point ed25519SubgroupOrder = ed25519Identity

/-! ## Trust -/

/-- Strict public Work Lease Authority verification key; its other fields have one value each. -/
structure WorkLeaseAuthorityJwk where
  kid : String
  x : String
  deriving DecidableEq

/-- Work Lease Authority half of deployment trust; its profile and role have one value each. -/
structure WorkLeaseAuthorityTrust where
  issuer : String
  audience : String
  keys : List WorkLeaseAuthorityJwk
  deriving DecidableEq

def workerDeploymentTrustProfile : String := "bwg-worker-deployment-trust/0.2"

/-- `^[1-9][0-9]{0,19}$`. -/
def isSequenceText (text : String) : Bool :=
  match text.toList with
  | [] => false
  | first :: rest =>
      first.isDigit && first ≠ '0' && decide (rest.length ≤ 19) && rest.all Char.isDigit

/-- `parseSequence`. -/
def parseSequence (units : CodeUnits) : Option ℕ :=
  (((CodeUnits.maybeText units).filter isSequenceText).map bigInt).filter
    (· ≤ maximumWorkerLeaseAuthorizationSequence)

/-- `parseKeyId`. -/
def parseKeyId (units : CodeUnits) : Option String :=
  (CodeUnits.maybeText units).filter validKeyId

/-- `^[A-Za-z0-9._-]{1,128}$`. -/
def isTrustLabel (text : String) : Bool :=
  decide (1 ≤ text.toList.length) && decide (text.toList.length ≤ 128) &&
    text.toList.all fun character => isOpaqueIdCharacter character || character == '.'

/-- `parseTrustLabel`. -/
def parseTrustLabel (units : CodeUnits) : Option String :=
  (CodeUnits.maybeText units).filter isTrustLabel

/-- `parseAudience`. -/
def parseAudience (units : CodeUnits) : Option String :=
  (CodeUnits.maybeText units).filter (· == workerControllerProtocolVersion)

/-- `key_ops` is a list of one text. -/
def isVerifyOnly : JsValue → Bool
  | .array [value] => isText value "verify"
  | _ => false

/-- `parseTrustKey`. -/
def parseTrustKey (value : JsValue) : Option WorkLeaseAuthorityJwk := do
  let members ← exactRecord value ["kid", "kty", "crv", "x", "alg", "use", "key_ops"] []
  let kid ← requiredString (fieldOf members "kid") >>= parseKeyId
  guard (isText (fieldOf members "kty") "OKP" && isText (fieldOf members "crv") "Ed25519")
  let x ← (plainText (fieldOf members "x")).filter isCanonicalPrimeSubgroupEd25519PublicKey
  guard (isText (fieldOf members "alg") "Ed25519" && isText (fieldOf members "use") "sig" &&
    isVerifyOnly (fieldOf members "key_ops"))
  return { kid, x }

/-- `value.keys`, of one to eight. -/
def trustKeyValues : JsValue → Option (List JsValue)
  | .array values => if values.length = 0 ∨ 8 < values.length then none else some values
  | _ => none

/-- `parseWorkLeaseAuthorityTrust`. -/
def parseWorkLeaseAuthorityTrust (value : JsValue) : Option WorkLeaseAuthorityTrust := do
  let members ← exactRecord value ["profile", "issuer", "audience", "role", "keys"] []
  guard (isText (fieldOf members "profile") workerDeploymentTrustProfile &&
    isText (fieldOf members "role") "work_lease_authority")
  let values ← trustKeyValues (fieldOf members "keys")
  let issuer ← requiredString (fieldOf members "issuer") >>= parseTrustLabel
  let audience ← requiredString (fieldOf members "audience") >>= parseAudience
  let keys ← values.mapM parseTrustKey
  guard (keys.map WorkLeaseAuthorityJwk.kid).Nodup
  guard (keys.map WorkLeaseAuthorityJwk.x).Nodup
  return { issuer, audience, keys }

end WorkGate
