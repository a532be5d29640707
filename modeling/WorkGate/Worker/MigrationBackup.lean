/-
# Migration Backups (web/bitaxe-migration-backup.ts, web/crypto-bytes.ts)

The settings of a device, encrypted under a passphrase for a local download.  The file is a JSON
text with the salt, the initialization vector and the ciphertext in it.  The writer bounds only
the settings, and the reader bounds the file and each field of it: the bounds fit, so every backup
that was written is read back.
-/

import WorkGate.Library.Ascii
import WorkGate.Library.Results
import WorkGate.Library.TextDecoder
import WorkGate.Worker.LeaseArtifacts

namespace WorkGate

open WorkGate.Library
open WorkGate.Library.JsonText

/-! ## Primitives -/

/-- What a backup takes from `crypto.subtle`: keys from passwords, and AES-GCM. -/
structure BackupCrypto (Key : Type) where
  deriveKey (password salt : List UInt8) (iterations : ℕ) : Key
  encrypt (key : Key) (iv plaintext : List UInt8) : List UInt8
  decrypt (key : Key) (iv ciphertext : List UInt8) : Option (List UInt8)

/-- A ciphertext is decrypted under its key and vector, and has a tag of sixteen bytes. -/
structure BackupCrypto.Lawful {Key : Type} (crypto : BackupCrypto Key) : Prop where
  decrypt_encrypt : ∀ key iv plaintext,
    crypto.decrypt key iv (crypto.encrypt key iv plaintext) = some plaintext
  length_encrypt : ∀ key iv plaintext,
    (crypto.encrypt key iv plaintext).length = plaintext.length + 16

/-- What `crypto.getRandomValues` fills for one backup. -/
structure BackupRandomness where
  salt : List UInt8
  iv : List UInt8
  hsalt : salt.length = 16
  hiv : iv.length = 12

/-! ## Backups -/

/-- `MIGRATION_KDF_ITERATIONS`. -/
def migrationKdfIterations : ℕ := 210000

/-- `MAXIMUM_MIGRATION_SETTINGS_BYTES`. -/
def maximumMigrationSettingsBytes : ℕ := 65536

/-- `MAXIMUM_MIGRATION_BACKUP_BYTES`. -/
def maximumMigrationBackupBytes : ℕ := 100000

/-- `MAXIMUM_CIPHERTEXT_BASE64URL_LENGTH`. -/
def maximumCiphertextBase64UrlLength : ℕ := 87403

/-- The messages of a backup that fails. -/
inductive MigrationBackupError
  | passphraseInvalid
  | settingsSizeInvalid
  | invalid
  | authenticationFailed
  deriving DecidableEq

def MigrationBackupError.message : MigrationBackupError → String
  | .passphraseInvalid => "Migration Backup passphrase is invalid"
  | .settingsSizeInvalid => "Migration Backup settings size is invalid"
  | .invalid => "Migration Backup is invalid"
  | .authenticationFailed => "Migration Backup authentication failed"

/-- `validatePassphrase`. -/
def validatePassphrase (passphrase : CodeUnits) : Except MigrationBackupError Unit :=
  if passphrase.length < 12 ∨ passphrase.length > 256 then .error .passphraseInvalid else .ok ()

section Backups

variable {Key : Type} (crypto : BackupCrypto Key)

/-- `backupKey`. -/
def backupKey (passphrase : CodeUnits) (salt : List UInt8) : Key :=
  crypto.deriveKey (CodeUnits.utf8 passphrase) salt migrationKdfIterations

/-- The envelope of a backup as data. -/
def backupToJs (salt iv ciphertext : List UInt8) : JsValue :=
  jsRecord
    [("profile", jsText "bwg-migration-backup/0.1"),
      ("kdf", jsRecord
        [("name", jsText "PBKDF2-SHA256"), ("iterations", jsNatural migrationKdfIterations),
          ("salt", jsText (Base64Url.encode salt))]),
      ("cipher", jsRecord
        [("name", jsText "AES-256-GCM"), ("iv", jsText (Base64Url.encode iv)),
          ("ciphertext", jsText (Base64Url.encode ciphertext))])]

/-- `encryptMigrationBackup`. -/
def encryptMigrationBackup (randomness : BackupRandomness) (settings : List UInt8)
    (passphrase : CodeUnits) : Except MigrationBackupError (List UInt8) := do
  validatePassphrase passphrase
  if settings.length = 0 ∨ settings.length > maximumMigrationSettingsBytes then
    .error .settingsSizeInvalid
  else
    let key := backupKey crypto passphrase randomness.salt
    let ciphertext := crypto.encrypt key randomness.iv settings
    .ok (asBytes (String.ofList (print (backupToJs randomness.salt randomness.iv ciphertext))))

/-- `exactRecord`: these keys and no others. -/
def exactBackupRecord (input : JsValue) (keys : List String) :
    Except MigrationBackupError (List (CodeUnits × JsValue)) :=
  match serialRecord input with
  | none => .error .invalid
  | some members =>
      if members.length ≠ keys.length ∨
          members.any (fun member => !keys.any fun key => CodeUnits.ofString key == member.1) then
        .error .invalid
      else .ok members

/-- A field that is a string of some lengths. -/
def backupText (value : JsValue) (shortest longest : ℕ) : Except MigrationBackupError CodeUnits :=
  match requiredString value with
  | none => .error .invalid
  | some text =>
      if text.length < shortest ∨ text.length > longest then .error .invalid else .ok text

/-- `decodeBase64Url`, with the failure of a backup. -/
def decodeBackupBytes (text : CodeUnits) (maximumCharacters : ℕ) :
    Except MigrationBackupError (List UInt8) :=
  match decodeBase64Url text maximumCharacters with
  | none => .error .invalid
  | some bytes => .ok bytes

/-- What an envelope holds. -/
structure BackupFields where
  salt : List UInt8
  iv : List UInt8
  ciphertext : List UInt8

/-- The fields of an envelope, each within its bounds. -/
def readBackupFields (parsed : JsValue) : Except MigrationBackupError BackupFields := do
  let envelope ← exactBackupRecord parsed ["profile", "kdf", "cipher"]
  let kdf ← exactBackupRecord (fieldOf envelope "kdf") ["name", "iterations", "salt"]
  let cipher ← exactBackupRecord (fieldOf envelope "cipher") ["name", "iv", "ciphertext"]
  if isText (fieldOf envelope "profile") "bwg-migration-backup/0.1" = false ∨
      isText (fieldOf kdf "name") "PBKDF2-SHA256" = false ∨
      requiredNatural (fieldOf kdf "iterations") ≠ some migrationKdfIterations ∨
      isText (fieldOf cipher "name") "AES-256-GCM" = false then
    .error .invalid
  else do
    let saltText ← backupText (fieldOf kdf "salt") 22 22
    let ivText ← backupText (fieldOf cipher "iv") 16 16
    let ciphertextText ←
      backupText (fieldOf cipher "ciphertext") 22 maximumCiphertextBase64UrlLength
    let salt ← decodeBackupBytes saltText 22
    let iv ← decodeBackupBytes ivText 16
    let ciphertext ← decodeBackupBytes ciphertextText maximumCiphertextBase64UrlLength
    if salt.length ≠ 16 ∨ iv.length ≠ 12 ∨ ciphertext.length < 16 then .error .invalid
    else .ok { salt, iv, ciphertext }

/-- `decryptMigrationBackup`. -/
def decryptMigrationBackup (encryptedBackup : List UInt8) (passphrase : CodeUnits) :
    Except MigrationBackupError (List UInt8) := do
  validatePassphrase passphrase
  if encryptedBackup.length = 0 ∨ encryptedBackup.length > maximumMigrationBackupBytes then
    .error .invalid
  else match JsonText.parse (TextDecoder.decode encryptedBackup) with
  | none => .error .invalid
  | some parsed => do
    let fields ← readBackupFields parsed
    let key := backupKey crypto passphrase fields.salt
    match crypto.decrypt key fields.iv fields.ciphertext with
    | none => .error .authenticationFailed
    | some plaintext =>
        if plaintext.length = 0 ∨ plaintext.length > maximumMigrationSettingsBytes then
          .error .invalid
        else .ok plaintext

end Backups

/-! ## The text of a backup -/

/-- A digit of base64url is an ASCII character that is written as it is. -/
theorem plain_digit : ∀ value < 64, (Base64Url.digit value).toNat < 128 ∧
    escape (.scalar (Base64Url.digit value)) = [Base64Url.digit value] := by decide +kernel

/-- An encoded text stands between quotes as it is. -/
theorem quote_encode (bytes : List UInt8) :
    quote (CodeUnits.ofString (Base64Url.encode bytes)) =
      '"' :: ((Base64Url.encode bytes).toList ++ ['"']) := by
  have hescape : ∀ character ∈ (Base64Url.encode bytes).toList,
      escape (.scalar character) = [character] := by
    intro character hmem
    obtain ⟨value, hvalue, rfl⟩ := Base64Url.mem_encode hmem
    exact (plain_digit value hvalue).2
  rw [quote, CodeUnits.pieces_ofString, List.flatMap_map]
  congr 2
  generalize (Base64Url.encode bytes).toList = characters at hescape
  induction characters with
  | nil => rfl
  | cons character characters ih =>
      rw [List.forall_mem_cons] at hescape
      rw [List.flatMap_cons, hescape.1, ih hescape.2, List.singleton_append]

theorem length_utf8_encode (bytes : List UInt8) :
    ((Base64Url.encode bytes).toList.flatMap String.utf8EncodeChar).length =
      (bytes.length * 4 + 2) / 3 := by
  have hascii : ∀ character ∈ (Base64Url.encode bytes).toList, character.toNat < 128 := by
    intro character hmem
    obtain ⟨value, hvalue, rfl⟩ := Base64Url.mem_encode hmem
    exact (plain_digit value hvalue).1
  rw [← asBytes_ofList, String.ofList_toList, asBytes_of_ascii hascii, List.length_map,
    String.length_toList, Base64Url.length_encode]

/-- A backup has 155 bytes beside its encoded fields. -/
theorem length_backup (salt iv ciphertext : List UInt8) :
    (asBytes (String.ofList (print (backupToJs salt iv ciphertext)))).length =
      155 + (salt.length * 4 + 2) / 3 + (iv.length * 4 + 2) / 3 +
        (ciphertext.length * 4 + 2) / 3 := by
  have hempty : (asBytes (String.ofList (print (backupToJs [] [] [])))).length = 155 := by
    decide +kernel
  rw [← hempty]
  simp only [backupToJs, jsRecord, List.map_cons, List.map_nil, Prod.map_apply, id, jsText, print,
    printMembers, quote_encode, asBytes_ofList, List.flatMap_append, List.flatMap_cons,
    List.length_append, length_utf8_encode, List.length_nil]
  omega

/-! ## Reading a backup back -/

theorem parse_backup (salt iv ciphertext : List UInt8) :
    JsonText.parse (TextDecoder.decode
        (asBytes (String.ofList (print (backupToJs salt iv ciphertext))))) =
      some (backupToJs salt iv ciphertext) := by
  have hunmarked : (asBytes (String.ofList (print (backupToJs salt iv ciphertext)))).take 3 ≠
      [0xEF, 0xBB, 0xBF] := by
    have hbrace : asBytes (String.ofList ['{']) = [0x7B] := by decide
    rw [backupToJs, jsRecord, print_object, asBytes_ofList_cons, hbrace]
    intro h
    exact absurd (List.cons.inj h).1 (by decide)
  have hprintable : Printable (backupToJs salt iv ciphertext) := by
    simp [backupToJs, printable_jsRecord, jsText, jsNatural, Printable]
  rw [TextDecoder.decode_asBytes hunmarked, parse_print hprintable]
  rfl

theorem backupText_encode {bytes : List UInt8} {shortest longest : ℕ}
    (hshortest : shortest ≤ (bytes.length * 4 + 2) / 3)
    (hlongest : (bytes.length * 4 + 2) / 3 ≤ longest) :
    backupText (jsText (Base64Url.encode bytes)) shortest longest =
      .ok (CodeUnits.ofString (Base64Url.encode bytes)) := by
  rw [backupText, jsText, requiredString]
  dsimp only
  rw [length_units_encode, if_neg (by omega)]

theorem decodeBackupBytes_encode {bytes : List UInt8} {maximumCharacters : ℕ}
    (hsome : 0 < bytes.length) (hlength : (bytes.length * 4 + 2) / 3 ≤ maximumCharacters) :
    decodeBackupBytes (CodeUnits.ofString (Base64Url.encode bytes)) maximumCharacters =
      .ok bytes := by
  rw [decodeBackupBytes, decodeBase64Url_encode (List.length_pos_iff.mp hsome) hlength]

/-- The fields of an envelope that was written are read back. -/
theorem readBackupFields_backupToJs {salt iv ciphertext : List UInt8} (hsalt : salt.length = 16)
    (hiv : iv.length = 12) (hshortest : 16 ≤ ciphertext.length)
    (hlongest : ciphertext.length ≤ 65552) :
    readBackupFields (backupToJs salt iv ciphertext) = .ok { salt, iv, ciphertext } := by
  have hfields : readBackupFields (backupToJs salt iv ciphertext) = (do
      let saltText ← backupText (jsText (Base64Url.encode salt)) 22 22
      let ivText ← backupText (jsText (Base64Url.encode iv)) 16 16
      let ciphertextText ← backupText (jsText (Base64Url.encode ciphertext)) 22
        maximumCiphertextBase64UrlLength
      let salt ← decodeBackupBytes saltText 22
      let iv ← decodeBackupBytes ivText 16
      let ciphertext ← decodeBackupBytes ciphertextText maximumCiphertextBase64UrlLength
      if salt.length ≠ 16 ∨ iv.length ≠ 12 ∨ ciphertext.length < 16 then .error .invalid
      else .ok { salt, iv, ciphertext }) := rfl
  rw [hfields, backupText_encode (by omega) (by omega), ok_bind,
    backupText_encode (by omega) (by omega), ok_bind,
    backupText_encode (by omega) (by rw [maximumCiphertextBase64UrlLength]; omega), ok_bind,
    decodeBackupBytes_encode (by omega) (by omega), ok_bind,
    decodeBackupBytes_encode (by omega) (by omega), ok_bind,
    decodeBackupBytes_encode (by omega) (by rw [maximumCiphertextBase64UrlLength]; omega), ok_bind]
  exact if_neg (by omega)

/-- Every backup that is written is read back: no bound of the reader is exceeded by the largest
settings, and no check of it fails. -/
theorem decryptMigrationBackup_encrypt {Key : Type} {crypto : BackupCrypto Key}
    (hlawful : crypto.Lawful) (randomness : BackupRandomness) {settings : List UInt8}
    {passphrase : CodeUnits} (hsome : 1 ≤ settings.length) (hmost : settings.length ≤ 65536)
    (hshortest : 12 ≤ passphrase.length) (hlongest : passphrase.length ≤ 256) :
    ∃ backup, encryptMigrationBackup crypto randomness settings passphrase = .ok backup ∧
      backup.length ≤ maximumMigrationBackupBytes ∧
      decryptMigrationBackup crypto backup passphrase = .ok settings := by
  have hpassphrase : validatePassphrase passphrase = .ok () := if_neg (by omega)
  have hsalt := randomness.hsalt
  have hiv := randomness.hiv
  let key := backupKey crypto passphrase randomness.salt
  let ciphertext := crypto.encrypt key randomness.iv settings
  have hciphertext : ciphertext.length = settings.length + 16 := hlawful.length_encrypt _ _ _
  have hlength := length_backup randomness.salt randomness.iv ciphertext
  rw [hsalt, hiv, hciphertext] at hlength
  refine ⟨asBytes (String.ofList (print (backupToJs randomness.salt randomness.iv ciphertext))),
    ?written, ?bounded, ?read⟩
  case written =>
    rw [encryptMigrationBackup, hpassphrase]
    exact if_neg (by rw [maximumMigrationSettingsBytes]; omega)
  case bounded =>
    rw [hlength, maximumMigrationBackupBytes]
    omega
  case read =>
    have hfields : readBackupFields (backupToJs randomness.salt randomness.iv ciphertext) =
        .ok { salt := randomness.salt, iv := randomness.iv, ciphertext } :=
      readBackupFields_backupToJs hsalt hiv (by omega) (by omega)
    rw [decryptMigrationBackup, hpassphrase, ok_bind, hlength, if_neg, parse_backup]
    · dsimp only
      rw [hfields, ok_bind, hlawful.decrypt_encrypt]
      exact if_neg (by rw [maximumMigrationSettingsBytes]; omega)
    · rw [maximumMigrationBackupBytes]
      omega

/-- Sixteen bytes that tag a plaintext of the sample primitives. -/
def sampleTag (key iv plaintext : List UInt8) : List UInt8 :=
  (plaintext ++ iv ++ key ++ List.replicate 16 0).take 16

/-- Primitives that tag a plaintext and check the tag. -/
def sampleBackupCrypto : BackupCrypto (List UInt8) where
  deriveKey password salt _ := password ++ salt
  encrypt key iv plaintext := plaintext ++ sampleTag key iv plaintext
  decrypt key iv ciphertext :=
    let plaintext := ciphertext.take (ciphertext.length - 16)
    if ciphertext.drop (ciphertext.length - 16) = sampleTag key iv plaintext then some plaintext
    else none

theorem length_sampleTag (key iv plaintext : List UInt8) :
    (sampleTag key iv plaintext).length = 16 := by
  rw [sampleTag, List.length_take, List.length_append, List.length_replicate]
  omega

theorem sampleBackupCrypto_lawful : sampleBackupCrypto.Lawful where
  decrypt_encrypt key iv plaintext := by
    have hlength : (plaintext ++ sampleTag key iv plaintext).length - 16 = plaintext.length := by
      rw [List.length_append, length_sampleTag]
      omega
    simp only [sampleBackupCrypto, hlength, List.take_left', List.drop_left', if_true]
  length_encrypt key iv plaintext := by
    rw [sampleBackupCrypto, List.length_append, length_sampleTag]

theorem sampleBackup_read : ∃ backup,
    encryptMigrationBackup sampleBackupCrypto
        { salt := List.replicate 16 7, iv := List.replicate 12 9, hsalt := rfl, hiv := rfl }
        [1, 2, 3] (CodeUnits.ofString "correct horse") = .ok backup ∧
      backup.length ≤ maximumMigrationBackupBytes ∧
      decryptMigrationBackup sampleBackupCrypto backup (CodeUnits.ofString "correct horse") =
        .ok [1, 2, 3] :=
  decryptMigrationBackup_encrypt sampleBackupCrypto_lawful _ (by decide) (by decide) (by decide)
    (by decide)

end WorkGate
