/-
The portable backup of an account (`exportBackup` and `importBackup` of
`desktop/runtime/DesktopVaultService.js`).

The app data key is random, so the phrase alone does not bring an account back. The backup carries
it, with the profile and the identity-DH override, encrypted under a key that is derived from the
phrase. What is around the ciphertext in the file is plain: the account id is bound to it as
associated data, the fingerprint is compared with the phrase's, and the time of the export is not
read again.
-/
import RezChat.Desktop.Unlock

set_option autoImplicit false

namespace RezChat.Desktop

open RezChat.Task AccountRow

open Inbox (trim)
open Contacts (utf16Length)

/-- What is encrypted. -/
structure BackupBundle where
  v : Int
  accountId : String
  profileNameHint : String
  avatarFileHash : Option String
  avatarDataB64 : Option String
  appDataKeyB64 : String
  seedFingerprintB64 : String
  createdAtMs : Int
  accountIdentityDhKeyPair : Option KeyPair
  deriving DecidableEq

/-- The file. It is read back as untyped JSON: a field that has not the type it should have is
`none`. -/
structure BackupEnvelope where
  v : Option Int
  type : Option String
  accountId : Option String
  seedFingerprintB64 : Option String
  nonceB64 : Option String
  ciphertextB64 : Option String
  createdAtMs : Option Int
  deriving DecidableEq

/-- The encryption of the backup, over bytes of the type `β`. -/
structure BackupAead (β : Type) where
  toBase64 : β → String
  fromBase64 : String → Option β
  /-- The key that a seed is the root of. -/
  deriveKey : String → String
  aeadEncrypt : String → β → String → BackupBundle → β
  aeadDecrypt : String → β → β → String → Option BackupBundle

def backupAad (accountId : String) : String := "rez-backup/v1:" ++ accountId

structure ExportCall (β : Type) where
  accountId : Option String
  password : String
  nonce : β

structure ImportCall where
  encryptedBackup : Option BackupEnvelope
  mnemonic : String
  newPassword : String
  deviceKeyPair : KeyPair
  insertThrows : Bool

/-- The bundle of a row. The column `createdAtMs` is not among those that are loaded. -/
def AccountRow.bundle (row : AccountRow) (seedFingerprintB64 appDataKey : String)
    (identityDh : Option KeyPair) (nowMs : Int) : BackupBundle where
  v := 1
  accountId := row.accountId
  profileNameHint := if row.profileNameHint = "" then "Account" else row.profileNameHint
  avatarFileHash := row.avatarFileHash.filter (· ≠ "")
  avatarDataB64 := row.avatarDataB64.filter (· ≠ "")
  appDataKeyB64 := appDataKey
  seedFingerprintB64 := seedFingerprintB64
  createdAtMs := nowMs
  accountIdentityDhKeyPair := identityDh

/-- The fields that an import reads, when they have the form that it asks for. -/
structure BackupEnvelope.Fields where
  accountId : String
  seedFingerprintB64 : String
  nonceB64 : String
  ciphertextB64 : String

def BackupEnvelope.fields (env : BackupEnvelope) : Option BackupEnvelope.Fields :=
  if env.v = some 1 ∧ env.type = some "rez-backup" then
    match env.accountId, env.seedFingerprintB64, env.nonceB64, env.ciphertextB64 with
    | some accountId, some seedFingerprintB64, some nonceB64, some ciphertextB64 =>
      if accountId = "" ∨ seedFingerprintB64 = "" then none
      else some ⟨accountId, seedFingerprintB64, nonceB64, ciphertextB64⟩
    | _, _, _, _ => none
  else none

namespace Vault

variable {β : Type} (sdk : Sdk) (safe : SafeStorage) (aead : BackupAead β)

/-- `exportBackup`. -/
def exportBackup (call : ExportCall β) : Task Vault BackupEnvelope :=
  if call.password = "" then failed
  else do
    let v ← get
    match v.loadAccountRow call.accountId with
    | none => failed
    | some row =>
      match row.hasAdminRoot, row.mnemonicEnvelope, row.seedFingerprintB64.filter (· ≠ "") with
      | true, some envelope, some seedFingerprintB64 => do
        let _ ← compute (row.keystoreEnvelope.opened call.password)
        let mnemonic ← compute (decryptMnemonic call.password envelope)
        let appDataKey ← compute (row.decryptAppDataKey sdk safe call.password)
        let key := aead.deriveKey (sdk.mnemonicToSeed mnemonic)
        let identityDh ← compute (row.decryptIdentityDhOverride sdk appDataKey)
        let v ← get
        let bundle := row.bundle seedFingerprintB64 appDataKey identityDh v.clockMs
        let ciphertext ← compute
          (some (aead.aeadEncrypt key call.nonce (backupAad row.accountId) bundle))
        let v ← get
        pure
          { v := some 1
            type := some "rez-backup"
            accountId := some row.accountId
            seedFingerprintB64 := some seedFingerprintB64
            nonceB64 := some (aead.toBase64 call.nonce)
            ciphertextB64 := some (aead.toBase64 ciphertext)
            createdAtMs := some v.clockMs }
      | _, _, _ => failed

/-- The decryption of the file. -/
def decryptBackup (mnemonic : String) (file : BackupEnvelope.Fields) : Option BackupBundle :=
  match aead.fromBase64 file.nonceB64, aead.fromBase64 file.ciphertextB64 with
  | some nonce, some ciphertext =>
    aead.aeadDecrypt (aead.deriveKey (sdk.mnemonicToSeed mnemonic)) nonce ciphertext
      (backupAad file.accountId)
  | _, _ => none

/-- The override of a bundle, validated. The outer option is empty where that throws. -/
def bundleDhKeyPair (bundle : BackupBundle) : Option (Option KeyPair) :=
  match bundle.accountIdentityDhKeyPair with
  | none => some none
  | some keyPair => (sdk.validateIdentityDhKeyPair keyPair).map some

theorem bundleDhKeyPair_self {sdk : Sdk} {bundle : BackupBundle} {identityDh : Option KeyPair}
    (h : bundleDhKeyPair sdk bundle = some identityDh) :
    identityDh.bind sdk.validateIdentityDhKeyPair = identityDh := by
  rw [bundleDhKeyPair] at h
  cases hpair : bundle.accountIdentityDhKeyPair with
  | none =>
    rw [hpair] at h
    rw [← Option.some_inj.1 h]
    rfl
  | some value =>
    rw [hpair] at h
    obtain ⟨keyPair, hvalid, hkeyPair⟩ := Option.map_eq_some_iff.1 h
    rw [← hkeyPair]
    exact Sdk.validateIdentityDhKeyPair_self hvalid

/-- The override of a row is valid in its bundle. -/
theorem bundleDhKeyPair_bundle {sdk : Sdk} (row : AccountRow) (seedFingerprintB64 appDataKey : String)
    (nowMs : Int) :
    bundleDhKeyPair sdk (row.bundle seedFingerprintB64 appDataKey (row.dhOverride sdk) nowMs) =
      some (row.dhOverride sdk) := by
  rw [bundleDhKeyPair, bundle]
  cases hdh : row.dhOverride sdk with
  | none => rfl
  | some keyPair =>
    obtain ⟨envelope, -, hvalid⟩ := Option.bind_eq_some_iff.1 hdh
    simp only
    rw [Sdk.validateIdentityDhKeyPair_self hvalid, Option.map_some]

/-- `normalizeString(value) || fallback`. -/
def nameOr (value fallback : String) : String := if trim value = "" then fallback else trim value

/-- The row that an import inserts. -/
def importedRow (bundle : BackupBundle) (mnemonic password : String) (deviceKeyPair : KeyPair)
    (safeWrappedAppKeyB64 : Option String) (identityDh : Option KeyPair) (nowMs : Int) :
    AccountRow :=
  { primaryRow sdk (nameOr bundle.profileNameHint "Account") password mnemonic
      bundle.appDataKeyB64 deviceKeyPair safeWrappedAppKeyB64 nowMs with
    avatarFileHash := (bundle.avatarFileHash.map trim).filter (· ≠ "")
    avatarDataB64 := bundle.avatarDataB64.filter (· ≠ "")
    identityDhOverride := identityDh.map fun keyPair =>
      ⟨(bundle.appDataKeyB64, sdk.vaultAccountId mnemonic), keyPair⟩
    createdAtMs := if bundle.createdAtMs = 0 then nowMs else bundle.createdAtMs }

theorem importedRow_profileNameHint (bundle : BackupBundle) (mnemonic password : String)
    (deviceKeyPair : KeyPair) (safeWrappedAppKeyB64 : Option String) (identityDh : Option KeyPair)
    (nowMs : Int) :
    (importedRow sdk bundle mnemonic password deviceKeyPair safeWrappedAppKeyB64 identityDh
      nowMs).profileNameHint = nameOr bundle.profileNameHint "Account" := rfl

/-- `importBackup`. -/
def importBackup (call : ImportCall) : Task Vault IdentitySummary :=
  if utf16Length call.newPassword < 8 then failed
  else
    match call.encryptedBackup.bind BackupEnvelope.fields, sdk.normalizeMnemonic call.mnemonic with
    | some file, some mnemonic => do
      let v ← get
      if v.rows.has file.accountId = true then failed
      else
        compute (some ())
        if sdk.seedFingerprintB64 (sdk.mnemonicToSeed mnemonic) ≠ file.seedFingerprintB64 then
          failed
        else
          let bundle ← compute (decryptBackup sdk aead mnemonic file)
          if bundle.v ≠ 1 ∨ sdk.isAppDataKey bundle.appDataKeyB64 = false ∨
              sdk.vaultAccountId mnemonic ≠ file.accountId then failed
          else
            let identityDh ← compute (bundleDhKeyPair sdk bundle)
            compute (some ())
            compute (some ())
            let safeWrappedAppKeyB64 ← compute (safe.wrapAppDataKey bundle.appDataKeyB64)
            compute (some ())
            compute (some ())
            let v ← get
            insertRow call.insertThrows (importedRow sdk bundle mnemonic call.newPassword
              call.deviceKeyPair safeWrappedAppKeyB64 identityDh v.clockMs)
            modify (keepIdentity
              (deriveChatServerIdentity sdk mnemonic identityDh)
              (sdk.vaultAccountId mnemonic))
            unlock sdk safe ⟨some (sdk.vaultAccountId mnemonic), call.newPassword, false⟩
    | _, _ => failed

end Vault

end RezChat.Desktop
