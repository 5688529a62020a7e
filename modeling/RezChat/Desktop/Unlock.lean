/-
Creating and unlocking an account (`desktop/runtime/DesktopVaultService.js`).

A call of the vault waits at every step of the cryptography, and others may come between. What it
read of the row at its start it uses to its end; the identity that is kept aside it looks for when
the row is open. A call ends with what it was to return, or fails.
-/
import RezChat.Desktop.Vault

set_option autoImplicit false

namespace RezChat.Desktop

open RezChat.Task

open Inbox (trim trimmed)
open Contacts (utf16Length)

structure UnlockCall where
  accountId : Option String
  password : String
  enableDeviceUnlock : Bool

namespace Vault

/-! ## Unlocking -/

/-- `#healLegacyOsWrap`. -/
def healLegacyOsWrap (safe : SafeStorage) (row : AccountRow) (appDataKey : String) :
    Task Vault Unit :=
  if safe.isLegacyWrap row.safeWrappedAppKeyB64 = true then do
    let freshWrap ← compute (safe.wrapAppDataKey appDataKey)
    modify fun v => v.updateRow row.accountId fun row =>
      { row with safeWrappedAppKeyB64 := freshWrap, safeWrappedPasswordB64 := none }
  else pure ()

/-- The identity that is kept aside is taken. -/
def takePending (pending : PendingIdentity) (accountId : String) (v : Vault) : Vault :=
  { v with
    pendingChatServerIdentity := none
    mixedUp := v.mixedUp || decide (pending.forAccount ≠ accountId) }

/-- Which identity an unlock hands on: the one in a delegated keystore, else the one that is kept
aside, else the one that is derived from the phrase in the row. A row from before there were
phrases has none. -/
def resolveChatServerIdentity (sdk : Sdk) (password : String) (row : AccountRow)
    (unlocked : KeystorePayload) (appDataKey : String) : Task Vault (Option ChatServerIdentity) :=
  if unlocked.hasAdminRoot = false then do
    modify fun v => { v with pendingChatServerIdentity := none }
    pure (some unlocked.delegatedIdentity)
  else do
    let v ← get
    match v.pendingChatServerIdentity.filter fun p => p.identity.accountId ≠ "" with
    | some pending => do
      modify (takePending pending unlocked.accountId)
      pure (some pending.identity)
    | none =>
      match row.mnemonicEnvelope with
      | none => pure none
      | some envelope => do
        let mnemonic ← compute (AccountRow.decryptMnemonic password envelope)
        let identityDhOverride ← compute (row.decryptIdentityDhOverride sdk appDataKey)
        pure (some (AccountRow.deriveChatServerIdentity sdk mnemonic identityDhOverride))

/-- The legacy literal in the hint gives way to the name in the keystore. -/
def healNameHint (unlocked : KeystorePayload) (v : Vault) : Vault :=
  let seedName := trim unlocked.profileName
  if seedName ≠ "" ∧ seedName ≠ "Account" then
    match v.rows.get? unlocked.accountId with
    | some row =>
      if row.profileNameHint = "Account" then
        v.updateRow unlocked.accountId fun row => { row with profileNameHint := seedName }
      else v
    | none => v
  else v

/-- What is in memory of an account once it is unlocked. -/
def activeAccountOf (row : AccountRow) (unlocked : KeystorePayload) (appDataKey : String)
    (chatServerIdentity : Option ChatServerIdentity) : ActiveAccount where
  accountId := unlocked.accountId
  deviceId := unlocked.deviceId
  profileName := row.resolvedName unlocked
  identityPublicKey := unlocked.identityPublicKey
  identityKeyPair := unlocked.identityKeyPair
  deviceKeyPair := unlocked.deviceKeyPair
  appDataKey := appDataKey
  chatServerIdentity := chatServerIdentity

/-- `enableDeviceUnlock` in the course of an unlock. What goes wrong is logged. -/
def rememberPassword (safe : SafeStorage) (accountId password : String) : Task Vault Unit :=
  tryCatch (pure ()) do
    compute (if safe.ensured = true then some () else none)
    match safe.encryptString password with
    | .error _ => failed
    | .ok wrapped =>
      modify fun v => v.updateRow accountId fun row =>
        { row with safeWrappedPasswordB64 := some wrapped }

/-- `unlock`. -/
def unlock (sdk : Sdk) (safe : SafeStorage) (call : UnlockCall) : Task Vault IdentitySummary :=
  if call.password = "" then failed
  else do
    let v ← get
    match v.loadAccountRow call.accountId with
    | none => failed
    | some row => do
      let unlocked ← compute (row.keystoreEnvelope.opened call.password)
      let appDataKey ← compute (row.decryptAppDataKey sdk safe call.password)
      healLegacyOsWrap safe row appDataKey
      modify lock
      let identity ← resolveChatServerIdentity sdk call.password row unlocked appDataKey
      let active := activeAccountOf row unlocked appDataKey identity
      modify fun v => healNameHint unlocked { v with activeAccount := some active }
      if call.enableDeviceUnlock = true then
        rememberPassword safe unlocked.accountId call.password
      pure active.summary

end Vault

/-! ## What a row opens to -/

namespace AccountRow

variable (sdk : Sdk) (safe : SafeStorage) (row : AccountRow)

/-- The identity that a row has of its own. The outer option is empty where it does not open. -/
def ownIdentity (password : String) (unlocked : KeystorePayload) (appDataKey : String) :
    Option (Option ChatServerIdentity) :=
  if unlocked.hasAdminRoot = false then some (some unlocked.delegatedIdentity)
  else
    match row.mnemonicEnvelope with
    | none => some none
    | some envelope =>
      (decryptMnemonic password envelope).bind fun mnemonic =>
        (row.decryptIdentityDhOverride sdk appDataKey).map fun identityDhOverride =>
          some (deriveChatServerIdentity sdk mnemonic identityDhOverride)

/-- What an unlock of the row comes to with a password, when no identity is kept aside. -/
def opens (password : String) : Option ActiveAccount :=
  (row.keystoreEnvelope.opened password).bind fun unlocked =>
    (row.decryptAppDataKey sdk safe password).bind fun appDataKey =>
      (row.ownIdentity sdk password unlocked appDataKey).map fun identity =>
        Vault.activeAccountOf row unlocked appDataKey identity

/-- `revealMnemonic`, once the keystore has opened. -/
def reveals (password : String) : Option String :=
  row.mnemonicEnvelope.bind fun envelope => decryptMnemonic password envelope

end AccountRow

namespace Vault

/-! ## Creating -/

/-- What a call draws at random. -/
structure FreshMaterial where
  mnemonic : String
  deviceKeyPair : KeyPair
  appDataKey : String

def addRow (row : AccountRow) (v : Vault) : Vault :=
  { v with rows := v.rows.set row.accountId { row with updatedAtMs := v.clockMs } }

/-- `INSERT`, which fails where the account is there already. -/
def insertRow (insertThrows : Bool) (row : AccountRow) : Task Vault Unit := do
  let v ← get
  if insertThrows = true ∨ v.rows.has row.accountId = true then failed
  else modify (addRow row)

/-- The identity that was derived for an account is kept aside. -/
def keepIdentity (identity : ChatServerIdentity) (accountId : String) (v : Vault) : Vault :=
  { v with pendingChatServerIdentity := some ⟨identity, accountId⟩ }

/-- The row of a primary account. -/
def primaryRow (sdk : Sdk) (name password mnemonic appDataKey : String) (deviceKeyPair : KeyPair)
    (safeWrappedAppKeyB64 : Option String) (createdAtMs : Int) : AccountRow where
  accountId := sdk.vaultAccountId mnemonic
  profileNameHint := name
  keystoreEnvelope := ⟨password, sdk.keystorePayload name (sdk.desktopIdentity mnemonic) deviceKeyPair⟩
  appKeyEnvelope := ⟨password, appDataKey⟩
  safeWrappedAppKeyB64 := safeWrappedAppKeyB64
  safeWrappedPasswordB64 := none
  avatarFileHash := none
  avatarDataB64 := none
  mnemonicEnvelope := some ⟨password, mnemonic⟩
  seedFingerprintB64 := some (sdk.seedFingerprintB64 (sdk.mnemonicToSeed mnemonic))
  hasAdminRoot := true
  identityDhOverride := none
  createdAtMs := createdAtMs
  updatedAtMs := createdAtMs

structure CreateCall where
  profileName : String
  password : String
  mnemonic : Option String
  fresh : FreshMaterial
  insertThrows : Bool

/-- The phrase that an account is created from. -/
def CreateCall.mnemonicText (sdk : Sdk) (call : CreateCall) : Option String :=
  match call.mnemonic with
  | some mnemonic => sdk.normalizeMnemonic mnemonic
  | none => some call.fresh.mnemonic

/-- `createAccount`. The seed, the keystore, the envelope of the app data key, its wrap and the
envelope of the phrase are each waited for. -/
def createAccount (sdk : Sdk) (safe : SafeStorage) (call : CreateCall) :
    Task Vault IdentitySummary :=
  let name := trim call.profileName
  if name = "" ∨ utf16Length call.password < 8 then failed
  else
    match call.mnemonicText sdk with
    | none => failed
    | some mnemonic => do
      compute (some ())
      compute (some ())
      compute (some ())
      let safeWrappedAppKeyB64 ← compute (safe.wrapAppDataKey call.fresh.appDataKey)
      compute (some ())
      let v ← get
      let row := primaryRow sdk name call.password mnemonic call.fresh.appDataKey
        call.fresh.deviceKeyPair safeWrappedAppKeyB64 v.clockMs
      insertRow call.insertThrows row
      modify (keepIdentity (sdk.chatServerIdentity mnemonic) row.accountId)
      unlock sdk safe ⟨some row.accountId, call.password, false⟩

/-- What a device that is linked is handed. -/
structure DelegationBundle where
  accountSignPublicKeyB64 : String
  accountDhKeyPair : KeyPair
  certChain : List String

structure CreateDelegatedCall where
  profileName : String
  password : String
  deviceKeyPair : KeyPair
  delegationBundle : DelegationBundle
  inboxId : Option String
  appDataKey : String
  insertThrows : Bool

namespace CreateDelegatedCall

variable (call : CreateDelegatedCall)

/-- The checks of the call, and those of `createDelegatedKeystoreAccount`. -/
def accepted (sdk : Sdk) : Bool :=
  decide (trim call.profileName ≠ "" ∧ 8 ≤ utf16Length call.password ∧
    call.deviceKeyPair.publicKeyB64 ≠ "" ∧ call.deviceKeyPair.privateKeyB64 ≠ "" ∧
    call.delegationBundle.accountSignPublicKeyB64 ≠ "" ∧
    call.delegationBundle.accountDhKeyPair.publicKeyB64 ≠ "" ∧
    call.delegationBundle.accountDhKeyPair.privateKeyB64 ≠ "" ∧
    call.delegationBundle.certChain ≠ []) &&
  sdk.acceptsDelegation call.delegationBundle.accountSignPublicKeyB64
    call.delegationBundle.certChain call.deviceKeyPair

/-- The payload of a delegated keystore. -/
def payload (sdk : Sdk) : KeystorePayload where
  accountId := sdk.getAccountId call.delegationBundle.accountSignPublicKeyB64
  deviceId := sdk.getDeviceId call.deviceKeyPair.publicKeyB64
  profileName := trim call.profileName
  identityPublicKey := call.delegationBundle.accountSignPublicKeyB64
  identityKeyPair := none
  deviceKeyPair := some call.deviceKeyPair
  hasAdminRoot := false
  certChain := call.delegationBundle.certChain
  accountIdentityDhKeyPair := some call.delegationBundle.accountDhKeyPair
  bootstrapInboxId := call.inboxId

def row (sdk : Sdk) (safeWrappedAppKeyB64 : Option String) (createdAtMs : Int) : AccountRow where
  accountId := (call.payload sdk).accountId
  profileNameHint := trim call.profileName
  keystoreEnvelope := ⟨call.password, call.payload sdk⟩
  appKeyEnvelope := ⟨call.password, call.appDataKey⟩
  safeWrappedAppKeyB64 := safeWrappedAppKeyB64
  safeWrappedPasswordB64 := none
  avatarFileHash := none
  avatarDataB64 := none
  mnemonicEnvelope := none
  seedFingerprintB64 := none
  hasAdminRoot := false
  identityDhOverride := none
  createdAtMs := createdAtMs
  updatedAtMs := createdAtMs

end CreateDelegatedCall

/-- `createDelegatedAccount`. Nothing is kept aside: all of it is in the keystore. -/
def createDelegatedAccount (sdk : Sdk) (safe : SafeStorage) (call : CreateDelegatedCall) :
    Task Vault IdentitySummary := do
  compute (if call.accepted sdk = true then some () else none)
  compute (some ())
  let safeWrappedAppKeyB64 ← compute (safe.wrapAppDataKey call.appDataKey)
  let v ← get
  insertRow call.insertThrows (call.row sdk safeWrappedAppKeyB64 v.clockMs)
  unlock sdk safe ⟨some (call.payload sdk).accountId, call.password, false⟩

end Vault

end RezChat.Desktop
