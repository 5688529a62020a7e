/-
The vault (`desktop/runtime/DesktopVaultService.js`).

The vault has a row for each account of the machine. A row is a bundle of parts that are sealed
one by one: the keystore, the key of the app data, and the recovery phrase under the password, the
identity-DH override under the app data key. A primary account is rooted in its phrase, from which
its identities are derived; a delegated one has no phrase, and all that it has is in its keystore.

What the vault hands on of the account that is unlocked is the identity its chat server is to run
under. The identity that was derived while an account was created or imported is kept aside, so
that the unlock that follows need not derive it again. Next to it is kept here for which account
it was derived, and in the last field of the vault whether one that was kept for another account
was ever taken. No step reads either.

The keystore, the derivations and the operating system's keychain are code of others. They are
parameters.
-/
import RezChat.Inbox.Frame
import RezChat.Contacts.Store
import RezChat.Lib.Sealing
import RezChat.Lib.Tasks

set_option autoImplicit false

namespace RezChat.Desktop

open Inbox (trim trimmed trim_trim)
open Contacts (utf16Length)
open Option

/-! ## Keys -/

structure KeyPair where
  publicKeyB64 : String
  privateKeyB64 : String
  deriving DecidableEq

/-- What the vault needs of the SDK. Seeds are texts, and so are keys. -/
structure Sdk where
  /-- A recovery phrase in its canonical form, if it is one. -/
  normalizeMnemonic : String → Option String
  mnemonicToSeed : String → String
  deriveEd25519 : String → String → KeyPair
  deriveX25519 : String → String → KeyPair
  seedFingerprintB64 : String → String
  /-- The account id of a public key. -/
  getAccountId : String → String
  /-- The device id of a device's public key. -/
  getDeviceId : String → String
  /-- It decodes to 32 bytes. -/
  isAppDataKey : String → Bool
  /-- The halves of the pair are canonical and belong together. -/
  agreeingDhKeyPair : KeyPair → Bool
  /-- The certificate chain leads from the account key to the device key. -/
  acceptsDelegation : String → List String → KeyPair → Bool

def seedLabelDesktopAccount : String := "rez/identity/desktop-account/v1"
def seedLabelChatServer : String := "rez/identity/chat-server/v1"
def seedLabelX3dhDh : String := "rez/identity/x3dh-dh/v1"

/-- What the OS does when it cannot encrypt or decrypt. -/
inductive SafeStorageError where
  | resetRequired
  | keyUnavailable
  | other

/-- `safeStorage`: whether it is there, whether its key can be had, and what it does with it. -/
structure SafeStorage where
  available : Bool
  ensured : Bool
  encryptString : String → Except SafeStorageError String
  decryptString : String → Except SafeStorageError String

/-- What the keystore seals. A delegated account has neither a private account key nor, of its own
making, a DH key. -/
structure KeystorePayload where
  accountId : String
  deviceId : String
  profileName : String
  identityPublicKey : String
  identityKeyPair : Option KeyPair
  deviceKeyPair : Option KeyPair
  hasAdminRoot : Bool
  certChain : List String
  accountIdentityDhKeyPair : Option KeyPair
  bootstrapInboxId : Option String

/-- The identity that a chat server runs under. -/
structure ChatServerIdentity where
  accountId : String
  publicKeyB64 : String
  privateKeyB64 : Option String
  hasAdminRoot : Bool
  certChain : List String
  inboxId : Option String
  accountIdentityDhKeyPair : Option KeyPair
  deriving DecidableEq

namespace Sdk

variable (sdk : Sdk)

/-- The desktop identity of a phrase. -/
def desktopIdentity (mnemonic : String) : KeyPair :=
  sdk.deriveEd25519 (sdk.mnemonicToSeed mnemonic) seedLabelDesktopAccount

/-- The vault account id of a phrase. -/
def vaultAccountId (mnemonic : String) : String :=
  sdk.getAccountId (sdk.desktopIdentity mnemonic).publicKeyB64

/-- The chat-server identity of a phrase. -/
def chatServerIdentity (mnemonic : String) : ChatServerIdentity :=
  let seed := sdk.mnemonicToSeed mnemonic
  let keys := sdk.deriveEd25519 seed seedLabelChatServer
  { accountId := sdk.getAccountId keys.publicKeyB64
    publicKeyB64 := keys.publicKeyB64
    privateKeyB64 := some keys.privateKeyB64
    hasAdminRoot := true
    certChain := []
    inboxId := none
    accountIdentityDhKeyPair := some (sdk.deriveX25519 seed seedLabelX3dhDh) }

/-- `createKeystoreAccount` with an identity: the payload that it seals, with a fresh device
key. -/
def keystorePayload (profileName : String) (identity deviceKeyPair : KeyPair) : KeystorePayload where
  accountId := sdk.getAccountId identity.publicKeyB64
  deviceId := sdk.getDeviceId deviceKeyPair.publicKeyB64
  profileName := profileName
  identityPublicKey := identity.publicKeyB64
  identityKeyPair := some identity
  deviceKeyPair := some deviceKeyPair
  hasAdminRoot := true
  certChain := []
  accountIdentityDhKeyPair := none
  bootstrapInboxId := none

/-- `#validateIdentityDhKeyPair`. -/
def validateIdentityDhKeyPair (value : KeyPair) : Option KeyPair :=
  let keyPair : KeyPair := ⟨trim value.publicKeyB64, trim value.privateKeyB64⟩
  if keyPair.publicKeyB64 = "" ∨ keyPair.privateKeyB64 = "" then none
  else if sdk.agreeingDhKeyPair keyPair = true then some keyPair
  else none

/-- A pair that was validated is valid as it is. -/
theorem validateIdentityDhKeyPair_self {sdk : Sdk} {value keyPair : KeyPair}
    (h : sdk.validateIdentityDhKeyPair value = some keyPair) :
    sdk.validateIdentityDhKeyPair keyPair = some keyPair := by
  rw [Sdk.validateIdentityDhKeyPair] at h
  dsimp only at h
  split_ifs at h with hempty hagree
  rw [← some_inj.1 h, Sdk.validateIdentityDhKeyPair]
  simp only [trim_trim]
  rw [if_neg hempty, if_pos hagree]

end Sdk

/-- The chat-server identity that a delegated keystore holds. -/
def KeystorePayload.delegatedIdentity (p : KeystorePayload) : ChatServerIdentity where
  accountId := p.accountId
  publicKeyB64 := p.identityPublicKey
  privateKeyB64 := none
  hasAdminRoot := false
  certChain := p.certChain
  inboxId := p.bootstrapInboxId
  accountIdentityDhKeyPair := p.accountIdentityDhKeyPair

/-! ## Rows -/

/-- A row of `vault_accounts`. -/
structure AccountRow where
  accountId : String
  profileNameHint : String
  keystoreEnvelope : Sealed String KeystorePayload
  appKeyEnvelope : Sealed String String
  safeWrappedAppKeyB64 : Option String
  safeWrappedPasswordB64 : Option String
  avatarFileHash : Option String
  avatarDataB64 : Option String
  mnemonicEnvelope : Option (Sealed String String)
  seedFingerprintB64 : Option String
  /-- The column is `0` for a delegated row, and null for any other. -/
  hasAdminRoot : Bool
  /-- Sealed under the app data key, with the account id as its associated data. -/
  identityDhOverride : Option (Sealed (String × String) KeyPair)
  createdAtMs : Int
  updatedAtMs : Int

/-- `ORDER BY updatedAtMs DESC, accountId ASC LIMIT 1`. -/
def latestRow (rows : OrdMap String AccountRow) : Option AccountRow :=
  rows.values.foldl (fun best row =>
    match best with
    | none => some row
    | some b =>
      if b.updatedAtMs < row.updatedAtMs ∨
          b.updatedAtMs = row.updatedAtMs ∧ row.accountId < b.accountId then some row
      else some b) none

namespace SafeStorage

variable (safe : SafeStorage)

/-- `#safeWrapAppDataKey`. A keychain that is denied or missing leaves the key unwrapped; the
outer option is empty where the call throws. -/
def wrapAppDataKey (appDataKey : String) : Option (Option String) :=
  if safe.available = false ∨ safe.ensured = false then some none
  else
    match safe.encryptString appDataKey with
    | .ok wrapped => some (some wrapped)
    | .error .keyUnavailable => some none
    | .error _ => none

/-- `#verifySafeWrappedAppDataKey`: whether it lets the key pass. -/
def verifies (safeWrappedAppKeyB64 : Option String) (appDataKey : String) : Bool :=
  match safe.available, safeWrappedAppKeyB64 with
  | false, _ => true
  | true, none => true
  | true, some wrapped =>
    if wrapped = "" then true
    else
      match safe.decryptString wrapped with
      | .ok unwrapped => decide (trim unwrapped = appDataKey)
      | .error .resetRequired => true
      | .error .keyUnavailable => true
      | .error .other => false

/-- The row holds a wrap of the scheme before. -/
def isLegacyWrap (safeWrappedAppKeyB64 : Option String) : Bool :=
  match safe.available, safeWrappedAppKeyB64 with
  | false, _ => false
  | true, none => false
  | true, some wrapped =>
    if wrapped = "" then false
    else
      match safe.decryptString wrapped with
      | .error .resetRequired => true
      | _ => false

end SafeStorage

namespace AccountRow

variable (sdk : Sdk) (safe : SafeStorage) (row : AccountRow)

/-- `#decryptAppDataKey`. -/
def decryptAppDataKey (password : String) : Option String :=
  (row.appKeyEnvelope.opened password).bind fun key =>
    if sdk.isAppDataKey key = true ∧ safe.verifies row.safeWrappedAppKeyB64 key = true then
      some key
    else none

/-- `#decryptMnemonic`. -/
def decryptMnemonic (password : String) (envelope : Sealed String String) : Option String :=
  (envelope.opened password).bind fun mnemonic => if mnemonic = "" then none else some mnemonic

/-- `#decryptIdentityDhOverride`. The outer option is empty where the call throws. -/
def decryptIdentityDhOverride (appDataKey : String) : Option (Option KeyPair) :=
  match row.identityDhOverride with
  | none => some none
  | some envelope =>
    match (envelope.opened (appDataKey, row.accountId)).bind sdk.validateIdentityDhKeyPair with
    | none => none
    | some keyPair => some (some keyPair)

/-- The override in a row. -/
def dhOverride : Option KeyPair :=
  row.identityDhOverride.bind fun envelope => sdk.validateIdentityDhKeyPair envelope.content

section

variable {sdk : Sdk} {row : AccountRow}

theorem decryptMnemonic_content {password : String} {envelope : Sealed String String}
    {mnemonic : String} (h : decryptMnemonic password envelope = some mnemonic) :
    envelope.content = mnemonic := by
  rw [decryptMnemonic, bind_eq_some_iff] at h
  obtain ⟨text, hopened, htext⟩ := h
  split_ifs at htext
  rw [← some_inj.1 htext]
  exact Sealed.content_of_opened hopened

theorem decryptMnemonic_filled {password : String} {envelope : Sealed String String}
    {mnemonic : String} (h : decryptMnemonic password envelope = some mnemonic) : mnemonic ≠ "" := by
  rw [decryptMnemonic, bind_eq_some_iff] at h
  obtain ⟨text, -, htext⟩ := h
  split_ifs at htext with hempty
  rw [← some_inj.1 htext]
  exact hempty

theorem decryptMnemonic_sealed {password mnemonic : String} (h : mnemonic ≠ "") :
    decryptMnemonic password ⟨password, mnemonic⟩ = some mnemonic := by
  rw [decryptMnemonic, Sealed.opened_mk, bind_some, if_neg h]

theorem decryptIdentityDhOverride_eq {row : AccountRow} {appDataKey : String}
    {identityDhOverride : Option KeyPair}
    (h : row.decryptIdentityDhOverride sdk appDataKey = some identityDhOverride) :
    identityDhOverride = row.dhOverride sdk := by
  rw [decryptIdentityDhOverride] at h
  rw [dhOverride]
  cases henv : row.identityDhOverride with
  | none =>
    rw [henv] at h
    exact (some_inj.1 h).symm
  | some envelope =>
    rw [henv] at h
    simp only at h
    cases hvalid : (envelope.opened (appDataKey, row.accountId)).bind
        sdk.validateIdentityDhKeyPair with
    | none =>
      rw [hvalid] at h
      cases h
    | some keyPair =>
      rw [hvalid] at h
      obtain ⟨content, hopened, hkeyPair⟩ := bind_eq_some_iff.1 hvalid
      rw [← some_inj.1 h, bind_some, Sealed.content_of_opened hopened, hkeyPair]

end

/-- `#deriveChatServerIdentityFromVaultRow`, and the override on top of it. -/
def deriveChatServerIdentity (mnemonic : String) (identityDhOverride : Option KeyPair) :
    ChatServerIdentity :=
  match identityDhOverride with
  | none => sdk.chatServerIdentity mnemonic
  | some keyPair =>
    { sdk.chatServerIdentity mnemonic with accountIdentityDhKeyPair := some keyPair }

@[simp] theorem deriveChatServerIdentity_hasAdminRoot (mnemonic : String)
    (identityDhOverride : Option KeyPair) :
    (deriveChatServerIdentity sdk mnemonic identityDhOverride).hasAdminRoot = true := by
  cases identityDhOverride with
  | none => rfl
  | some keyPair => rfl

/-- A derived identity has nothing that a primary one has not. -/
theorem deriveChatServerIdentity_exposed (mnemonic : String) (identityDhOverride : Option KeyPair) :
    { deriveChatServerIdentity sdk mnemonic identityDhOverride with
      certChain := [], inboxId := none } =
        deriveChatServerIdentity sdk mnemonic identityDhOverride := by
  cases identityDhOverride with
  | none => rfl
  | some keyPair => rfl

/-- The name that is shown: the hint, unless it is the placeholder. -/
def resolvedName (unlocked : KeystorePayload) : String :=
  if trim row.profileNameHint ≠ "" ∧ trim row.profileNameHint ≠ "Account" then
    trim row.profileNameHint
  else trim unlocked.profileName

end AccountRow

/-! ## The vault -/

/-- What is in memory of the account that is unlocked. -/
structure ActiveAccount where
  accountId : String
  deviceId : String
  profileName : String
  identityPublicKey : String
  identityKeyPair : Option KeyPair
  deviceKeyPair : Option KeyPair
  appDataKey : String
  chatServerIdentity : Option ChatServerIdentity

/-- The identity that is kept aside, and the account that it was derived for. -/
structure PendingIdentity where
  identity : ChatServerIdentity
  forAccount : String

structure Vault where
  rows : OrdMap String AccountRow
  activeAccount : Option ActiveAccount
  pendingChatServerIdentity : Option PendingIdentity
  clockMs : Int
  /-- An identity that was kept for one account was taken by another. -/
  mixedUp : Bool

namespace Vault

/-- A vault with no accounts. -/
def fresh (clockMs : Int) : Vault := ⟨OrdMap.empty, none, none, clockMs, false⟩

variable (v : Vault)

/-- `#loadAccountRow`. -/
def loadAccountRow (accountId : Option String) : Option AccountRow :=
  if trimmed accountId ≠ "" then v.rows.get? (trimmed accountId) else latestRow v.rows

/-- `lock`, and so `#clearActive`. The identity that is kept aside stays. -/
def lock : Vault := { v with activeAccount := none }

/-- Change the row of an account, if there is one. -/
def updateRow (accountId : String) (f : AccountRow → AccountRow) : Vault :=
  match v.rows.get? accountId with
  | some row =>
    { v with rows := v.rows.set accountId { f row with updatedAtMs := v.clockMs } }
  | none => v

/-- `getChatServerIdentity`. -/
def getChatServerIdentity : Option ChatServerIdentity :=
  match v.activeAccount.bind ActiveAccount.chatServerIdentity with
  | none => none
  | some identity =>
    if identity.accountId = "" then none
    else if identity.hasAdminRoot = false then some { identity with privateKeyB64 := none }
    else some { identity with certChain := [], inboxId := none }

end Vault

/-- `getActiveIdentitySummary`. -/
structure IdentitySummary where
  accountId : String
  deviceId : String
  profileName : String
  identityPublicKey : String

def ActiveAccount.summary (a : ActiveAccount) : IdentitySummary :=
  ⟨a.accountId, a.deviceId, a.profileName, a.identityPublicKey⟩

/-! ## The simplest surroundings -/

/-- An SDK in which a phrase is the account it is the root of. -/
def plainSdk : Sdk where
  normalizeMnemonic := some
  mnemonicToSeed := id
  deriveEd25519 seed label := ⟨seed, label⟩
  deriveX25519 seed label := ⟨seed, label⟩
  seedFingerprintB64 := id
  getAccountId := id
  getDeviceId := id
  isAppDataKey key := decide (key = "key")
  agreeingDhKeyPair _ := true
  acceptsDelegation _ _ _ := true

def noSafeStorage : SafeStorage where
  available := false
  ensured := false
  encryptString _ := .error .other
  decryptString _ := .error .other

end RezChat.Desktop
