/-
The accounts of a browser (`ui/services/AccountRegistry.js`,
`ui/services/auth/AuthBootstrapService.js`, `ui/stores/SessionStore.js`).

A browser keeps its accounts in slots of one key-value storage. The keystore of a slot lies under
the key of the slot, the recovery envelope next to it under a key of its own, and so do the
preferences and the avatar; which slots there are, and which account each is known to hold, is a
registry under one more key. The messages of an account lie elsewhere, in a database that is named
after the account and not after the slot, and sealed under a key of the slot's device.

What the page knows of the session is in the session store; the account that is unlocked, and the
client of its chat runtime, are held beside it. Next to these is kept what the statements are
about, and no step reads it (`Watch`).

The SDK derives ids from keys. An id is never blank, and never has a space at an end.
-/
import RezChat.Inbox.Frame
import RezChat.Contacts.Store
import RezChat.Lib.Sealing
import RezChat.Lib.Tasks

set_option autoImplicit false

namespace RezChat.Browser

open RezChat.Task

open Inbox (trim trim_trim)

/-! ## What is stored -/

/-- An id of an account or a device. -/
def IsId (s : String) : Prop := trim s = s ∧ s ≠ ""

instance (s : String) : Decidable (IsId s) := inferInstanceAs (Decidable (_ ∧ _))

/-- What a keystore opens to. The account of a linked device has no private identity key. -/
structure Account where
  accountId : String
  deviceId : String
  identityPrivateKeyB64 : Option String
  devicePrivateKeyB64 : String
  accountId_isId : IsId accountId
  deviceId_isId : IsId deviceId
  deriving DecidableEq

/-- What the browser needs of the SDK: the id of the account that a recovery phrase is for, if it
is one, and its private key. -/
structure Sdk where
  accountIdOf : String → Option { s : String // IsId s }
  privateKeyOf : String → String

structure Entry where
  id : String
  label : String
  accountIdHint : Option String
  deriving DecidableEq

inductive Value where
  | keystore (envelope : Sealed String Account)
  | phrase (envelope : Sealed String String)
  | registry (entries : List Entry)
  | flag (b : Bool)
  | text (s : String)
  deriving DecidableEq

/-- It is what a keystore store holds. -/
def Value.isEnvelope : Value → Bool
  | keystore _ => true
  | phrase _ => true
  | _ => false

/-- The account in it, for the password it was sealed under. -/
def Value.openAccount (password : String) : Value → Option Account
  | keystore envelope => envelope.opened password
  | _ => none

/-- `openBrowserRecoveryMnemonic`. -/
def Value.openMnemonic (password : String) : Value → Option String
  | phrase envelope => envelope.opened password
  | _ => none

def defaultAccountKey : String := "default"
def registryKey : String := "rez:account-hints"

/-- The key of the keystore of a slot. -/
def keystoreKey (accountId : String) : String :=
  if accountId = "" then defaultAccountKey else accountId

/-- The key of its recovery envelope. -/
def recoveryKey (accountId : String) : String := "recovery:" ++ keystoreKey accountId

def localOnlyKey (storeKey : String) : String := "keystoreLocalOnly:" ++ storeKey
def avatarKey (id : String) : String := "avatar:" ++ id
def avatarDataKey (id : String) : String := "avatarData:" ++ id

/-- `browserChatRuntimeDbName`. -/
def browserChatRuntimeDbName (accountId : String) : String := "rez-chat-runtime:" ++ trim accountId

/-- The secret that the runtime's storage key is derived from, with the salt. -/
abbrev StorageSecret : Type := String × String

/-- What `bootstrapBrowserChatRuntime` derives the key from that an account's database is sealed
under. -/
def Account.storageSecret (a : Account) : StorageSecret :=
  match a.identityPrivateKeyB64 with
  | some privateKeyB64 => ("rez:chat-server:storage:v1", privateKeyB64)
  | none => ("rez:chat-server:storage:delegated:v1", a.devicePrivateKeyB64)

/-! ## Keys -/

/-- What is stored of a slot. -/
inductive Part where
  | keystore
  | recovery
  | localOnly
  | avatar
  | avatarData
  deriving DecidableEq

def Part.key (slot : String) : Part → String
  | keystore => keystoreKey slot
  | recovery => recoveryKey slot
  | localOnly => localOnlyKey slot
  | avatar => avatarKey slot
  | avatarData => avatarDataKey slot

/-- The slots that the browser makes. -/
def IsSlot (slot : String) : Prop :=
  slot = defaultAccountKey ∨ ∃ nowMs : Nat, slot = "account-" ++ toString nowMs

/-- A key tells which part it is for, by its first letters. -/
def partOf (key : String) : Option Part :=
  match key.toList with
  | 'd' :: _ => some .keystore
  | 'a' :: 'c' :: _ => some .keystore
  | 'r' :: 'e' :: 'c' :: _ => some .recovery
  | 'k' :: _ => some .localOnly
  | 'a' :: 'v' :: 'a' :: 't' :: 'a' :: 'r' :: ':' :: _ => some .avatar
  | 'a' :: 'v' :: 'a' :: 't' :: 'a' :: 'r' :: 'D' :: _ => some .avatarData
  | _ => none

theorem IsSlot.ne_empty {slot : String} (h : IsSlot slot) : slot ≠ "" := by
  rintro rfl
  rcases h with h | ⟨n, h⟩
  · exact absurd h (by decide)
  · have hlength := congrArg String.length h
    rw [String.length_append] at hlength
    have hseven : "account-".length = 8 := by decide
    have hzero : "".length = 0 := by decide
    omega

theorem IsSlot.keystoreKey {slot : String} (h : IsSlot slot) : keystoreKey slot = slot :=
  if_neg h.ne_empty

theorem partOf_key {slot : String} (h : IsSlot slot) (part : Part) :
    partOf (part.key slot) = some part := by
  cases part with
  | keystore =>
    show partOf (Browser.keystoreKey slot) = _
    rw [h.keystoreKey]
    rcases h with rfl | ⟨n, rfl⟩
    · rfl
    · unfold partOf
      simp
  | recovery =>
    show partOf ("recovery:" ++ _) = _
    unfold partOf
    simp
  | localOnly =>
    show partOf ("keystoreLocalOnly:" ++ _) = _
    unfold partOf
    simp
  | avatar =>
    show partOf ("avatar:" ++ _) = _
    unfold partOf
    simp
  | avatarData =>
    show partOf ("avatarData:" ++ _) = _
    unfold partOf
    simp

/-- **Keys do not collide.** Neither two parts of a slot nor two slots share a key. -/
theorem key_inj {slot slot' : String} {part part' : Part} (h : IsSlot slot) (h' : IsSlot slot')
    (hkey : part.key slot = part'.key slot') : part = part' ∧ slot = slot' := by
  have hpart : part = part' := by
    have := partOf_key h part
    rw [hkey, partOf_key h' part', Option.some_inj] at this
    exact this.symm
  subst hpart
  refine ⟨rfl, ?_⟩
  cases part with
  | keystore => rwa [Part.key, Part.key, h.keystoreKey, h'.keystoreKey] at hkey
  | recovery =>
    have := (String.append_right_inj _).1 hkey
    rwa [h.keystoreKey, h'.keystoreKey] at this
  | localOnly => exact (String.append_right_inj _).1 hkey
  | avatar => exact (String.append_right_inj _).1 hkey
  | avatarData => exact (String.append_right_inj _).1 hkey

theorem key_ne_registryKey {slot : String} (h : IsSlot slot) (part : Part) :
    part.key slot ≠ registryKey := by
  intro hkey
  have := partOf_key h part
  rw [hkey] at this
  exact absurd this (by simp [partOf, registryKey])

/-- The two envelopes of a slot are apart, whatever it is called. -/
theorem recoveryKey_ne_keystoreKey (slot : String) : recoveryKey slot ≠ keystoreKey slot := by
  intro h
  have hlength := congrArg String.length h
  rw [recoveryKey, String.length_append] at hlength
  have hnine : "recovery:".length = 9 := by decide
  omega

/-! ## The session store -/

/-- `SESSION_STATUS`. -/
inductive SessionStatus where
  | noKeystore
  | locked
  | unlocking
  | initializing
  | unlocked
  | locking
  deriving DecidableEq

structure SessionStore where
  status : SessionStatus
  accountId : Option String
  deviceId : Option String
  accountList : List Entry
  selectedAccountId : Option String

namespace SessionStore

def setNoKeystore (s : SessionStore) : SessionStore :=
  { s with
    status := .noKeystore
    accountId := none
    deviceId := none
    accountList := []
    selectedAccountId := none }

def setLocked (s : SessionStore) : SessionStore :=
  { s with status := .locked, accountId := none, deviceId := none }

def setUnlocking (s : SessionStore) : SessionStore := { s with status := .unlocking }

def setUnlocked (accountId deviceId : String) (s : SessionStore) : SessionStore :=
  { s with status := .unlocked, accountId := some accountId, deviceId := some deviceId }

def setLocking (s : SessionStore) : SessionStore := { s with status := .locking }

def setAccountList (accountList : List Entry) (s : SessionStore) : SessionStore :=
  { s with accountList := accountList }

def setSelectedAccountId (selectedAccountId : String) (s : SessionStore) : SessionStore :=
  { s with
    selectedAccountId := if trim selectedAccountId = "" then none else some (trim selectedAccountId) }

/-- `isUnlocked`. -/
def isUnlocked (s : SessionStore) : Prop := s.status = .unlocked

end SessionStore

/-! ## The browser -/

/-- A client of a chat runtime, with the account it was built for. -/
structure Client where
  number : Nat
  account : Account

/-- What no step reads. -/
structure Watch where
  /-- The locks that were called and are not done, with no authentication since. -/
  locking : List Nat
  /-- Those of them that let the account go. -/
  cleared : List Nat
  /-- A lock is done, and no authentication was started since it was called. -/
  secured : Bool
  /-- The clients that are being closed. -/
  closing : List Nat
  /-- After a lock let the account go, a call that is older than the lock unlocked one. -/
  outrun : Bool
  /-- A client was put where one was that runs, or came to run when it was not held any more or a
  lock had been called. -/
  crossed : Bool
  /-- A client runs on although it was closed. -/
  leaked : Bool
  /-- A lock was done while a client was still being closed by another call, or let an account be. -/
  hasty : Bool
  /-- A call failed where it had kept an account, or let one go, and shows one as unlocked. -/
  halfway : Bool

structure World where
  storage : String → Option Value
  databases : String → List (Sealed StorageSecret String)
  session : SessionStore
  account : Option Account
  pendingServerSyncEnvelope : Option Value
  runtimeConnectSeq : Nat
  sdkClient : Option Client
  connectedIdentity : Option (String × String)
  nextClient : Nat
  /-- The clients that are bootstrapped, and not closed. -/
  bootstrapped : List Nat
  /-- The clients whose chat runtime was started and was not stopped since. -/
  running : List Nat
  watch : Watch

namespace World

def put (w : World) (key : String) (value : Value) : World :=
  { w with storage := fun k => if k = key then some value else w.storage k }

def del (w : World) (key : String) : World :=
  { w with storage := fun k => if k = key then none else w.storage k }

/-- The envelope under a key. -/
def envelope (w : World) (key : String) : Option Value := (w.storage key).filter Value.isEnvelope

/-- The slots, as `listAccounts` gives them. -/
def registry (w : World) : List Entry :=
  match w.storage registryKey with
  | some (.registry entries) => entries
  | _ => []

/-- A lock let the account go, and no authentication was started since it was called. -/
def shut (w : World) : Bool := w.watch.secured || !w.watch.cleared.isEmpty

/-- The account that was unlocked is kept, and the page is told. -/
def keepAccount (account : Account) (storeKey : String) (w : World) : World :=
  { w with
    account := some account
    session := (w.session.setUnlocked (trim account.accountId)
      (trim account.deviceId)).setSelectedAccountId storeKey
    watch := { w.watch with outrun := w.watch.outrun || w.shut } }

/-- A call fails. -/
def failing (w : World) : World :=
  { w with
    watch := { w.watch with halfway := w.watch.halfway || decide (w.session.status = .unlocked) } }

/-- What the page is told of the session. -/
def onSession (f : SessionStore → SessionStore) (w : World) : World :=
  { w with session := f w.session }

theorem put_storage (w : World) (key k : String) (value : Value) :
    (w.put key value).storage k = if k = key then some value else w.storage k := rfl

theorem del_storage (w : World) (key k : String) :
    (w.del key).storage k = if k = key then none else w.storage k := rfl

end World

/-! ## The registry -/

/-- `AccountRegistry.addAccount`: a new slot, or a new label of one that is there. -/
def registered (id label : String) (entries : List Entry) : List Entry :=
  let named := if trim label = "" then "Account" else trim label
  if entries.any (fun e => e.id = id) then
    entries.map fun e => if e.id = id then { e with label := named } else e
  else entries ++ [⟨id, named, none⟩]

/-- `AccountRegistry.setAccountIdHint`. -/
def hinted (id accountIdHint : String) (entries : List Entry) : List Entry :=
  entries.map fun e =>
    if e.id = id then
      { e with accountIdHint := if trim accountIdHint = "" then none else some (trim accountIdHint) }
    else e

/-- `AccountRegistry.removeAccount`. -/
def unregistered (id : String) (entries : List Entry) : List Entry :=
  entries.filter fun e => e.id ≠ id

def getRegistry : Task World (List Entry) := await fun w => (w.registry, w)

def setRegistry (entries : List Entry) : Task World Unit :=
  await fun w => ((), w.put registryKey (.registry entries))

/-- `listAccounts`. -/
def listAccounts : Task World (List Entry) := called getRegistry

/-- `addAccount`. -/
def addAccount (id label : String) : Task World Unit := called do
  let entries ← getRegistry
  if trim id = "" then failed
  else setRegistry (registered (trim id) label entries)

/-- `setAccountIdHint`. -/
def setAccountIdHint (id accountIdHint : String) : Task World Unit := called do
  let entries ← getRegistry
  if trim id = "" ∨ ¬entries.any (fun e => e.id = trim id) then pure ()
  else setRegistry (hinted (trim id) accountIdHint entries)

/-- `removeAccount`. -/
def removeAccount (id : String) : Task World Unit := called do
  let entries ← getRegistry
  if trim id = "" then failed
  else setRegistry (unregistered (trim id) entries)

/-! ## Keystores and preferences -/

def hasKeystore (key : String) : Task World Bool :=
  await fun w => ((w.envelope key).isSome, w)

def getKeystoreEnvelope (key : String) : Task World (Option Value) :=
  await fun w => (w.envelope key, w)

def putKeystoreEnvelope (key : String) (value : Value) : Task World Unit :=
  await fun w => ((), w.put key value)

def clearKeystore (key : String) : Task World Unit := await fun w => ((), w.del key)

/-- `unlockKeystoreAccount`. -/
def unlockKeystoreAccount (password key : String) : Task World Account := do
  let envelope ← getKeystoreEnvelope key
  compute (envelope.bind (Value.openAccount password))

/-- `createKeystoreAccount` and `createDelegatedKeystoreAccount`: the account is sealed and put in
the store. -/
def createKeystoreAccount (password key : String) (account : Account) : Task World Unit :=
  putKeystoreEnvelope key (.keystore ⟨password, account⟩)

/-- `getLocalOnlyKeystoreSync`: what cannot be read is not set. -/
def getLocalOnlyKeystoreSync (storeKey : String) : Task World Bool :=
  called (tryCatch (pure false)
    (await fun w => (decide (w.storage (localOnlyKey storeKey) = some (.flag true)), w)))

/-- `setLocalOnlyKeystoreSync`. -/
def setLocalOnlyKeystoreSync (storeKey : String) (enabled : Bool) : Task World Unit :=
  called (tryCatch (pure ())
    (await fun w => ((), w.put (localOnlyKey storeKey) (.flag enabled))))

/-- `deleteAccountMetadata`. -/
def deleteAccountMetadata (id : String) : Task World Unit := called do
  if trim id = "" then pure ()
  else do
    await fun w => ((), w.del (avatarKey (trim id)))
    await fun w => ((), w.del (avatarDataKey (trim id)))
    await fun w => ((), w.del (localOnlyKey (trim id)))

end RezChat.Browser
