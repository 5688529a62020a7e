/-
Creating, linking, unlocking, restoring and deleting an account in a browser
(`ui/services/auth/AccountAuthService.js`).

A call waits at every read and write of the storage and at every step of the cryptography, and
others may come between. What a call is given from outside the program is an argument of it: the
time, the new phrase and the new device key, and what becomes of the ceremony in which a device is
linked.
-/
import RezChat.Browser.Accounts

set_option autoImplicit false

namespace RezChat.Browser

open RezChat.Task SessionStore World Value

open Inbox (trim trim_trim)
open Contacts (utf16Length)

/-- What `unlock` returns. -/
structure Unlocked where
  accountId : String
  deviceId : String
  deriving DecidableEq

/-- What a new device brings with it. -/
structure DeviceKeys where
  deviceId : { s : String // IsId s }
  privateKeyB64 : String

/-- The account that is created for an identity on a device. -/
def rootAccount (accountId : { s : String // IsId s }) (privateKeyB64 : String)
    (device : DeviceKeys) : Account where
  accountId := accountId.1
  deviceId := device.deviceId.1
  identityPrivateKeyB64 := some privateKeyB64
  devicePrivateKeyB64 := device.privateKeyB64
  accountId_isId := accountId.2
  deviceId_isId := device.deviceId.2

/-- The slot of a new account. -/
def newStoreKey (accounts : List Entry) (nowMs : Nat) : String :=
  if accounts.isEmpty then defaultAccountKey else "account-" ++ toString nowMs

theorem isSlot_newStoreKey (accounts : List Entry) (nowMs : Nat) :
    IsSlot (newStoreKey accounts nowMs) := by
  unfold newStoreKey
  cases accounts.isEmpty with
  | true => exact Or.inl rfl
  | false => exact Or.inr ⟨nowMs, rfl⟩

/-! ## Which slot -/

/-- The slot that `unlock` opens. -/
def unlockSlot (accountId : Option String) (s : SessionStore) : String :=
  match accountId.filter (fun id => decide (trim id ≠ "")) with
  | some id => trim id
  | none =>
    match s.selectedAccountId.filter (· ≠ "") with
    | some selected => selected
    | none =>
      match s.accountList.head?.filter (fun e => decide (e.id ≠ "")) with
      | some e => e.id
      | none => defaultAccountKey

/-- `_resolveStoreKey`. -/
def resolveStoreKey (accountId : Option String) (s : SessionStore) : String :=
  let explicit := trim (accountId.getD "")
  let selected := trim (s.selectedAccountId.getD "")
  match s.accountList.find? (fun e => e.id = explicit ∨ e.accountIdHint = some explicit) with
  | some e =>
    if e.id ≠ "" then e.id
    else if explicit ≠ "" then explicit
    else if selected ≠ "" then selected
    else defaultAccountKey
  | none =>
    if explicit ≠ "" then explicit
    else if selected ≠ "" then selected
    else defaultAccountKey

/-- The slot that `logout` looks at. -/
def logoutSlot (s : SessionStore) : String :=
  match s.selectedAccountId.filter (· ≠ "") with
  | some selected => selected
  | none =>
    match s.accountList.head?.filter (fun e => decide (e.id ≠ "")) with
    | some e => e.id
    | none => defaultAccountKey

/-! ## Unlocking -/

/-- Where a recovery envelope is next to the keystore, it is to open under the same password, to a
phrase for the same account. -/
def checkRecovery (sdk : Sdk) (storeKey password : String) (account : Account) : Task World Unit := do
  let has ← hasKeystore (recoveryKey storeKey)
  if has = true then do
    let envelope ← getKeystoreEnvelope (recoveryKey storeKey)
    let mnemonic ← compute (envelope.bind (openMnemonic password))
    let accountId ← compute (sdk.accountIdOf mnemonic)
    if accountId.1 ≠ account.accountId then failed
    else pure ()
  else pure ()

/-- A step that leaves a call halfway if it fails. -/
def halfway {α : Type} (t : Task World α) : Task World α :=
  tryCatch (do
    modify failing
    failed) t

theorem wp_halfway {α : Type} {t : Task World α} {w : World} {R : α → World → Prop}
    {E D : World → Prop} (ht : Proc.wp (exec t) R (fun s => E s.failing) D w) :
    Proc.wp (exec (halfway t)) R E D w :=
  wp_caught ht fun _ hs => wp_modified (Proc.wp_throw hs)

theorem keeps_halfway {α : Type} {t : Task World α} {I : World → Prop} {Q : α → Prop}
    (hI : ∀ w, I w → I w.failing) (ht : Task.Keeps I t Q) : Task.Keeps I (halfway t) Q :=
  keeps_tryCatch ht (keeps_bind (keeps_modify hI) fun _ _ => keeps_failed)

/-- What `unlock` does with an account that has opened. -/
def admitAccount (account : Account) (storeKey : String) (envelope : Value) (isLocalOnly : Bool) :
    Task World Unlocked := do
  modify fun w => w.keepAccount account storeKey
  halfway (setAccountIdHint storeKey (trim account.accountId))
  modify fun w =>
    { w with pendingServerSyncEnvelope := if isLocalOnly = true then none else some envelope }
  pure ⟨trim account.accountId, trim account.deviceId⟩

/-- `unlock`. An account that opens has its ids, so they are not looked at once more. -/
def unlock (sdk : Sdk) (accountId : Option String) (password : String) : Task World Unlocked :=
  let pwd := trim password
  if pwd = "" then failed
  else do
    let w ← get
    let resolvedId := unlockSlot accountId w.session
    let isLocalOnly ← getLocalOnlyKeystoreSync resolvedId
    let envelope ← getKeystoreEnvelope (keystoreKey resolvedId)
    match envelope with
    | none => do
      modify (onSession setNoKeystore)
      failed
    | some envelope => do
      modify (onSession setUnlocking)
      tryCatch (do
        modify (onSession setLocked)
        failed) do
        let account ← unlockKeystoreAccount pwd (keystoreKey resolvedId)
        checkRecovery sdk resolvedId pwd account
        admitAccount account resolvedId envelope isLocalOnly

/-- `logout`. -/
def logout : Task World Unit := do
  let w ← get
  if w.session.status = .noKeystore then
    modify fun w =>
      { w.onSession setNoKeystore with
        watch := { w.watch with hasty := w.watch.hasty || w.account.isSome } }
  else do
    modify fun w =>
      { w.onSession setLocking with account := none, pendingServerSyncEnvelope := none }
    let envelope ← getKeystoreEnvelope (keystoreKey (logoutSlot w.session))
    let entries ← listAccounts
    modify (onSession (setAccountList entries))
    match envelope with
    | some _ => modify (onSession setLocked)
    | none => modify (onSession setNoKeystore)

/-! ## New accounts -/

/-- `_cleanupFailedBrowserAccount`: what cannot be cleared is left. -/
def cleanupFailedBrowserAccount (storeKey : String) (recovery registryAdded : Bool) :
    Task World Unit := called do
  tryCatch (pure ()) (clearKeystore (keystoreKey storeKey))
  if recovery = true then tryCatch (pure ()) (clearKeystore (recoveryKey storeKey))
  if registryAdded = true then tryCatch (pure ()) (removeAccount storeKey)

/-- A step that is cleaned up after if it fails. -/
def orCleanUp {α : Type} (cleanup : Task World Unit) (t : Task World α) : Task World α :=
  tryCatch (do
    cleanup
    failed) t

/-- The list of accounts is read again, and shown. -/
def refreshAccountList : Task World Unit := do
  let entries ← listAccounts
  modify (onSession (setAccountList entries))

structure CreateCall where
  password : String
  profileName : String
  localOnly : Bool
  nowMs : Nat
  mnemonic : String
  device : DeviceKeys

/-- What `createAccount` does before it unlocks the account it created: the slot it is in. -/
def createSlot (sdk : Sdk) (call : CreateCall) : Task World String :=
  if trim call.profileName = "" ∨ call.password = "" ∨ utf16Length call.password < 8 then
    failed
  else do
    let list ← listAccounts
    let storeKey := newStoreKey list call.nowMs
    let has ← hasKeystore (keystoreKey storeKey)
    if has = true then failed
    else do
      let mnemonic ← compute (some call.mnemonic)
      let accountId ← compute (sdk.accountIdOf mnemonic)
      let recoveryEnvelope ← compute (some (phrase ⟨call.password, mnemonic⟩))
      putKeystoreEnvelope (recoveryKey storeKey) recoveryEnvelope
      orCleanUp (cleanupFailedBrowserAccount storeKey true false) do
        createKeystoreAccount call.password (keystoreKey storeKey)
          (rootAccount accountId (sdk.privateKeyOf mnemonic) call.device)
        addAccount storeKey (trim call.profileName)
      if call.localOnly = true then setLocalOnlyKeystoreSync storeKey true
      pure storeKey

/-- `createAccount`. -/
def createAccount (sdk : Sdk) (call : CreateCall) : Task World Unlocked := do
  let storeKey ← createSlot sdk call
  let result ← called (unlock sdk (some storeKey) call.password)
  refreshAccountList
  pure result

/-- What becomes of a ceremony: the account that the delegation opens to, if there is one, and
whether the SDK hands it over before it is done. -/
structure Ceremony where
  completes : Bool
  delegation : Option Account
  persists : Bool

structure LinkCall where
  linkCode : String
  password : String
  profileName : String
  nowMs : Nat
  ceremony : Ceremony

/-- `#persistLinkedDevice`. -/
def persistLinkedDevice (storeKey password profileName : String) (delegation : Option Account) :
    Task World String :=
  match delegation with
  | none => failed
  | some account => do
    orCleanUp (cleanupFailedBrowserAccount storeKey false false) do
      createKeystoreAccount password (keystoreKey storeKey) account
      addAccount storeKey profileName
    orCleanUp (cleanupFailedBrowserAccount storeKey false true)
      (setAccountIdHint storeKey account.accountId)
    pure storeKey

/-- The ceremony of a new device. Possession is confirmed only when the delegation is stored. -/
def deviceLinkRunner (ceremony : Ceremony) (persist : Option Account → Task World String) :
    Task World (Option String) := called do
  compute (if ceremony.completes = true then some () else none)
  if ceremony.persists = true then do
    let storeKey ← called (persist ceremony.delegation)
    compute (some ())
    pure (some storeKey)
  else do
    compute (some ())
    pure none

/-- What `linkDevice` does before it unlocks the account that was linked: the slot it is in. -/
def linkSlot (call : LinkCall) : Task World String :=
  if trim call.linkCode = "" ∨ trim call.profileName = "" ∨ utf16Length call.password < 8 then
    failed
  else do
    let accounts ← listAccounts
    let storeKey := newStoreKey accounts call.nowMs
    let has ← hasKeystore (keystoreKey storeKey)
    if has = true then failed
    else do
      let linked ← tryCatch (do
        let stored ← hasKeystore (keystoreKey storeKey)
        if stored = true then cleanupFailedBrowserAccount storeKey false true
        failed)
        (deviceLinkRunner call.ceremony
          (persistLinkedDevice storeKey call.password (trim call.profileName)))
      if linked = some storeKey then pure storeKey else failed

/-- `linkDevice`. -/
def linkDevice (sdk : Sdk) (call : LinkCall) : Task World Unlocked := do
  let storeKey ← linkSlot call
  let result ← called (unlock sdk (some storeKey) call.password)
  refreshAccountList
  pure result

structure RestoreCall where
  mnemonic : String
  newPassword : String
  profileName : String
  nowMs : Nat
  device : DeviceKeys

/-- What `restoreWithMnemonic` does before it unlocks the account it restored: the slot it is
in. -/
def restoreSlot (sdk : Sdk) (call : RestoreCall) : Task World String :=
  let name := if trim call.profileName = "" then "Recovered account" else trim call.profileName
  if utf16Length call.newPassword < 8 then failed
  else do
    let accountId ← compute (sdk.accountIdOf call.mnemonic)
    let accounts ← listAccounts
    if accounts.any (fun e => e.accountIdHint = some accountId.1) then failed
    else do
      let storeKey := newStoreKey accounts call.nowMs
      let has ← hasKeystore (keystoreKey storeKey)
      if has = true then failed
      else do
        let recoveryEnvelope ← compute (some (phrase ⟨call.newPassword, call.mnemonic⟩))
        putKeystoreEnvelope (recoveryKey storeKey) recoveryEnvelope
        orCleanUp (cleanupFailedBrowserAccount storeKey true false) do
          createKeystoreAccount call.newPassword (keystoreKey storeKey)
            (rootAccount accountId (sdk.privateKeyOf call.mnemonic) call.device)
          addAccount storeKey name
        orCleanUp (cleanupFailedBrowserAccount storeKey true true)
          (setAccountIdHint storeKey accountId.1)
        pure storeKey

/-- `restoreWithMnemonic`. -/
def restoreWithMnemonic (sdk : Sdk) (call : RestoreCall) : Task World Unlocked := do
  let storeKey ← restoreSlot sdk call
  let result ← called (unlock sdk (some storeKey) call.newPassword)
  refreshAccountList
  pure result

/-! ## With an account that is there -/

/-- `revealMnemonic`. -/
def revealMnemonic (accountId : Option String) (password : String) : Task World String :=
  if password = "" then failed
  else do
    let w ← get
    let storeKey := resolveStoreKey accountId w.session
    let has ← hasKeystore (recoveryKey storeKey)
    if has = false then failed
    else do
      let _ ← unlockKeystoreAccount password (keystoreKey storeKey)
      let envelope ← getKeystoreEnvelope (recoveryKey storeKey)
      compute (envelope.bind (openMnemonic password))

/-- What `changePassword` is about to write: the envelope it writes first, and the one it takes that
back with, and the one it writes second. -/
structure Resealed where
  storeKey : String
  recovery : Option Value
  nextRecovery : Value
  nextMain : Value

/-- What `changePassword` does before it writes. -/
def reseal (accountId : Option String) (oldPassword newPassword : String) : Task World Resealed :=
  if oldPassword = "" ∨ utf16Length newPassword < 8 ∨ oldPassword = newPassword then failed
  else do
    let w ← get
    let storeKey := resolveStoreKey accountId w.session
    let has ← hasKeystore (recoveryKey storeKey)
    if has = false then failed
    else do
      let main ← getKeystoreEnvelope (keystoreKey storeKey)
      let recovery ← getKeystoreEnvelope (recoveryKey storeKey)
      let mnemonic ← compute (recovery.bind (openMnemonic oldPassword))
      let account ← compute (main.bind (openAccount oldPassword))
      let nextRecovery ← compute (some (phrase ⟨newPassword, mnemonic⟩))
      pure ⟨storeKey, recovery, nextRecovery, .keystore ⟨newPassword, account⟩⟩

/-- The old recovery envelope is put back. -/
def rollback (r : Resealed) : Task World Unit :=
  match r.recovery with
  | some recovery => tryCatch (pure ()) (putKeystoreEnvelope (recoveryKey r.storeKey) recovery)
  | none => pure ()

/-- The writes of `changePassword`. -/
def rewrite (r : Resealed) : Task World Unit := do
  putKeystoreEnvelope (recoveryKey r.storeKey) r.nextRecovery
  tryCatch (do
    rollback r
    failed) (putKeystoreEnvelope (keystoreKey r.storeKey) r.nextMain)

/-- `changePassword`. -/
def changePassword (accountId : Option String) (oldPassword newPassword : String) :
    Task World String := do
  let r ← reseal accountId oldPassword newPassword
  rewrite r
  let w ← get
  called logout
  pure ((w.account.map Account.accountId).getD "")

/-- `purgeAccount`. -/
def purgeAccount (accountId : Option String) (password : String) : Task World String :=
  if password = "" then failed
  else do
    let w ← get
    let storeKey := resolveStoreKey accountId w.session
    let account ← unlockKeystoreAccount password (keystoreKey storeKey)
    await fun w =>
      ((), { w with databases := fun name =>
        if name = browserChatRuntimeDbName account.accountId then [] else w.databases name })
    clearKeystore (keystoreKey storeKey)
    clearKeystore (recoveryKey storeKey)
    deleteAccountMetadata storeKey
    removeAccount storeKey
    modify fun w => { w with account := none, pendingServerSyncEnvelope := none }
    let accounts ← halfway listAccounts
    modify (onSession (setAccountList accounts))
    match accounts with
    | [] => modify (onSession setNoKeystore)
    | e :: _ =>
      modify fun w => w.onSession fun s => (s.setSelectedAccountId e.id).setLocked
    pure account.accountId

end RezChat.Browser
