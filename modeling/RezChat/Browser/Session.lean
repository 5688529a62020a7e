/-
The session service of a browser, and the client of its chat runtime
(`ui/services/bus/SessionService.js`, `ui/services/bus/RuntimeService.js`,
`ui/services/auth/SdkSessionService.js`, `client/runtime/BrowserChatRuntimeClient.js`).

The page calls the session service, which tells it what becomes of the session: the account service
holds the account, the session of the SDK holds the client of the runtime, and the status that the
page shows is in a third place. A call that has unlocked an account starts to connect a runtime for
it, and does not wait for that.

A client that is closed before its runtime is bootstrapped does nothing of it, and its runtime is
started all the same.
-/
import RezChat.Browser.Auth

set_option autoImplicit false

namespace RezChat.Browser

open Inbox (trim trim_trim)
open Contacts (utf16Length)

/-! ## The client of the runtime -/

namespace World

/-- A lock was called that is not done, or one was done, and no authentication was started since. -/
def dark (w : World) : Bool := w.watch.secured || !w.watch.locking.isEmpty

/-- The client `n` is the one that is held. -/
def holds (w : World) (n : Nat) : Bool := w.sdkClient.any fun c => decide (c.number = n)

/-- The client that is held is let go, and is being closed. -/
def letGo (w : World) : World :=
  { w with
    sdkClient := none
    connectedIdentity := none
    watch :=
      { w.watch with
        closing := match w.sdkClient with
          | some c => c.number :: w.watch.closing
          | none => w.watch.closing } }

/-- The client `n` is not being closed any more. -/
def closed (n : Nat) (w : World) : World :=
  { w with
    watch :=
      { w.watch with
        closing := w.watch.closing.filter (· ≠ n)
        leaked := w.watch.leaked || decide (n ∈ w.running) } }

/-- A client is built, and is held. -/
def hold (account : Account) (w : World) : World :=
  { w with
    sdkClient := some ⟨w.nextClient, account⟩
    nextClient := w.nextClient + 1
    watch :=
      { w.watch with
        crossed := w.watch.crossed ||
          w.running.any fun n => w.holds n && decide (n ∉ w.watch.closing) } }

def bootstrap (n : Nat) (w : World) : World := { w with bootstrapped := n :: w.bootstrapped }

/-- The chat runtime of the client `n` runs. -/
def run (n : Nat) (w : World) : World :=
  { w with
    running := n :: w.running
    watch := { w.watch with crossed := w.watch.crossed || w.dark || !w.holds n } }

/-- It does not run any more. -/
def stop (n : Nat) (w : World) : World := { w with running := w.running.filter (· ≠ n) }

def unbootstrap (n : Nat) (w : World) : World :=
  { w with bootstrapped := w.bootstrapped.filter (· ≠ n) }

/-- The session service tells the page that an account is unlocked. -/
def showUnlocked (u : Unlocked) (w : World) : World :=
  { w.onSession (SessionStore.setUnlocked u.accountId u.deviceId) with
    watch := { w.watch with outrun := w.watch.outrun || w.shut } }

def nextConnect (w : World) : World := { w with runtimeConnectSeq := w.runtimeConnectSeq + 1 }

/-- An authentication is started, and the locks before it are over. -/
def authStarted (w : World) : World :=
  { w with watch := { w.watch with locking := [], cleared := [], secured := false } }

def lockCalled (i : Nat) (w : World) : World :=
  { w with watch := { w.watch with locking := i :: w.watch.locking } }

/-- The lock `i` lets the account go, if it still counts. -/
def lockClears (i : Nat) (w : World) : World :=
  { w with
    watch :=
      { w.watch with
        cleared := if i ∈ w.watch.locking then i :: w.watch.cleared else w.watch.cleared } }

/-- The lock `i` was rejected. -/
def lockFailed (i : Nat) (w : World) : World :=
  { w with
    watch :=
      { w.watch with
        locking := w.watch.locking.filter (· ≠ i)
        cleared := w.watch.cleared.filter (· ≠ i) } }

/-- The lock `i` is done. -/
def lockDone (i : Nat) (w : World) : World :=
  if i ∈ w.watch.locking then
    { w with
      watch :=
        { w.watch with
          locking := w.watch.locking.filter (· ≠ i)
          cleared := w.watch.cleared.filter (· ≠ i)
          secured := true
          hasty := w.watch.hasty || !w.running.isEmpty } }
  else w

/-- A page that is loaded. -/
def reloaded (w : World) : World :=
  { w with
    session := ⟨.noKeystore, none, none, [], none⟩
    account := none
    pendingServerSyncEnvelope := none
    runtimeConnectSeq := 0
    sdkClient := none
    connectedIdentity := none
    bootstrapped := []
    running := []
    watch := ⟨[], [], false, [], false, false, false, false, false⟩ }

end World

/-- `BrowserChatRuntimeClient.close`. -/
def closeRuntime (n : Nat) : Task World Unit := Task.called do
  let w ← Task.get
  if n ∈ w.bootstrapped then do
    Task.await fun w => ((), w.stop n)
    Task.modify (World.unbootstrap n)
  else pure ()

/-- `BrowserChatRuntimeClient.connect`, of a client that is not connected. -/
def connectRuntime (n : Nat) : Task World Unit := Task.called do
  Task.await fun w => ((), w)
  Task.modify (World.bootstrap n)
  Task.await fun w => ((), w.run n)

/-- `_closeClient`. A client that cannot be closed is let be. -/
def closeClient : Task World Unit := Task.called do
  let w ← Task.get
  Task.modify World.letGo
  match w.sdkClient with
  | none => pure ()
  | some c => do
    Task.tryCatch (pure ()) (closeRuntime c.number)
    Task.modify (World.closed c.number)

/-- The ids that a session is known by. -/
abbrev Identity : Type := String × String

def Account.identity (a : Account) : Identity := (trim a.accountId, trim a.deviceId)

/-- `_connectClient`: the client that is held, if it is connected for the account, or a new one. -/
def connectClientFor (account : Account) : Task World Identity := Task.called do
  let w ← Task.get
  match w.sdkClient.filter (fun _ => decide (w.connectedIdentity = some account.identity)) with
  | some c => do
    Task.modify fun w => { w with connectedIdentity := some c.account.identity }
    pure c.account.identity
  | none => do
    closeClient
    let w ← Task.get
    Task.modify (World.hold account)
    connectRuntime w.nextClient
    Task.modify fun w => { w with connectedIdentity := some account.identity }
    pure account.identity

/-- `connectClient`. -/
def connectClient : Task World Identity := Task.called do
  let w ← Task.get
  match w.account with
  | none => Task.failed
  | some account => do
    let identity ← connectClientFor account
    Task.modify fun w => { w with pendingServerSyncEnvelope := none }
    pure identity

/-- `RuntimeService.connect`. -/
def connect : Task World Identity := Task.called do
  let identity ← connectClient
  let w ← Task.get
  if w.sdkClient.isNone then Task.failed
  else pure identity

/-- `RuntimeService.disconnect`. -/
def disconnect : Task World Unit := Task.called (Task.called closeClient)

/-- `_disconnectRuntimeForAuthOperation`. -/
def disconnectRuntimeForAuthOperation : Task World Unit := Task.called disconnect

/-! ## The session service -/

/-- `_resolveAccountId`. -/
def resolveAccountId (s : SessionStore) : String :=
  match s.selectedAccountId.filter (· ≠ "") with
  | some selected => trim selected
  | none => trim (s.accountId.getD "")

/-- The account that a deletion is for. -/
def purgeTarget (accountId : Option String) (s : SessionStore) : String :=
  if trim (accountId.getD "") ≠ "" then trim (accountId.getD "") else resolveAccountId s

/-- The page is told that the session is locked, unless it was told something else since. -/
def relock (w : World) : World :=
  if w.session.status = .unlocking then w.onSession SessionStore.setLocked else w

/-- What a session call that was rejected does. -/
def orRelock {α : Type} (t : Task World α) : Task World α :=
  Task.tryCatch (do
    Task.modify relock
    Task.failed) t

/-- `_completeUnlock`: the number of the connect that is started. -/
def completeUnlock (u : Unlocked) : Task World (Option Nat) := do
  Task.modify (World.showUnlocked u)
  Task.modify World.nextConnect
  let w ← Task.get
  pure (some w.runtimeConnectSeq)

namespace Session

/-- `unlock`. -/
def unlock (sdk : Sdk) (accountId : Option String) (password : String) :
    Task World (Option Nat) := do
  Task.modify World.authStarted
  Task.modify (World.onSession SessionStore.setUnlocking)
  orRelock do
    let unlocked ← Task.called (Browser.unlock sdk accountId password)
    completeUnlock unlocked

/-- `createAccount`. -/
def createAccount (sdk : Sdk) (call : CreateCall) (confirmPassword : String) :
    Task World (Option Nat) := do
  Task.modify World.authStarted
  if call.password ≠ confirmPassword then pure none
  else do
    Task.modify (World.onSession SessionStore.setUnlocking)
    let unlocked ← Task.called (Browser.createAccount sdk call)
    completeUnlock unlocked

/-- `linkDevice`. -/
def linkDevice (sdk : Sdk) (call : LinkCall) (confirmPassword : String) :
    Task World (Option Nat) := do
  Task.modify World.authStarted
  if call.password ≠ confirmPassword then pure none
  else do
    Task.modify (World.onSession SessionStore.setUnlocking)
    let unlocked ← Task.called (Browser.linkDevice sdk call)
    completeUnlock unlocked

/-- `restoreWithMnemonic`. -/
def restoreWithMnemonic (sdk : Sdk) (call : RestoreCall) : Task World (Option Nat) := do
  Task.modify World.authStarted
  Task.modify World.nextConnect
  disconnectRuntimeForAuthOperation
  Task.modify (World.onSession SessionStore.setUnlocking)
  orRelock do
    let unlocked ← Task.called (Browser.restoreWithMnemonic sdk call)
    completeUnlock unlocked

/-- `changePassword`. -/
def changePassword (oldPassword newPassword : String) : Task World (Option Nat) := do
  let w ← Task.get
  let accountId := resolveAccountId w.session
  if accountId = "" then Task.failed
  else do
    Task.modify World.nextConnect
    disconnectRuntimeForAuthOperation
    let _ ← Task.called (Browser.changePassword (some accountId) oldPassword newPassword)
    pure none

/-- `purgeAccount`. -/
def purgeAccount (accountId : Option String) (password : String) : Task World (Option Nat) := do
  let w ← Task.get
  let targetId := purgeTarget accountId w.session
  if targetId = "" then Task.failed
  else do
    Task.modify World.nextConnect
    disconnectRuntimeForAuthOperation
    let _ ← Task.called (Browser.purgeAccount (some targetId) password)
    pure none

/-- `lock`, the call with the number `i`. -/
def lock (i : Nat) : Task World (Option Nat) := do
  Task.modify (World.lockCalled i)
  Task.modify World.nextConnect
  Task.tryCatch (do
    Task.modify (World.lockFailed i)
    Task.failed) do
    disconnectRuntimeForAuthOperation
    Task.modify (World.lockClears i)
    Task.called logout
    Task.modify (World.lockDone i)
    pure none

/-- `_connectRuntimeAfterUnlock`. -/
def connectRuntimeAfterUnlock (connectSeq : Nat) : Task World Unit := do
  let connected ← Task.called connect
  Task.modify fun w =>
    if connectSeq = w.runtimeConnectSeq ∧ w.session.status = .unlocked then
      w.onSession (SessionStore.setUnlocked connected.1 connected.2)
    else w

end Session

/-! ## What leaves the session alone -/

/-- Only what is stored is another. -/
def Stored (w s : World) : Prop :=
  ∃ storage databases, s = { w with storage := storage, databases := databases }

theorem Stored.refl (w : World) : Stored w w := ⟨w.storage, w.databases, rfl⟩

theorem Stored.trans {w s s' : World} (h : Stored w s) (h' : Stored s s') : Stored w s' := by
  obtain ⟨storage, databases, rfl⟩ := h
  obtain ⟨storage', databases', rfl⟩ := h'
  exact ⟨storage', databases', rfl⟩

section Stored

open RezChat.Task

theorem stored_read {α : Type} (f : World → α) : Within Stored (Task.await fun w => (f w, w)) :=
  within_await Stored.refl

theorem stored_put (key : String) (v : World → Value) :
    Within Stored (Task.await fun w => ((), w.put key (v w))) :=
  within_await fun w => ⟨(w.put key (v w)).storage, w.databases, rfl⟩

theorem stored_clearKeystore (key : String) : Within Stored (clearKeystore key) :=
  within_await fun w => ⟨(w.del key).storage, w.databases, rfl⟩

theorem stored_listAccounts : Within Stored listAccounts := within_called (stored_read _)

theorem stored_addAccount (id label : String) : Within Stored (addAccount id label) := by
  refine within_called (within_bind (stored_read _) fun entries => ?_)
  split
  · exact within_failed
  · exact stored_put _ _

theorem stored_setAccountIdHint (id hint : String) : Within Stored (setAccountIdHint id hint) := by
  refine within_called (within_bind (stored_read _) fun entries => ?_)
  split
  · exact within_pure ()
  · exact stored_put _ _

theorem stored_removeAccount (id : String) : Within Stored (removeAccount id) := by
  refine within_called (within_bind (stored_read _) fun entries => ?_)
  split
  · exact within_failed
  · exact stored_put _ _

theorem stored_unlockKeystoreAccount (password key : String) :
    Within Stored (unlockKeystoreAccount password key) :=
  within_bind (stored_read _) fun _ => within_compute _

theorem stored_getLocalOnly (storeKey : String) :
    Within Stored (getLocalOnlyKeystoreSync storeKey) :=
  within_called (within_tryCatch (within_pure false) (stored_read _))

theorem stored_checkRecovery (sdk : Sdk) (storeKey password : String) (account : Account) :
    Within Stored (checkRecovery sdk storeKey password account) := by
  refine within_bind (stored_read _) fun has => ?_
  split
  · refine within_bind (stored_read _) fun envelope => within_bind (within_compute _) fun mnemonic =>
      within_bind (within_compute _) fun accountId => ?_
    split
    · exact within_failed
    · exact within_pure ()
  · exact within_pure ()

theorem stored_cleanup (storeKey : String) (recovery registryAdded : Bool) :
    Within Stored (cleanupFailedBrowserAccount storeKey recovery registryAdded) := by
  have clears : ∀ key, Within Stored (Task.tryCatch (pure ()) (clearKeystore key)) := fun key =>
    within_tryCatch (within_pure ()) (stored_clearKeystore key)
  have unregisters : Within Stored (if registryAdded = true then
      Task.tryCatch (pure ()) (removeAccount storeKey) else pure ()) := by
    split
    · exact within_tryCatch (within_pure ()) (stored_removeAccount storeKey)
    · exact within_pure ()
  refine within_called (within_bind (clears _) fun _ => ?_)
  dsimp only
  split
  · exact within_bind (clears _) fun _ => unregisters
  · exact unregisters

theorem stored_orCleanUp {α : Type} {cleanup : Task World Unit} {t : Task World α}
    (hcleanup : Within Stored cleanup) (ht : Within Stored t) : Within Stored (orCleanUp cleanup t) :=
  within_tryCatch (within_bind hcleanup fun _ => within_failed) ht

theorem stored_deleteAccountMetadata (id : String) : Within Stored (deleteAccountMetadata id) := by
  refine within_called ?_
  split
  · exact within_pure ()
  · exact within_bind (stored_clearKeystore _) fun _ => within_bind (stored_clearKeystore _) fun _ =>
      stored_clearKeystore _

theorem stored_rewrite (r : Resealed) : Within Stored (rewrite r) := by
  refine within_bind (stored_put _ _) fun _ => within_tryCatch (within_bind ?_ fun _ => within_failed)
    (stored_put _ _)
  unfold rollback
  split
  · exact within_tryCatch (within_pure ()) (stored_put _ _)
  · exact within_pure ()

theorem stored_createSlot (sdk : Sdk) (call : CreateCall) : Within Stored (createSlot sdk call) := by
  unfold createSlot
  split
  · exact within_failed
  · refine within_bind stored_listAccounts fun list => within_bind (stored_read _) fun has => ?_
    dsimp only
    split
    · exact within_failed
    · refine within_bind (within_compute _) fun mnemonic => within_bind (within_compute _) fun id =>
        within_bind (within_compute _) fun envelope => within_bind (stored_put _ _) fun _ =>
        within_bind (stored_orCleanUp (stored_cleanup _ _ _)
          (within_bind (stored_put _ _) fun _ => stored_addAccount _ _)) fun _ => ?_
      split
      · exact within_bind (within_called (within_tryCatch (within_pure ()) (stored_put _ _))) fun _ =>
          within_pure _
      · exact within_pure _

theorem stored_linkSlot (call : LinkCall) : Within Stored (linkSlot call) := by
  have hpersist : ∀ storeKey, Within Stored (persistLinkedDevice storeKey call.password
      (trim call.profileName) call.ceremony.delegation) := by
    intro storeKey
    unfold persistLinkedDevice
    split
    · exact within_failed
    · exact within_bind (stored_orCleanUp (stored_cleanup _ _ _)
        (within_bind (stored_put _ _) fun _ => stored_addAccount _ _)) fun _ =>
        within_bind (stored_orCleanUp (stored_cleanup _ _ _) (stored_setAccountIdHint _ _)) fun _ =>
        within_pure _
  unfold linkSlot
  split
  · exact within_failed
  · refine within_bind stored_listAccounts fun list => within_bind (stored_read _) fun has => ?_
    dsimp only
    split
    · exact within_failed
    · refine within_bind (within_tryCatch ?_ ?_) fun linked => ?_
      · refine within_bind (stored_read _) fun stored => ?_
        split
        · exact within_bind (stored_cleanup _ _ _) fun _ => within_failed
        · exact within_failed
      · refine within_called (within_bind (within_compute _) fun _ => ?_)
        split
        · exact within_bind (within_called (hpersist _)) fun _ =>
            within_bind (within_compute _) fun _ => within_pure _
        · exact within_bind (within_compute _) fun _ => within_pure _
      · split
        · exact within_pure _
        · exact within_failed

theorem stored_restoreSlot (sdk : Sdk) (call : RestoreCall) :
    Within Stored (restoreSlot sdk call) := by
  unfold restoreSlot
  dsimp only
  split
  · exact within_failed
  · refine within_bind (within_compute _) fun id => within_bind stored_listAccounts fun list => ?_
    split
    · exact within_failed
    · refine within_bind (stored_read _) fun has => ?_
      split
      · exact within_failed
      · exact within_bind (within_compute _) fun envelope => within_bind (stored_put _ _) fun _ =>
          within_bind (stored_orCleanUp (stored_cleanup _ _ _)
            (within_bind (stored_put _ _) fun _ => stored_addAccount _ _)) fun _ =>
          within_bind (stored_orCleanUp (stored_cleanup _ _ _) (stored_setAccountIdHint _ _)) fun _ =>
          within_pure _

end Stored

end RezChat.Browser
