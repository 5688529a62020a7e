/-
The supervisor of the desktop (`desktop/runtime/DesktopSupervisor.js`, with `startChatServer` and
`stopChatServer` of `index.js`, and the event pump of `registerDesktopIpc.js`).

The supervisor holds the vault, a chat app, in which a chat server is started when the vault is
unlocked and stopped when it is locked, and a bridge to the bus of that server. The IPC layer above
it keeps a subscription to the bridge. All its calls wait now and then, and others may come between.

Next to that is kept what the statements are about, and no step reads it: which calls are under way
that use the vault or may start a server (`entering`), which have locked the vault and are not
done (`locking`), which servers were started and not yet attached (`launched`), or are being stopped
(`stopping`); whether a lock was reported as complete and nothing was asked for since (`secured`),
whether a connect succeeded and its server was not stopped since (`connected`), and whether the
subscription of the window is one to a bridge that was closed (`severed`). The last five say what
went wrong: a server was put where another one was, or where nobody holds it (`crossed`); a server
runs on although its stop or its start failed (`leaked`); a lock overlapped with what it is to end
(`raced`); a server was stopped under the bridge to it (`undercut`); a connect succeeded with a
subscription to a bridge that was closed (`missed`).
-/
import RezChat.Desktop.Isolation
import RezChat.Desktop.Reseal

set_option autoImplicit false

namespace RezChat.Desktop

open RezChat.Task

/-- The bridge to the bus of a server, with the subscriptions that were made over it. -/
structure BusBridge where
  server : Nat
  unsubs : List Nat

structure Supervisor where
  vault : Vault
  startRezChat : Bool
  chatApp : Option Nat
  /-- The chat server of each app. -/
  chatServerState : OrdMap Nat Nat
  chatAppStopped : List Nat
  busBridge : Option BusBridge
  lockIncomplete : Bool
  busEventUnsub : Option Nat
  /-- The subscriptions that are live, each with the server whose events it forwards. -/
  subscriptions : OrdMap Nat Nat
  running : List Nat
  nextId : Nat
  entering : List Nat
  locking : List Nat
  launched : List (Nat × Nat)
  stopping : List Nat
  secured : Bool
  connected : Bool
  severed : Bool
  crossed : Bool
  leaked : Bool
  raced : Bool
  undercut : Bool
  missed : Bool

/-- `getActiveDeviceKey`. -/
def Vault.getActiveDeviceKey (v : Vault) : Option (String × KeyPair) :=
  v.activeAccount.bind fun active =>
    (active.deviceKeyPair.filter fun keyPair =>
      keyPair.publicKeyB64 ≠ "" ∧ keyPair.privateKeyB64 ≠ "").map fun keyPair =>
        (active.deviceId, keyPair)

/-- The identity can run a chat server: it has its private key, or it is a delegated one, for which
the device key signs. -/
def ChatServerIdentity.startable (identity : ChatServerIdentity) (deviceKey : Option (String × KeyPair)) :
    Bool :=
  let delegatedShape := decide (identity.hasAdminRoot = false ∧ identity.certChain ≠ [])
  decide (identity.accountId ≠ "" ∧ identity.publicKeyB64 ≠ "") &&
    (decide (identity.privateKeyB64.getD "" ≠ "") || delegatedShape) &&
    (!delegatedShape || (deviceKey.filter fun key => key.1 ≠ "").isSome)

namespace Supervisor

/-- A supervisor that was just made. -/
def fresh (vault : Vault) : Supervisor where
  vault := vault.restart
  startRezChat := true
  chatApp := none
  chatServerState := OrdMap.empty
  chatAppStopped := []
  busBridge := none
  lockIncomplete := false
  busEventUnsub := none
  subscriptions := OrdMap.empty
  running := []
  nextId := 0
  entering := []
  locking := []
  launched := []
  stopping := []
  secured := false
  connected := false
  severed := false
  crossed := false
  leaked := false
  raced := false
  undercut := false
  missed := false

variable (s : Supervisor)

/-- What a crash leaves. -/
def restart : Supervisor :=
  { fresh s.vault with
    startRezChat := s.startRezChat
    nextId := s.nextId
    crossed := s.crossed
    leaked := s.leaked
    raced := s.raced
    undercut := s.undercut
    missed := s.missed }

/-- `chatApp.chatServer`, if there is an app. -/
def chatServer : Option Nat := s.chatApp.bind s.chatServerState.get?

/-- `#runtimeIsDown`. -/
def runtimeIsDown : Bool := s.chatServer.isNone

/-- How often an event of a server is sent to the window. -/
def deliveries (server : Nat) : Nat := s.subscriptions.values.count server

/-! ### What is under way -/

/-- A call begins that uses the vault or may start a server. -/
def enter (i : Nat) : Supervisor :=
  { s with
    entering := i :: s.entering
    secured := false
    raced := s.raced || !s.locking.isEmpty }

def leave (i : Nat) : Supervisor := { s with entering := s.entering.filter (· ≠ i) }

/-! ### The chat server -/

/-- The supervisor holds a new app. -/
def hold (k : Nat) : Supervisor :=
  { s with chatApp := some k, crossed := s.crossed || s.chatApp.isSome }

/-- A server runs, and the call that started it has yet to attach it. -/
def launch (i server : Nat) : Supervisor :=
  { s with running := server :: s.running, launched := (i, server) :: s.launched }

/-- A server runs although its start failed. -/
def strand (server : Nat) : Supervisor := { s with running := server :: s.running, leaked := true }

/-- The server becomes the chat server of the app. -/
def attachChatServer (i k server : Nat) : Supervisor :=
  { s with
    chatServerState := s.chatServerState.set k server
    launched := s.launched.filter (· ≠ (i, server))
    crossed := s.crossed || (s.chatServerState.get? k).isSome || decide (s.chatApp ≠ some k) }

/-- The app has no chat server from now on, and the one that it had is to be stopped. -/
def detachChatServer (k server : Nat) : Supervisor :=
  { s with
    chatServerState := s.chatServerState.delete k
    stopping := server :: s.stopping
    connected := s.connected && decide (s.chatApp ≠ some k)
    undercut := s.undercut || (decide (s.chatApp = some k) && s.busBridge.isSome) }

def stopped (server : Nat) : Supervisor :=
  { s with running := s.running.filter (· ≠ server), stopping := s.stopping.erase server }

/-- The stop of a server failed. -/
def leak (server : Nat) : Supervisor :=
  { s with stopping := s.stopping.erase server, leaked := true }

/-- The supervisor lets the app go. -/
def giveUp : Supervisor :=
  { s with chatApp := none, crossed := s.crossed || s.chatServer.isSome }

/-! ### The bridge -/

def openBridge (server : Nat) : Supervisor := { s with busBridge := some ⟨server, []⟩ }

/-- The subscriptions without some of them. -/
def without (unsubs : List Nat) : OrdMap Nat Nat := unsubs.foldl OrdMap.delete s.subscriptions

/-- `close`, which takes back what was subscribed over the bridge. -/
def closeBridge : Supervisor :=
  match s.busBridge with
  | none => s
  | some bridge =>
    { s with
      subscriptions := s.without bridge.unsubs
      busBridge := none
      severed := s.severed || s.busEventUnsub.isSome }

/-- `subscribeEvents`. -/
def subscribeEvents (bridge : BusBridge) : Supervisor :=
  { s with
    subscriptions := s.subscriptions.set s.nextId bridge.server
    busBridge := some { bridge with unsubs := s.nextId :: bridge.unsubs }
    busEventUnsub := some s.nextId
    nextId := s.nextId + 1 }

/-- `detachBusEvents`. -/
def detachBusEvents : Supervisor :=
  match s.busEventUnsub with
  | none => s
  | some unsub =>
    { s with
      subscriptions := s.subscriptions.delete unsub
      busBridge := s.busBridge.map fun bridge =>
        { bridge with unsubs := bridge.unsubs.filter (· ≠ unsub) }
      busEventUnsub := none
      severed := false }

/-- A connect succeeds. -/
def connectDone : Supervisor := { s with connected := true, missed := s.missed || s.severed }

/-! ### Locking -/

def lockVault (i : Nat) : Supervisor :=
  { s with
    vault := s.vault.lock
    locking := i :: s.locking
    raced := s.raced || !s.entering.isEmpty }

/-- The lock is reported as complete. -/
def secure (i : Nat) : Supervisor :=
  { s with
    lockIncomplete := false
    locking := s.locking.filter (· ≠ i)
    secured := true
    raced := s.raced || !s.stopping.isEmpty }

def lockFailed (i : Nat) (lockIncomplete : Bool) : Supervisor :=
  { s with lockIncomplete := lockIncomplete, locking := s.locking.filter (· ≠ i) }

end Supervisor

open Supervisor

/-! ## The chat app -/

/-- An object of the outside is made. It has a number of its own. -/
def made : Task Supervisor Nat :=
  await fun s => (s.nextId, { s with nextId := s.nextId + 1 })

/-- An operation of the outside that is of no matter here. -/
def elsewhere : Task Supervisor Unit := await fun s => ((), s)

/-- `chatServer.start()`. -/
def startServer (i server : Nat) : Task Supervisor Unit := wait fun
  | .ok => act (fun s => s.launch i server) fun _ => pause (done ())
  | .throws => pause failed
  | .throwsLate => act (fun s => s.strand server) fun _ => pause failed

/-- `chatServer.stop()`. -/
def stopServer (server : Nat) : Task Supervisor Unit := wait fun
  | .ok => act (fun s => s.stopped server) fun _ => pause (done ())
  | .throws => act (fun s => s.leak server) fun _ => pause failed
  | .throwsLate => act (fun s => s.stopped server) fun _ => pause failed

/-- `startChatServer`, for the app `k`. -/
def startChatServer (i k : Nat) (identity : ChatServerIdentity) (deviceKey : Option (String × KeyPair)) :
    Task Supervisor Unit := do
  let s ← get
  if (s.chatServerState.get? k).isSome = true then pure ()
  else if identity.startable deviceKey = false then failed
  else do
    let server ← made
    startServer i server
    modify fun s => s.attachChatServer i k server

/-- `stopChatServer`. A stop that fails is logged. -/
def stopChatServer (k : Nat) : Task Supervisor Unit := do
  let s ← get
  match s.chatServerState.get? k with
  | none => pure ()
  | some server => do
    modify fun s => s.detachChatServer k server
    tryCatch (pure ()) (stopServer server)

/-- `stop` of the app: the chat server, the shell and the node. -/
def stopApp (k : Nat) : Task Supervisor Unit := do
  let s ← get
  if k ∈ s.chatAppStopped then pure ()
  else do
    modify fun s => { s with chatAppStopped := k :: s.chatAppStopped }
    called (stopChatServer k)
    elsewhere
    elsewhere

/-! ## The supervisor -/

/-- The bridge is there, or it is made to the chat server of the app. -/
def ensureBridge : Task Supervisor Unit := do
  let s ← get
  if s.busBridge.isSome = true then pure ()
  else
    match s.chatServer with
    | none => failed
    | some server => modify fun s => s.openBridge server

/-- The rest of `connect`, with an app. -/
def connectApp (i k : Nat) : Task Supervisor Unit := do
  let s ← get
  if (s.chatServerState.get? k).isSome = true then ensureBridge
  else
    match s.vault.getChatServerIdentity with
    | none => failed
    | some identity => do
      called (startChatServer i k identity s.vault.getActiveDeviceKey)
      ensureBridge

/-- `connect`. -/
def connect (i : Nat) : Task Supervisor Unit := do
  let s ← get
  if (s.vault.activeAccount.filter fun active => active.accountId ≠ "").isNone = true then
    failed
  else
    match s.chatApp with
    | some k => connectApp i k
    | none =>
      if s.startRezChat = false then pure ()
      else do
        let k ← made
        modify fun s => s.hold k
        connectApp i k

/-- `disconnect`. -/
def disconnect : Task Supervisor Unit := do
  modify closeBridge
  let s ← get
  match s.chatApp with
  | none => pure ()
  | some k => called (stopChatServer k)

/-- `if (this.#chatApp) await this.disconnect()`. -/
def disconnectFirst : Task Supervisor Unit := do
  let s ← get
  if s.chatApp.isSome = true then called disconnect else pure ()

/-- `#forceRuntimeShutdown`. -/
def forceRuntimeShutdown : Task Supervisor Bool := do
  let s ← get
  match s.chatApp with
  | none => pure true
  | some k =>
    tryCatch (pure false) do
      called (stopApp k)
      modify giveUp
      pure true

/-- `#finishLock`. -/
def finishLock (i : Nat) : Task Supervisor Unit := do
  let s ← get
  if s.runtimeIsDown = true then modify fun s => s.secure i
  else do
    let forced ← called forceRuntimeShutdown
    let s ← get
    if forced = true ∧ s.runtimeIsDown = true then modify fun s => s.secure i
    else modify fun s => s.lockFailed i true

/-- `lock`. Whatever becomes of the disconnect, the vault is locked; where the status that its lock
returns cannot be had, the call throws. -/
def lock (i : Nat) (statusThrows : Bool) : Task Supervisor Unit := do
  tryCatch (pure ()) (called disconnect)
  modify fun s => s.lockVault i
  if statusThrows = true then modify fun s => s.lockFailed i s.lockIncomplete
  else finishLock i

/-- A timer of the vault locks it, and the supervisor follows (`#onVaultAutoLocked`). -/
def autoLock (i : Nat) : Task Supervisor Unit := do
  let s ← get
  if s.vault.activeAccount.isNone = true then pure ()
  else do
    modify fun s => s.lockVault i
    pause (pure ())
    tryCatch (pure ()) (called disconnect)
    finishLock i

/-! ## The IPC layer -/

/-- A call that uses the vault or may start a server, from its beginning to its end. -/
def entered (i : Nat) (t : Task Supervisor Unit) : Task Supervisor Unit := do
  modify fun s => s.enter i
  tryCatch (do
    modify fun s => s.leave i
    failed) t
  modify fun s => s.leave i

/-- A call of the vault. -/
def ofVault {α : Type} (t : Task Vault α) : Task Supervisor Unit := do
  let _ ← zoom vault (fun vault s => { s with vault := vault }) t
  pure ()

/-- `attachBusEvents`. -/
def attachBusEvents : Task Supervisor Unit := do
  let s ← get
  if s.busEventUnsub.isSome = true then pure ()
  else
    match s.busBridge with
    | none => failed
    | some bridge => modify fun s => s.subscribeEvents bridge

/-- What the window asks for. -/
inductive DesktopCall where
  | unlock (safe : SafeStorage) (call : UnlockCall)
  | importBackup (safe : SafeStorage) (call : ImportCall)
  | changePassword (safe : SafeStorage) (call : ChangeCall)
  | connect
  | disconnect
  | lock (statusThrows : Bool)

/-- What happens to a desktop: the window asks for something, a timer of the vault locks it, a call
goes on, time passes, or the process dies. -/
inductive DesktopAct where
  | call (c : DesktopCall)
  | autoLock
  | resume (i : Nat) (r : Response)
  | tick (clockMs : Int)
  | crash

section Steps

variable {β : Type} (sdk : Sdk) (aead : BackupAead β)

/-- The handler of a call. -/
def DesktopCall.task (i : Nat) : DesktopCall → Task Supervisor Unit
  | .unlock safe call => entered i (ofVault (Vault.unlock sdk safe call))
  | .importBackup safe call => entered i do
    disconnectFirst
    ofVault (Vault.importBackup sdk safe aead call)
  | .changePassword safe call => entered i do
    disconnectFirst
    ofVault (Vault.changePassword sdk safe call)
  | .connect => entered i do
    called (Desktop.connect i)
    attachBusEvents
    modify connectDone
  | .disconnect => do
    modify detachBusEvents
    Desktop.disconnect
  | .lock statusThrows => Desktop.lock i statusThrows

def DesktopAct.toStep : DesktopAct → Pool.Step Supervisor
  | .call c => .start fun i => c.task sdk aead i
  | .autoLock => .start fun i => Desktop.autoLock i
  | .resume i r => .resume i r
  | .tick clockMs => .elsewhere fun s => { s with vault := { s.vault with clockMs := clockMs } }
  | .crash => .crash

/-- One step of a desktop. -/
def desktopStep (p : Pool Supervisor) (a : DesktopAct) : Pool Supervisor :=
  Pool.step restart p (a.toStep sdk aead)

/-- A desktop after a run, which starts with a vault. -/
def desktopAfter (vault : Vault) (acts : List DesktopAct) : Supervisor :=
  (Runs.run (desktopStep sdk aead) (Pool.idle (fresh vault)) acts).state

end Steps

/-! ## Stopping the chat server

Stopping a server, or the whole app, is part of most calls. What they do is the same whatever is to
be shown of them: it is enough to say of each write that it may be done. -/

section Stopping

variable {D : Discipline Supervisor} {i : Nat} {K : Supervisor → Prop}

/-- The writes by which servers are stopped, and a bridge is made, may be done while `K` holds. -/
structure Permits (D : Discipline Supervisor) (i : Nat) (K : Supervisor → Prop) : Prop where
  owns : D.Owns i K
  numbered : ∀ s₀ s, D.Fine i K s₀ s → D.Fine i K s₀ { s with nextId := s.nextId + 1 }
  detached : ∀ s₀ s k x, s.chatServerState.get? k = some x → D.Fine i K s₀ s →
    D.Fine i K s₀ (s.detachChatServer k x)
  stopped : ∀ s₀ s x, D.Fine i K s₀ s → D.Fine i K s₀ (s.stopped x)
  leaked : ∀ s₀ s x, D.Fine i K s₀ s → D.Fine i K s₀ (s.leak x)
  appStopped : ∀ s₀ s k, D.Fine i K s₀ s →
    D.Fine i K s₀ { s with chatAppStopped := k :: s.chatAppStopped }
  givenUp : ∀ s₀ s, D.Fine i K s₀ s → D.Fine i K s₀ s.giveUp
  bridged : ∀ s₀ s x, s.busBridge = none → s.chatServer = some x → D.Fine i K s₀ s →
    D.Fine i K s₀ (s.openBridge x)

namespace Permits

section

variable (h : Permits D i K)
include h

theorem keeping_made : Keeping D i K made := fun _ _ hs =>
  safe_awaited h.owns hs fun s hs => h.numbered s s hs

theorem keeping_elsewhere : Keeping D i K elsewhere := fun _ _ hs =>
  safe_awaited h.owns hs fun _ hs => hs

theorem keeping_stopServer (x : Nat) : Keeping D i K (stopServer x) := by
  intro s₀ s hs
  refine safe_waited h.owns hs fun r s hs => ?_
  cases r with
  | ok => exact safe_paused h.owns (h.stopped s s x hs) fun _ hs => hs
  | throws => exact safe_paused h.owns (h.leaked s s x hs) fun _ hs => hs
  | throwsLate => exact safe_paused h.owns (h.stopped s s x hs) fun _ hs => hs

theorem keeping_stopChatServer (k : Nat) :
    Keeping D i K (stopChatServer k) := by
  intro s₀ s hs
  refine Task.safe_got ?_
  cases hget : s.chatServerState.get? k with
  | none => exact hs
  | some x =>
    have hstop := (h.keeping_stopServer x).tryCatch (keeping_pure ())
    exact Task.safe_modified (hstop s₀ _ (h.detached s₀ s k x hget hs))

theorem keeping_stopApp (k : Nat) : Keeping D i K (stopApp k) := by
  intro s₀ s hs
  refine Task.safe_got ?_
  by_cases hstopped : k ∈ s.chatAppStopped
  · rw [if_pos hstopped]
    exact hs
  · rw [if_neg hstopped]
    have hrest := ((h.keeping_stopChatServer k).called h.owns).bind fun _ =>
      h.keeping_elsewhere.bind fun _ => h.keeping_elsewhere
    exact Task.safe_modified (hrest s₀ _ (h.appStopped s₀ s k hs))

theorem keeping_forceRuntimeShutdown :
    Keeping D i K forceRuntimeShutdown := by
  intro s₀ s hs
  refine Task.safe_got ?_
  cases s.chatApp with
  | none => exact hs
  | some k =>
    refine safe_caught (Task.safe_seq ((h.keeping_stopApp k).called h.owns s₀ s hs) ?_) ?_
    · exact fun _ s₀ s hs => Task.safe_modified (h.givenUp s₀ s hs)
    · exact fun _ _ hs => hs

theorem keeping_ensureBridge : Keeping D i K ensureBridge := by
  intro s₀ s hs
  refine Task.safe_got ?_
  by_cases hbridge : s.busBridge.isSome = true
  · rw [if_pos hbridge]
    exact hs
  · rw [if_neg hbridge]
    cases hserver : s.chatServer with
    | none => exact hs
    | some x => exact h.bridged s₀ s x (Option.not_isSome_iff_eq_none.1 hbridge) hserver hs

end

end Permits

end Stopping

end RezChat.Desktop
