/-
The connection of the chat server to its node (`connect`, `disconnect`, `stop` and the reconnect hook
of `services/ServerRuntimeService.js`).

A transport to the node has a session of its own, and before the runtime is connected the session
must be bound: the inbox is claimed on it, and where the node requires it the device is bound. When
the pool of the SDK has replaced the transport, it runs the hook `#restoreAfterReconnect`, which
binds the new session, or completes a first connect that is pending.

The operations do not look at one another. `disconnect` finds nothing to disconnect while the first
connect is on its way, and that connect completes after it; a restore completes after `disconnect`; a
transport that is replaced while a session is being bound is never bound itself; a `close` that throws
leaves the runtime connected and its push bridge detached; and a first connect whose bind fails is
completed by no reconnect. Apart from these the life cycle is as it should be (`run_lawful`).

`ensureLive` calls `connect` where the runtime is not connected, and is that here. The renewal of the
lease, `node.capabilities`, the sweep and what else the bind awaits last without heeding its failure
are not told apart, and that a push bridge can be attached at all is taken for granted.
-/
import RezChat.Lib.Runs
import RezChat.Lib.Table

set_option autoImplicit false

namespace RezChat.Runtime.Binding

open List Bool

/-! ## Sessions -/

/-- What the node advertises on a session. -/
structure Session where
  durableInbox : Bool
  multiDeviceFanout : Bool

/-- `sessionMode` is `claimant`; there is an `inboxClaimant`; the SDK has a device key. -/
structure Config where
  claimant : Bool
  inboxClaimant : Bool
  deviceKey : Bool

namespace Config

/-- The node gives the session a cursor only for a device that is bound. -/
def requiresBind (cfg : Config) (s : Session) : Bool :=
  !cfg.claimant && cfg.inboxClaimant && s.durableInbox && s.multiDeviceFanout

end Config

/-- What `#bindCurrentSession` awaits: the claim, a new generation of the inbox, the device bind, the
activation and the publication, and what comes last, whose failure is passed over. -/
inductive BindPhase where
  | claiming (remintAttempted : Bool)
  | reminting
  | binding (gateOpen : Bool)
  | publishing
  | finishing
  deriving DecidableEq

/-- What becomes of it. The node may answer a claim that the inbox was reclaimed. -/
inductive BindTurn where
  | ok
  | fails
  | reclaimed

/-- Where the bind goes on. -/
inductive BindStep where
  | waits (phase : BindPhase)
  | done
  | threw
  deriving DecidableEq

/-- `#runConnect` awaits the SDK, and then the bind. -/
inductive ConnectPhase where
  | connecting
  | binding (phase : BindPhase)
  deriving DecidableEq

/-- What is emitted. The first event is noted with the session of that moment, and with whether the
runtime was stood down then. -/
inductive Emitted where
  | runtimeConnected (session : Option Nat) (stoodDown : Bool)
  | runtimeDisconnected
  | connectionState (status : String)

/-- The fields of the service, the calls that are under way, with the calls of `disconnect` as whether
they are `stop`'s, and the sessions with what was done on them. The runtime is `stoodDown` when
`disconnect` or `stop` has resolved and `connect` was not called since, and `owed` a completion when
the bind of a connect has failed. -/
structure ServerRuntime where
  connected : Bool
  lastStatus : String
  subscribed : Bool
  offBridge : Bool
  connectPending : Bool
  multiDeviceFanout : Bool
  connecting : Option ConnectPhase
  restoring : Option BindPhase
  closing : List Bool
  sessions : List Session
  claimed : List Nat
  bound : List Nat
  bridges : Nat
  emitted : List Emitted
  stoodDown : Bool
  owed : Bool

namespace ServerRuntime

def start : ServerRuntime :=
  ⟨false, "", true, false, false, false, none, none, [], [], [], [], 0, [], false, false⟩

/-- The session of the transport that was made last. -/
def session (w : ServerRuntime) : Option Nat :=
  if w.sessions.length = 0 then none else some (w.sessions.length - 1)

/-- `getSessionInfo().capabilities`. -/
def capabilities (w : ServerRuntime) : Session := w.sessions.getLast?.getD ⟨false, false⟩

def emit (w : ServerRuntime) (e : Emitted) : ServerRuntime := { w with emitted := w.emitted ++ [e] }

/-! ## The bind -/

/-- `#bindCurrentSession`, up to its first await. -/
def startBind (cfg : Config) (w : ServerRuntime) : ServerRuntime × BindStep :=
  if cfg.claimant then
    if w.capabilities.durableInbox then (w, .threw)
    else ({ w with multiDeviceFanout := false },
      .waits (if cfg.inboxClaimant then .claiming false else .finishing))
  else ({ w with multiDeviceFanout := w.capabilities.multiDeviceFanout },
    .waits (if cfg.inboxClaimant then .claiming false else .finishing))

/-- After `#registerDeviceBind`. -/
def afterDevice (w : ServerRuntime) : BindStep :=
  .waits (if w.multiDeviceFanout then .publishing else .finishing)

/-- After `#registerInboxClaim`. -/
def afterClaim (cfg : Config) (w : ServerRuntime) : BindStep :=
  if cfg.claimant then .waits .finishing
  else if w.capabilities.durableInbox then
    if cfg.deviceKey then .waits (.binding w.capabilities.multiDeviceFanout)
    else if w.capabilities.multiDeviceFanout then .threw
    else w.afterDevice
  else w.afterDevice

def claim (w : ServerRuntime) : ServerRuntime := { w with claimed := w.claimed ++ w.session.toList }

def bind (w : ServerRuntime) : ServerRuntime := { w with bound := w.bound ++ w.session.toList }

def bindTurn (cfg : Config) (w : ServerRuntime) : BindPhase → BindTurn → ServerRuntime × BindStep
  | .claiming _, .ok => (w.claim, w.claim.afterClaim cfg)
  | .claiming false, .reclaimed => (w, .waits .reminting)
  | .claiming true, .reclaimed => (w, .threw)
  | .claiming _, .fails => (w, .threw)
  | .reminting, .ok => (w, .waits (.claiming true))
  | .reminting, _ => (w, .threw)
  | .binding _, .ok => (w.bind, w.bind.afterDevice)
  | .binding gateOpen, _ => (w, if gateOpen then .threw else w.afterDevice)
  | .publishing, .ok => (w, .waits .finishing)
  | .publishing, _ => (w, .threw)
  | .finishing, _ => (w, .done)

/-! ## Connect -/

/-- The end of `#runConnect`: the push bridge is attached. -/
def becomeConnected (w : ServerRuntime) : ServerRuntime :=
  ({ w with
    connecting := none
    offBridge := true
    bridges := w.bridges + 1
    connected := true
    connectPending := false
    lastStatus := "connected"
    owed := false }.emit (.runtimeConnected w.session w.stoodDown)).emit
      (.connectionState "connected")

/-- `#runConnect` goes on where the bind does. -/
def connectStep : ServerRuntime × BindStep → ServerRuntime
  | (w, .waits phase) => { w with connecting := some (.binding phase) }
  | (w, .done) => w.becomeConnected
  | (w, .threw) => { w with connecting := none, owed := true }

/-- `connect`. -/
def connect (w : ServerRuntime) : ServerRuntime :=
  if w.connected then w
  else if w.connecting.isSome then w
  else { w with connecting := some .connecting }

/-- A new transport. -/
def newSession (w : ServerRuntime) (s : Session) : ServerRuntime := { w with sessions := w.sessions ++ [s] }

/-- `connect` of the SDK resolves, with a new transport or with the one that it has. -/
def sdkConnected (cfg : Config) (w : ServerRuntime) (s : Option Session) : ServerRuntime :=
  match w.connecting, s with
  | some .connecting, some s => connectStep ((w.newSession s).startBind cfg)
  | some .connecting, none =>
    if w.sessions.length = 0 then w else connectStep (w.startBind cfg)
  | _, _ => w

/-- `connect` of the SDK rejects. -/
def sdkFailed (w : ServerRuntime) (retryable : Bool) : ServerRuntime :=
  if w.connecting = some .connecting then
    { w with connecting := none, connectPending := w.connectPending || retryable }
  else w

/-- The bind of a connect goes on. -/
def connectTurn (cfg : Config) (w : ServerRuntime) (turn : BindTurn) : ServerRuntime :=
  match w.connecting with
  | some (.binding phase) => connectStep (w.bindTurn cfg phase turn)
  | _ => w

/-! ## Reconnect -/

/-- The restore of a session goes on where its bind does. -/
def restoreStep : ServerRuntime × BindStep → ServerRuntime
  | (w, .waits phase) => { w with restoring := some phase }
  | (w, .done) =>
    ({ w with restoring := none, lastStatus := "connected" }.emit
      (.runtimeConnected w.session w.stoodDown)).emit (.connectionState "connected")
  | (w, .threw) =>
    { w with restoring := none, lastStatus := "offline" }.emit (.connectionState "offline")

/-- `#restoreAfterReconnect`. -/
def restoreAfterReconnect (cfg : Config) (w : ServerRuntime) : ServerRuntime :=
  if w.connected then
    if w.restoring.isSome then w else restoreStep (w.startBind cfg)
  else if w.connectPending then w.connect
  else w

/-- The pool has replaced the transport, and runs the hook. -/
def reconnected (cfg : Config) (w : ServerRuntime) (s : Session) : ServerRuntime :=
  if w.subscribed then (w.newSession s).restoreAfterReconnect cfg else w.newSession s

def restoreTurn (cfg : Config) (w : ServerRuntime) (turn : BindTurn) : ServerRuntime :=
  match w.restoring with
  | some phase => restoreStep (w.bindTurn cfg phase turn)
  | none => w

/-- `#handlePoolState`, for a phase that is mapped to `status`. -/
def handlePoolState (w : ServerRuntime) (status : String) : ServerRuntime :=
  if w.subscribed = false ∨ status = "" ∨ status = "connected" ∨ status = w.lastStatus then w
  else { w with lastStatus := status }.emit (.connectionState status)

/-! ## Disconnect -/

/-- `disconnect`, up to its await; `stopping` if `stop` called it. -/
def disconnect (w : ServerRuntime) (stopping : Bool) : ServerRuntime :=
  if w.connected then
    { w with
      offBridge := false
      bridges := if w.offBridge then w.bridges - 1 else w.bridges
      closing := w.closing ++ [stopping] }
  else { w with connectPending := false, stoodDown := true, owed := false }

def stop (w : ServerRuntime) : ServerRuntime := { w with subscribed := false }.disconnect true

/-- `close` of the SDK resolves, or rejects; `stop` resolves all the same. -/
def closeSettles (w : ServerRuntime) (k : Nat) (ok : Bool) : ServerRuntime :=
  match w.closing[k]? with
  | some stopping =>
    if ok then
      ({ w with
        closing := w.closing.eraseIdx k
        connected := false
        lastStatus := "disconnected"
        stoodDown := true }.emit .runtimeDisconnected).emit (.connectionState "disconnected")
    else { w with closing := w.closing.eraseIdx k, stoodDown := w.stoodDown || stopping }
  | none => w

end ServerRuntime

/-! ## Runs -/

inductive Event where
  | connect
  | sdkConnected (s : Option Session)
  | sdkFailed (retryable : Bool)
  | connectTurn (turn : BindTurn)
  | reconnected (s : Session)
  | restoreTurn (turn : BindTurn)
  | poolState (status : String)
  | disconnect
  | stop
  | closeSettles (k : Nat) (ok : Bool)

namespace ServerRuntime

def step (cfg : Config) (w : ServerRuntime) : Event → ServerRuntime
  | .connect => { w with stoodDown := false }.connect
  | .sdkConnected s => w.sdkConnected cfg s
  | .sdkFailed retryable => w.sdkFailed retryable
  | .connectTurn turn => w.connectTurn cfg turn
  | .reconnected s => w.reconnected cfg s
  | .restoreTurn turn => w.restoreTurn cfg turn
  | .poolState status => w.handlePoolState status
  | .disconnect => w.disconnect false
  | .stop => w.stop
  | .closeSettles k ok => w.closeSettles k ok

def after (cfg : Config) (es : List Event) : ServerRuntime := Runs.run (step cfg) start es

/-- No operation is in progress. -/
def quiet (w : ServerRuntime) : Bool := w.connecting.isNone && w.restoring.isNone && w.closing.isEmpty

/-- The inbox is claimed on the session, and the device is bound where that is required. -/
def Ready (cfg : Config) (w : ServerRuntime) (k : Nat) : Prop :=
  ∃ s, w.sessions[k]? = some s ∧ (cfg.inboxClaimant = true → k ∈ w.claimed) ∧
    (cfg.requiresBind s = true → k ∈ w.bound)

/-- The laws of the life cycle. -/
structure Lawful (cfg : Config) (w : ServerRuntime) : Prop where
  /-- A runtime that was stood down is not connected, and does not say that it is. -/
  down : w.stoodDown = true → w.connected = false
  silent : ∀ session stoodDown, .runtimeConnected session stoodDown ∈ w.emitted → stoodDown = false
  /-- It says so when the current session is bound. -/
  ready : ∀ session stoodDown, .runtimeConnected session stoodDown ∈ w.emitted →
    ∃ k ∈ session, Ready cfg w k
  /-- At rest it has one push bridge if it is connected, and none otherwise. -/
  bridged : w.quiet = true → w.bridges = if w.connected then 1 else 0
  /-- A connect whose bind failed is run again by the next reconnect. -/
  completes : w.owed = true → w.connecting = none →
    ∀ s, (w.reconnected cfg s).connecting = some .connecting

/-- The bind of a connect fails in this step. -/
def bindThrows (cfg : Config) (w : ServerRuntime) : Event → Bool
  | .sdkConnected (some s) =>
    w.connecting = some .connecting ∧ ((w.newSession s).startBind cfg).2 = .threw
  | .sdkConnected none => w.connecting = some .connecting ∧ (w.startBind cfg).2 = .threw
  | .connectTurn turn =>
    match w.connecting with
    | some (.binding phase) => (w.bindTurn cfg phase turn).2 = .threw
    | _ => false
  | _ => false

/-- A session is being bound. -/
def binds (w : ServerRuntime) : Bool :=
  w.restoring.isSome || (w.connecting.isSome && decide (w.connecting ≠ some .connecting))

/-- Nothing crosses: `disconnect` and `stop` come while no connect and no restore is in progress, and
a connect while the SDK is not being closed; the pool replaces a transport while no session is being
bound, and its hook does not run while the SDK is being closed; and `close` does not throw. -/
def Uncrossed (w : ServerRuntime) : Event → Prop
  | .connect => w.connected = true ∨ w.closing = []
  | .disconnect => w.connecting = none ∧ w.restoring = none
  | .stop => w.connecting = none ∧ w.restoring = none
  | .reconnected _ => w.binds = false ∧ (w.subscribed = true → w.closing = [])
  | .closeSettles _ ok => ok = true
  | _ => True

instance (w : ServerRuntime) : ∀ e, Decidable (w.Uncrossed e)
  | .connect => inferInstanceAs (Decidable (w.connected = true ∨ w.closing = []))
  | .disconnect => inferInstanceAs (Decidable (w.connecting = none ∧ w.restoring = none))
  | .stop => inferInstanceAs (Decidable (w.connecting = none ∧ w.restoring = none))
  | .reconnected _ =>
    inferInstanceAs (Decidable (w.binds = false ∧ (w.subscribed = true → w.closing = [])))
  | .closeSettles _ ok => inferInstanceAs (Decidable (ok = true))
  | .sdkConnected _ => isTrue trivial
  | .sdkFailed _ => isTrue trivial
  | .connectTurn _ => isTrue trivial
  | .restoreTurn _ => isTrue trivial
  | .poolState _ => isTrue trivial

/-- And the bind of a connect fails only when that connect is pending, in a runtime that is not
stopped. -/
def Undisturbed (cfg : Config) (w : ServerRuntime) (e : Event) : Prop :=
  w.Uncrossed e ∧ (w.bindThrows cfg e = true → w.connectPending = true ∧ w.subscribed = true)

instance (cfg : Config) (w : ServerRuntime) (e : Event) : Decidable (w.Undisturbed cfg e) :=
  inferInstanceAs (Decidable (w.Uncrossed e ∧
    (w.bindThrows cfg e = true → w.connectPending = true ∧ w.subscribed = true)))

/-! ## The bind of a session -/

variable {cfg : Config} {w : ServerRuntime} {k : Nat} {s : Session} {phase : BindPhase}

theorem session_eq (h : w.session = some k) : w.sessions.length ≠ 0 ∧ k = w.sessions.length - 1 := by
  rw [session] at h
  by_cases hzero : w.sessions.length = 0
  · rw [if_pos hzero] at h
    cases h
  · rw [if_neg hzero] at h
    exact ⟨hzero, (Option.some_inj.1 h).symm⟩

theorem capabilities_eq (h : w.session = some k) (hs : w.sessions[k]? = some s) :
    w.capabilities = s := by
  rw [capabilities, getLast?_eq_getElem?, ← (session_eq h).2, hs, Option.getD_some]

theorem session_newSession (w : ServerRuntime) (s : Session) :
    (w.newSession s).session = some w.sessions.length ∧
      (w.newSession s).sessions[w.sessions.length]? = some s := by
  refine ⟨?_, Table.append_self⟩
  rw [session, newSession]
  simp

/-- What is known of the current session while it is being bound. -/
def BindOk (cfg : Config) (w : ServerRuntime) (phase : BindPhase) : Prop :=
  ∃ k s, w.session = some k ∧ w.sessions[k]? = some s ∧ match phase with
    | .claiming _ => True
    | .reminting => True
    | .binding gateOpen => k ∈ w.claimed ∧ gateOpen = s.multiDeviceFanout
    | .publishing => Ready cfg w k
    | .finishing => Ready cfg w k

/-- The bind waits with what it knows, or is done with the session ready. -/
def StepOk (cfg : Config) : ServerRuntime × BindStep → Prop
  | (w, .waits phase) => BindOk cfg w phase
  | (w, .done) => ∃ k, w.session = some k ∧ Ready cfg w k
  | (_, .threw) => True

section

variable (h : w.session = some k)
include h

theorem mem_claim : k ∈ w.claim.claimed := by
  rw [claim, h]
  exact mem_append_right _ (mem_singleton_self k)

theorem mem_bind : k ∈ w.bind.bound := by
  rw [bind, h]
  exact mem_append_right _ (mem_singleton_self k)

/-- What `startBind` waits for first: the claim, or nothing that matters where there is no inbox. -/
theorem stepOk_startBind (hs : w.sessions[k]? = some s) :
    StepOk cfg (w.startBind cfg) := by
  have hfirst : ∀ fanout : Bool, BindOk cfg { w with multiDeviceFanout := fanout }
      (if cfg.inboxClaimant then .claiming false else .finishing) := by
    intro fanout
    refine ⟨k, s, h, hs, ?_⟩
    by_cases hclaimant : cfg.inboxClaimant = true
    · rw [if_pos hclaimant]
      trivial
    · rw [if_neg hclaimant]
      refine ⟨s, hs, fun hyes => absurd hyes hclaimant, fun hrequired => ?_⟩
      rw [Config.requiresBind] at hrequired
      simp only [and_eq_true] at hrequired
      exact absurd hrequired.1.1.2 hclaimant
  rw [startBind]
  by_cases hmode : cfg.claimant = true
  · rw [if_pos hmode]
    by_cases hdurable : w.capabilities.durableInbox = true
    · rw [if_pos hdurable]
      trivial
    · rw [if_neg hdurable]
      exact hfirst false
  · rw [if_neg hmode]
    exact hfirst w.capabilities.multiDeviceFanout

theorem stepOk_afterDevice (hready : Ready cfg w k) :
    StepOk cfg (w, w.afterDevice) := by
  obtain ⟨s, hs, hrest⟩ := hready
  rw [afterDevice]
  by_cases hfanout : w.multiDeviceFanout = true
  · rw [if_pos hfanout]
    exact ⟨k, s, h, hs, s, hs, hrest⟩
  · rw [if_neg hfanout]
    exact ⟨k, s, h, hs, s, hs, hrest⟩

theorem stepOk_afterClaim (hs : w.sessions[k]? = some s)
    (hclaimed : k ∈ w.claimed) : StepOk cfg (w, w.afterClaim cfg) := by
  -- a session that needs no bind is ready once it is claimed
  have hready : cfg.requiresBind s = false → Ready cfg w k := fun hfree =>
    ⟨s, hs, fun _ => hclaimed, fun hrequired => by rw [hfree] at hrequired; cases hrequired⟩
  rw [afterClaim, capabilities_eq h hs]
  by_cases hmode : cfg.claimant = true
  · rw [if_pos hmode]
    exact ⟨k, s, h, hs, hready (by simp [Config.requiresBind, hmode])⟩
  · rw [if_neg hmode]
    by_cases hdurable : s.durableInbox = true
    · rw [if_pos hdurable]
      by_cases hkey : cfg.deviceKey = true
      · rw [if_pos hkey]
        exact ⟨k, s, h, hs, hclaimed, rfl⟩
      · rw [if_neg hkey]
        by_cases hfanout : s.multiDeviceFanout = true
        · rw [if_pos hfanout]
          trivial
        · rw [if_neg hfanout]
          exact stepOk_afterDevice h (hready (by simp [Config.requiresBind, hfanout]))
    · rw [if_neg hdurable]
      exact stepOk_afterDevice h (hready (by simp [Config.requiresBind, hdurable]))

end

theorem stepOk_bindTurn (h : BindOk cfg w phase) (turn : BindTurn) :
    StepOk cfg (w.bindTurn cfg phase turn) := by
  obtain ⟨k, s, hk, hs, hknown⟩ := h
  cases phase with
  | claiming remintAttempted =>
    cases turn with
    | ok => exact stepOk_afterClaim (w := w.claim) hk hs (mem_claim hk)
    | fails => cases remintAttempted <;> trivial
    | reclaimed =>
      cases remintAttempted with
      | false => exact ⟨k, s, hk, hs, trivial⟩
      | true => trivial
  | reminting =>
    cases turn with
    | ok => exact ⟨k, s, hk, hs, trivial⟩
    | fails => trivial
    | reclaimed => trivial
  | binding gateOpen =>
    obtain ⟨hclaimed, hgate⟩ := hknown
    -- with the gate closed the bind is not required, and its failure is passed over
    have hfailed : StepOk cfg (w, if gateOpen then .threw else w.afterDevice) := by
      by_cases hopen : gateOpen = true
      · rw [if_pos hopen]
        trivial
      · rw [if_neg hopen]
        refine stepOk_afterDevice hk ⟨s, hs, fun _ => hclaimed, fun hrequired => ?_⟩
        rw [Config.requiresBind, ← hgate] at hrequired
        simp only [and_eq_true] at hrequired
        exact absurd hrequired.2 hopen
    cases turn with
    | ok =>
      exact stepOk_afterDevice (w := w.bind) hk ⟨s, hs, fun _ => hclaimed, fun _ => mem_bind hk⟩
    | fails => exact hfailed
    | reclaimed => exact hfailed
  | publishing =>
    cases turn with
    | ok => exact ⟨k, s, hk, hs, hknown⟩
    | fails => trivial
    | reclaimed => trivial
  | finishing => exact ⟨k, hk, hknown⟩

/-! ### What a bind leaves alone -/

/-- A bind changes what was claimed and bound, which only grows, and the gate of the fan-out. -/
structure Frame (w w' : ServerRuntime) : Prop where
  same : w' = { w with
    multiDeviceFanout := w'.multiDeviceFanout, claimed := w'.claimed, bound := w'.bound }
  claimed : ∀ k ∈ w.claimed, k ∈ w'.claimed
  bound : ∀ k ∈ w.bound, k ∈ w'.bound

theorem Frame.refl (w : ServerRuntime) : Frame w w := ⟨rfl, fun _ h => h, fun _ h => h⟩

theorem frame_startBind (cfg : Config) (w : ServerRuntime) : Frame w (w.startBind cfg).1 := by
  rw [startBind]
  split
  · split
    · exact Frame.refl w
    · exact ⟨rfl, fun _ h => h, fun _ h => h⟩
  · exact ⟨rfl, fun _ h => h, fun _ h => h⟩

theorem frame_bindTurn (cfg : Config) (w : ServerRuntime) (phase : BindPhase) (turn : BindTurn) :
    Frame w (w.bindTurn cfg phase turn).1 := by
  unfold bindTurn
  split
  case h_1 => exact ⟨rfl, fun _ h => mem_append_left _ h, fun _ h => h⟩
  case h_7 => exact ⟨rfl, fun _ h => h, fun _ h => mem_append_left _ h⟩
  all_goals exact Frame.refl w

theorem Ready.frame {w' : ServerRuntime} (h : Ready cfg w k) (hframe : Frame w w') : Ready cfg w' k := by
  obtain ⟨s, hs, hclaimed, hbound⟩ := h
  refine ⟨s, ?_, fun hc => hframe.claimed k (hclaimed hc), fun hr => hframe.bound k (hbound hr)⟩
  rw [hframe.same]
  exact hs

theorem Ready.newSession (h : Ready cfg w k) (s : Session) : Ready cfg (w.newSession s) k := by
  obtain ⟨s', hs, hrest⟩ := h
  exact ⟨s', Table.append_left hs, hrest⟩

theorem BindOk.frame {w' : ServerRuntime} (h : BindOk cfg w phase) (hframe : Frame w w') :
    BindOk cfg w' phase := by
  obtain ⟨k, s, hk, hs, hknown⟩ := h
  have hsessions : w'.sessions = w.sessions := by rw [hframe.same]
  refine ⟨k, s, by rw [session, hsessions]; exact hk, by rw [hsessions]; exact hs, ?_⟩
  cases phase with
  | claiming _ => trivial
  | reminting => trivial
  | binding gateOpen => exact ⟨hframe.claimed k hknown.1, hknown.2⟩
  | publishing => exact Ready.frame hknown hframe
  | finishing => exact Ready.frame hknown hframe

/-! ## The invariant of an undisturbed run -/

/-- What holds between two events that do not disturb one another. -/
structure Inv (cfg : Config) (w : ServerRuntime) : Prop where
  down : w.stoodDown = true → w.connected = false ∧ w.connecting = none ∧ w.connectPending = false
  silent : ∀ session stoodDown, .runtimeConnected session stoodDown ∈ w.emitted → stoodDown = false
  ready : ∀ session stoodDown, .runtimeConnected session stoodDown ∈ w.emitted →
    ∃ k ∈ session, Ready cfg w k
  /-- The bridge is detached before the SDK is closed. -/
  bridges : w.bridges = if w.connected = true ∧ w.closing = [] then 1 else 0
  offBridge : w.connected = true ∧ w.closing = [] → w.offBridge = true
  connecting : w.connecting ≠ none → w.connected = false ∧ w.closing = []
  restoring : w.restoring ≠ none → w.connected = true ∧ w.closing = []
  closing : w.closing ≠ [] → w.connectPending = false
  connected : w.connected = true → w.connectPending = false ∧ w.owed = false
  owed : w.owed = true → w.connectPending = true ∧ w.subscribed = true
  connectBinds : ∀ phase, w.connecting = some (.binding phase) → BindOk cfg w phase
  restoreBinds : ∀ phase, w.restoring = some phase → BindOk cfg w phase

theorem inv_start (cfg : Config) : Inv cfg start := by
  refine ⟨?_, ?_, ?_, rfl, ?_, ?_, ?_, ?_, ?_, ?_, ?_, ?_⟩ <;> simp [start]

section

variable (h : Inv cfg w)
include h

/-- The laws follow from the invariant. -/
theorem Inv.lawful : Lawful cfg w := by
  refine ⟨fun hdown => (h.down hdown).1, h.silent, h.ready, fun hquiet => ?_, fun howed hnone s => ?_⟩
  · rw [quiet] at hquiet
    simp only [and_eq_true, List.isEmpty_iff] at hquiet
    rw [h.bridges]
    simp [hquiet.2]
  · have hconnected : w.connected = false := by
      by_cases hyes : w.connected = true
      · rw [(h.connected hyes).2] at howed
        cases howed
      · exact eq_false_iff.2 hyes
    obtain ⟨hpending, hsubscribed⟩ := h.owed howed
    simp [reconnected, restoreAfterReconnect, connect, newSession, hsubscribed, hconnected, hpending,
      hnone]

theorem Inv.frame {w' : ServerRuntime} (hframe : Frame w w') : Inv cfg w' := by
  have hready := h.ready
  have hconnect := h.connectBinds
  have hrestore := h.restoreBinds
  have hsame := hframe.same
  refine ⟨?_, ?_, ?_, ?_, ?_, ?_, ?_, ?_, ?_, ?_, ?_, ?_⟩
  · rw [hsame]; exact h.down
  · rw [hsame]; exact h.silent
  · intro session stoodDown hmem
    rw [hsame] at hmem
    obtain ⟨k, hk, hr⟩ := hready session stoodDown hmem
    exact ⟨k, hk, hr.frame hframe⟩
  · rw [hsame]; exact h.bridges
  · rw [hsame]; exact h.offBridge
  · rw [hsame]; exact h.connecting
  · rw [hsame]; exact h.restoring
  · rw [hsame]; exact h.closing
  · rw [hsame]; exact h.connected
  · rw [hsame]; exact h.owed
  · intro phase hphase
    rw [hsame] at hphase
    exact (hconnect phase hphase).frame hframe
  · intro phase hphase
    rw [hsame] at hphase
    exact (hrestore phase hphase).frame hframe

/-- A new transport comes while no session is being bound. -/
theorem Inv.newSession (hfree : w.binds = false) (s : Session) :
    Inv cfg (w.newSession s) := by
  rw [binds, or_eq_false_iff] at hfree
  obtain ⟨hrestoring, hconnecting⟩ := hfree
  refine ⟨h.down, h.silent, fun session stoodDown hmem => ?_, h.bridges, h.offBridge, h.connecting,
    h.restoring, h.closing, h.connected, h.owed, fun phase hphase => ?_, fun phase hphase => ?_⟩
  · obtain ⟨k, hk, hr⟩ := h.ready session stoodDown hmem
    exact ⟨k, hk, hr.newSession s⟩
  · have hphase' : w.connecting = some (.binding phase) := hphase
    simp [hphase'] at hconnecting
  · have hphase' : w.restoring = some phase := hphase
    simp [hphase'] at hrestoring

/-! ### A connect -/

/-- The runtime has become connected, with its session ready. -/
theorem Inv.becomeConnected (hconnecting : w.connecting ≠ none)
    (hk : w.session = some k) (hready : Ready cfg w k) : Inv cfg w.becomeConnected := by
  -- a connect that is on its way was not stood down
  have hup : w.stoodDown = false := by
    by_cases hdown : w.stoodDown = true
    · exact absurd (h.down hdown).2.1 hconnecting
    · exact eq_false_iff.2 hdown
  obtain ⟨hconnected, hclosing⟩ := h.connecting hconnecting
  have hrestoring : w.restoring = none := by
    by_contra hne
    rw [(h.restoring hne).1] at hconnected
    cases hconnected
  have hbridges : w.bridges = 0 := by
    rw [h.bridges, if_neg]
    rintro ⟨hyes, -⟩
    rw [hyes] at hconnected
    cases hconnected
  have hemitted : ∀ session stoodDown,
      .runtimeConnected session stoodDown ∈ w.becomeConnected.emitted →
      .runtimeConnected session stoodDown ∈ w.emitted ∨
        (session = some k ∧ stoodDown = false) := by
    intro session stoodDown hmem
    simpa [ServerRuntime.becomeConnected, emit, hk, hup] using hmem
  refine ⟨?_, ?_, ?_, ?_, fun _ => rfl, ?_, ?_, ?_, fun _ => ⟨rfl, rfl⟩, ?_, ?_, ?_⟩
  · intro hdown
    have hdown' : w.stoodDown = true := hdown
    rw [hup] at hdown'
    cases hdown'
  · intro session stoodDown hmem
    rcases hemitted session stoodDown hmem with hold | ⟨-, hnew⟩
    · exact h.silent session stoodDown hold
    · exact hnew
  · intro session stoodDown hmem
    rcases hemitted session stoodDown hmem with hold | ⟨rfl, -⟩
    · exact h.ready session stoodDown hold
    · exact ⟨k, rfl, hready⟩
  · simp [ServerRuntime.becomeConnected, emit, hbridges, hclosing]
  · intro hne
    exact absurd rfl hne
  · intro hne
    exact absurd hrestoring hne
  · intro hne
    exact absurd hclosing hne
  · intro howed
    cases howed
  · intro phase hphase
    cases hphase
  · intro phase hphase
    have hphase' : w.restoring = some phase := hphase
    rw [hrestoring] at hphase'
    cases hphase'

/-- A connect goes on as its bind does. -/
theorem Inv.connectStep {step : BindStep} (hconnecting : w.connecting ≠ none)
    (hok : StepOk cfg (w, step))
    (hthrew : step = .threw → w.connectPending = true ∧ w.subscribed = true) :
    Inv cfg (connectStep (w, step)) := by
  obtain ⟨hconnected, hclosing⟩ := h.connecting hconnecting
  cases step with
  | waits phase =>
    refine ⟨fun hdown => absurd (h.down hdown).2.1 hconnecting, h.silent, h.ready, h.bridges,
      h.offBridge, fun _ => ⟨hconnected, hclosing⟩, h.restoring, h.closing, h.connected, h.owed, ?_,
      h.restoreBinds⟩
    intro phase' hphase
    cases hphase
    exact hok
  | done =>
    obtain ⟨k, hk, hready⟩ := hok
    exact h.becomeConnected hconnecting hk hready
  | threw =>
    refine ⟨fun hdown => absurd (h.down hdown).2.1 hconnecting, h.silent, h.ready, h.bridges,
      h.offBridge, fun hne => absurd rfl hne, h.restoring, h.closing, ?_, fun _ => hthrew rfl, ?_,
      h.restoreBinds⟩
    · intro hyes
      have hyes' : w.connected = true := hyes
      rw [hconnected] at hyes'
      cases hyes'
    · intro phase' hphase
      cases hphase

/-- `connect` begins, or joins what it finds. -/
theorem Inv.connect (hup : w.stoodDown = false)
    (hclosing : w.connected = true ∨ w.closing = []) : Inv cfg w.connect := by
  rw [ServerRuntime.connect]
  split_ifs with hconnected hconnecting
  · exact h
  · exact h
  · refine ⟨?_, h.silent, h.ready, h.bridges, h.offBridge,
      fun _ => ⟨eq_false_iff.2 hconnected, hclosing.resolve_left hconnected⟩, h.restoring,
      h.closing, h.connected, h.owed, ?_, h.restoreBinds⟩
    · intro hdown
      have hdown' : w.stoodDown = true := hdown
      rw [hup] at hdown'
      cases hdown'
    · intro phase hphase
      cases hphase

/-- `connect` is called: the runtime is no longer stood down. -/
theorem Inv.called : Inv cfg { w with stoodDown := false } := by
  refine ⟨?_, h.silent, h.ready, h.bridges, h.offBridge, h.connecting, h.restoring,
    h.closing, h.connected, h.owed, h.connectBinds, h.restoreBinds⟩
  intro hdown
  cases hdown

/-- The first await of a connect. -/
theorem Inv.sdkConnected (s : Option Session)
    (hthrows : w.bindThrows cfg (.sdkConnected s) = true →
      w.connectPending = true ∧ w.subscribed = true) : Inv cfg (w.sdkConnected cfg s) := by
  by_cases hconnecting : w.connecting = some .connecting
  · have hne : w.connecting ≠ none := by rw [hconnecting]; simp
    -- no session is being bound while the SDK connects
    have hrestoring : w.restoring = none := by
      by_contra hrestoring
      have hyes := (h.restoring hrestoring).1
      rw [(h.connecting hne).1] at hyes
      cases hyes
    have hfree : w.binds = false := by simp [binds, hrestoring, hconnecting]
    cases s with
    | some s =>
      obtain ⟨hk, hs⟩ := session_newSession w s
      have hframe := frame_startBind cfg (w.newSession s)
      have hinv := (h.newSession hfree s).frame hframe
      have hsame := hframe.same
      have hbegan : (w.sdkConnected cfg (some s)) =
          ServerRuntime.connectStep ((w.newSession s).startBind cfg) := by
        simp [ServerRuntime.sdkConnected, hconnecting]
      rw [hbegan]
      refine hinv.connectStep ?_ (stepOk_startBind hk hs) fun hthrew => ?_
      · rw [hsame]
        exact hne
      · have hends : ((w.newSession s).startBind cfg).2 = .threw := hthrew
        have hboth := hthrows (by simp [bindThrows, hconnecting, hends])
        rw [hsame]
        exact hboth
    | none =>
      have hbegan : (w.sdkConnected cfg none) =
          if w.sessions.length = 0 then w else ServerRuntime.connectStep (w.startBind cfg) := by
        simp [ServerRuntime.sdkConnected, hconnecting]
      rw [hbegan]
      by_cases hzero : w.sessions.length = 0
      · rw [if_pos hzero]
        exact h
      · rw [if_neg hzero]
        have hk : w.session = some (w.sessions.length - 1) := by rw [session, if_neg hzero]
        have hlast : w.sessions.length - 1 < w.sessions.length := by omega
        have hframe := frame_startBind cfg w
        have hsame := hframe.same
        refine (h.frame hframe).connectStep ?_
          (stepOk_startBind hk (getElem?_eq_getElem hlast)) fun hthrew => ?_
        · rw [hsame]
          exact hne
        · have hends : (w.startBind cfg).2 = .threw := hthrew
          have hboth := hthrows (by simp [bindThrows, hconnecting, hends])
          rw [hsame]
          exact hboth
  · have hidle : w.sdkConnected cfg s = w := by
      unfold ServerRuntime.sdkConnected
      split
      case h_3 => rfl
      all_goals
        next heq => exact absurd heq hconnecting
    rw [hidle]
    exact h

theorem Inv.sdkFailed (retryable : Bool) : Inv cfg (w.sdkFailed retryable) := by
  rw [ServerRuntime.sdkFailed]
  by_cases hconnecting : w.connecting = some .connecting
  · rw [if_pos hconnecting]
    have hne : w.connecting ≠ none := by rw [hconnecting]; simp
    obtain ⟨hconnected, hclosing⟩ := h.connecting hne
    refine ⟨fun hdown => absurd (h.down hdown).2.1 hne, h.silent, h.ready, h.bridges, h.offBridge,
      fun hnone => absurd rfl hnone, h.restoring, fun hsome => absurd hclosing hsome, ?_, ?_, ?_,
      h.restoreBinds⟩
    · intro hyes
      have hyes' : w.connected = true := hyes
      rw [hconnected] at hyes'
      cases hyes'
    · intro howed
      obtain ⟨hpending, hsubscribed⟩ := h.owed howed
      exact ⟨by simp [hpending], hsubscribed⟩
    · intro phase hphase
      cases hphase
  · rw [if_neg hconnecting]
    exact h

/-- The later awaits of a connect. -/
theorem Inv.connectTurn (turn : BindTurn)
    (hthrows : w.bindThrows cfg (.connectTurn turn) = true →
      w.connectPending = true ∧ w.subscribed = true) : Inv cfg (w.connectTurn cfg turn) := by
  unfold ServerRuntime.connectTurn
  split
  · next phase hconnecting =>
    have hframe := frame_bindTurn cfg w phase turn
    have hsame := hframe.same
    refine (h.frame hframe).connectStep ?_ (stepOk_bindTurn (h.connectBinds phase hconnecting) turn)
      fun hthrew => ?_
    · rw [hsame]
      show w.connecting ≠ none
      rw [hconnecting]
      simp
    · have hends : (w.bindTurn cfg phase turn).2 = .threw := hthrew
      have hboth := hthrows (by simp [bindThrows, hconnecting, hends])
      rw [hsame]
      exact hboth
  · exact h

end

/-! ### A restore -/

theorem session_resting (w : ServerRuntime) (status : String) :
    ({ w with restoring := none, lastStatus := status } : ServerRuntime).session = w.session := rfl

section

variable (h : Inv cfg w)
include h

/-- A restore goes on as its bind does. -/
theorem Inv.restoreStep {step : BindStep} (hconnected : w.connected = true)
    (hclosing : w.closing = []) (hok : StepOk cfg (w, step)) :
    Inv cfg (restoreStep (w, step)) := by
  have hup : w.stoodDown = false := by
    by_cases hdown : w.stoodDown = true
    · rw [(h.down hdown).1] at hconnected
      cases hconnected
    · exact eq_false_iff.2 hdown
  cases step with
  | waits phase =>
    refine ⟨h.down, h.silent, h.ready, h.bridges, h.offBridge, h.connecting,
      fun _ => ⟨hconnected, hclosing⟩, h.closing, h.connected, h.owed, h.connectBinds, ?_⟩
    intro phase' hphase
    cases hphase
    exact hok
  | done =>
    obtain ⟨k, hk, hready⟩ := hok
    have hemitted : ∀ session stoodDown,
        .runtimeConnected session stoodDown ∈ (ServerRuntime.restoreStep (w, .done)).emitted →
        .runtimeConnected session stoodDown ∈ w.emitted ∨
          (session = some k ∧ stoodDown = false) := by
      intro session stoodDown hmem
      simpa [ServerRuntime.restoreStep, emit, session_resting, hk, hup] using hmem
    refine ⟨h.down, ?_, ?_, h.bridges, h.offBridge, h.connecting, fun hne => absurd rfl hne,
      h.closing, h.connected, h.owed, h.connectBinds, ?_⟩
    · intro session stoodDown hmem
      rcases hemitted session stoodDown hmem with hold | ⟨-, hnew⟩
      · exact h.silent session stoodDown hold
      · exact hnew
    · intro session stoodDown hmem
      rcases hemitted session stoodDown hmem with hold | ⟨rfl, -⟩
      · exact h.ready session stoodDown hold
      · exact ⟨k, rfl, hready⟩
    · intro phase hphase
      cases hphase
  | threw =>
    have hemitted : ∀ session stoodDown,
        .runtimeConnected session stoodDown ∈ (ServerRuntime.restoreStep (w, .threw)).emitted →
        .runtimeConnected session stoodDown ∈ w.emitted := by
      intro session stoodDown hmem
      simpa [ServerRuntime.restoreStep, emit] using hmem
    refine ⟨h.down, fun session stoodDown hmem => h.silent _ _ (hemitted session stoodDown hmem),
      fun session stoodDown hmem => h.ready _ _ (hemitted session stoodDown hmem), h.bridges,
      h.offBridge, h.connecting, fun hne => absurd rfl hne, h.closing, h.connected, h.owed,
      h.connectBinds, ?_⟩
    intro phase hphase
    cases hphase

/-- The hook of the pool, for a transport that came while no session was being bound. -/
theorem Inv.reconnected (s : Session) (hfree : w.binds = false)
    (hclosed : w.subscribed = true → w.closing = []) : Inv cfg (w.reconnected cfg s) := by
  have hinv := h.newSession hfree s
  rw [ServerRuntime.reconnected]
  by_cases hsubscribed : w.subscribed = true
  · have hclosing := hclosed hsubscribed
    rw [if_pos hsubscribed, restoreAfterReconnect]
    by_cases hconnected : w.connected = true
    · rw [if_pos (show (w.newSession s).connected = true from hconnected)]
      by_cases hrestoring : (w.newSession s).restoring.isSome = true
      · rw [if_pos hrestoring]
        exact hinv
      · rw [if_neg hrestoring]
        obtain ⟨hk, hs⟩ := session_newSession w s
        have hframe := frame_startBind cfg (w.newSession s)
        have hsame := hframe.same
        refine (hinv.frame hframe).restoreStep ?_ ?_ (stepOk_startBind hk hs)
        · rw [hsame]
          exact hconnected
        · rw [hsame]
          exact hclosing
    · rw [if_neg (show ¬(w.newSession s).connected = true from hconnected)]
      by_cases hpending : (w.newSession s).connectPending = true
      · rw [if_pos hpending]
        -- a connect that is pending was not stood down
        refine hinv.connect ?_ (Or.inr hclosing)
        by_contra hdown
        have hnone := (hinv.down (not_eq_false _ ▸ hdown)).2.2
        rw [hpending] at hnone
        cases hnone
      · rw [if_neg hpending]
        exact hinv
  · rw [if_neg hsubscribed]
    exact hinv

theorem Inv.restoreTurn (turn : BindTurn) : Inv cfg (w.restoreTurn cfg turn) := by
  unfold ServerRuntime.restoreTurn
  split
  · next phase hrestoring =>
    have hframe := frame_bindTurn cfg w phase turn
    have hsame := hframe.same
    obtain ⟨hconnected, hclosing⟩ := h.restoring (by rw [hrestoring]; simp)
    refine (h.frame hframe).restoreStep ?_ ?_ (stepOk_bindTurn (h.restoreBinds phase hrestoring) turn)
    · rw [hsame]
      exact hconnected
    · rw [hsame]
      exact hclosing
  · exact h

/-! ### The pool, and the way down -/

theorem Inv.handlePoolState (status : String) :
    Inv cfg (w.handlePoolState status) := by
  rw [ServerRuntime.handlePoolState]
  split_ifs with hpassed
  · exact h
  · have hemitted : ∀ session stoodDown,
        .runtimeConnected session stoodDown ∈
          (({ w with lastStatus := status } : ServerRuntime).emit (.connectionState status)).emitted →
        .runtimeConnected session stoodDown ∈ w.emitted := by
      intro session stoodDown hmem
      simpa [emit] using hmem
    exact ⟨h.down, fun session stoodDown hmem => h.silent _ _ (hemitted session stoodDown hmem),
      fun session stoodDown hmem => h.ready _ _ (hemitted session stoodDown hmem), h.bridges,
      h.offBridge, h.connecting, h.restoring, h.closing, h.connected, h.owed, h.connectBinds,
      h.restoreBinds⟩

/-- `disconnect` and `stop` come while no connect and no restore is in progress. `stop` has taken the
hook off the pool before, so that `subscribed` may have changed. -/
theorem Inv.disconnect (hconnecting : w.connecting = none)
    (hrestoring : w.restoring = none) (subscribed stopping : Bool) :
    Inv cfg ({ w with subscribed := subscribed }.disconnect stopping) := by
  rw [ServerRuntime.disconnect]
  by_cases hconnected : w.connected = true
  · rw [if_pos (show ({ w with subscribed := subscribed } : ServerRuntime).connected = true from hconnected)]
    obtain ⟨hpending, howed⟩ := h.connected hconnected
    have hwaiting : w.closing ++ [stopping] ≠ [] := by simp
    -- the one push bridge is detached, if a call that came before has not done so
    have hdetached : (if w.offBridge then w.bridges - 1 else w.bridges) = 0 := by
      by_cases hclosing : w.closing = []
      · rw [if_pos (h.offBridge ⟨hconnected, hclosing⟩), h.bridges, if_pos ⟨hconnected, hclosing⟩]
      · have hzero : w.bridges = 0 := by
          rw [h.bridges, if_neg]
          rintro ⟨-, hnone⟩
          exact hclosing hnone
        split <;> omega
    refine ⟨?_, h.silent, h.ready, ?_, ?_, ?_, ?_, fun _ => hpending, h.connected, ?_, h.connectBinds,
      h.restoreBinds⟩
    · intro hdown
      have hno := (h.down hdown).1
      rw [hconnected] at hno
      cases hno
    · show (if w.offBridge then w.bridges - 1 else w.bridges) = _
      rw [hdetached, if_neg]
      rintro ⟨-, hnone⟩
      exact hwaiting hnone
    · rintro ⟨-, hnone⟩
      exact absurd hnone hwaiting
    · intro hne
      exact absurd hconnecting hne
    · intro hne
      exact absurd hrestoring hne
    · intro howes
      have howes' : w.owed = true := howes
      rw [howed] at howes'
      cases howes'
  · rw [if_neg (show ¬({ w with subscribed := subscribed } : ServerRuntime).connected = true from hconnected)]
    refine ⟨fun _ => ⟨eq_false_iff.2 hconnected, hconnecting, rfl⟩, h.silent, h.ready, h.bridges,
      h.offBridge, h.connecting, h.restoring, fun _ => rfl, ?_, ?_, h.connectBinds, h.restoreBinds⟩
    · intro hyes
      exact absurd hyes hconnected
    · intro howed
      cases howed

/-- The SDK has been closed. -/
theorem Inv.closeSettles (k : Nat) : Inv cfg (w.closeSettles k true) := by
  unfold ServerRuntime.closeSettles
  split
  · next stopping hstopping =>
    have hk : k < w.closing.length := (List.getElem?_eq_some_iff.1 hstopping).1
    have hne : w.closing ≠ [] := by
      intro hnone
      rw [hnone] at hk
      simp at hk
    have hpending := h.closing hne
    -- no connect and no restore is in progress, and the bridge is detached
    have hconnecting : w.connecting = none := by
      by_contra hsome
      exact hne (h.connecting hsome).2
    have hrestoring : w.restoring = none := by
      by_contra hsome
      exact hne (h.restoring hsome).2
    have hbridges : w.bridges = 0 := by
      rw [h.bridges, if_neg]
      rintro ⟨-, hnone⟩
      exact hne hnone
    have hemitted : ∀ session stoodDown,
        .runtimeConnected session stoodDown ∈ (({ w with
          closing := w.closing.eraseIdx k
          connected := false
          lastStatus := "disconnected"
          stoodDown := true }.emit .runtimeDisconnected).emit
            (.connectionState "disconnected")).emitted →
        .runtimeConnected session stoodDown ∈ w.emitted := by
      intro session stoodDown hmem
      simpa [emit] using hmem
    rw [if_pos rfl]
    refine ⟨fun _ => ⟨rfl, hconnecting, hpending⟩,
      fun session stoodDown hmem => h.silent _ _ (hemitted session stoodDown hmem),
      fun session stoodDown hmem => h.ready _ _ (hemitted session stoodDown hmem), ?_, ?_, ?_, ?_,
      fun _ => hpending, ?_, h.owed, h.connectBinds, h.restoreBinds⟩
    · show w.bridges = _
      rw [hbridges, if_neg]
      rintro ⟨hno, -⟩
      cases hno
    · rintro ⟨hno, -⟩
      cases hno
    · intro hsome
      exact absurd hconnecting hsome
    · intro hsome
      exact absurd hrestoring hsome
    · intro hno
      cases hno
  · exact h

/-! ## The life cycle -/

/-- Every event that does not cross another keeps the invariant. -/
theorem Inv.step {e : Event} (he : w.Undisturbed cfg e) : Inv cfg (w.step cfg e) := by
  obtain ⟨huncrossed, hthrows⟩ := he
  cases e with
  | connect => exact h.called.connect rfl huncrossed
  | sdkConnected s => exact h.sdkConnected s hthrows
  | sdkFailed retryable => exact h.sdkFailed retryable
  | connectTurn turn => exact h.connectTurn turn hthrows
  | reconnected s => exact h.reconnected s huncrossed.1 huncrossed.2
  | restoreTurn turn => exact h.restoreTurn turn
  | poolState status => exact h.handlePoolState status
  | disconnect => exact h.disconnect huncrossed.1 huncrossed.2 w.subscribed false
  | stop => exact h.disconnect huncrossed.1 huncrossed.2 false true
  | closeSettles k ok =>
    have hok : ok = true := huncrossed
    rw [hok]
    exact h.closeSettles k

end

/-- Where no event crosses another, the runtime is lawful in every state that it goes through. -/
theorem run_lawful (cfg : Config) {es : List Event}
    (h : Runs.Meets (step cfg) (Undisturbed cfg) start es) (n : Nat) :
    Lawful cfg (after cfg (es.take n)) := by
  refine Runs.throughout (step cfg) (fun is hm => Inv.lawful ?_) es h n
  exact Runs.invariant (I := Inv cfg) (step cfg) (fun _ _ hw he => hw.step he) is start
    (inv_start cfg) hm

end ServerRuntime

/-- A member of an account, at a home that serves many devices. -/
def member : Config := ⟨false, true, true⟩

def shared : Session := ⟨true, true⟩

/-- The home cannot be reached at first; the connect that was pending fails once more, while its device
is bound, and the next reconnect completes it. The transport is replaced then, and the runtime is
stopped. -/
def offlineBoot : List Event :=
  [.connect, .sdkFailed true, .reconnected shared, .sdkConnected none, .connectTurn .ok,
    .connectTurn .fails, .reconnected shared, .sdkConnected none, .connectTurn .reclaimed,
    .connectTurn .ok, .connectTurn .ok, .connectTurn .ok, .connectTurn .ok, .connectTurn .ok,
    .poolState "reconnecting", .reconnected shared, .restoreTurn .ok, .restoreTurn .ok,
    .restoreTurn .ok, .restoreTurn .ok, .stop, .closeSettles 0 true]

theorem run_lawful_offlineBoot :
    (ServerRuntime.after member offlineBoot).stoodDown = true ∧
      (ServerRuntime.after member offlineBoot).emitted.length = 7 ∧
      ∀ n, ServerRuntime.Lawful member (ServerRuntime.after member (offlineBoot.take n)) :=
  ⟨by decide, by decide, ServerRuntime.run_lawful member (by decide)⟩

/-- `disconnect` comes while the first connect is on its way, and the connect completes after it. -/
theorem connected_after_disconnect :
    ¬ ∀ cfg es, ServerRuntime.Lawful cfg (ServerRuntime.after cfg es) := by
  intro h
  have hlawful := h member [.connect, .sdkConnected (some shared), .disconnect, .connectTurn .ok,
    .connectTurn .ok, .connectTurn .ok, .connectTurn .ok]
  have hdown := hlawful.down (by decide)
  revert hdown
  decide

end RezChat.Runtime.Binding
