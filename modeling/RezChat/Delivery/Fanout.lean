/-
Sending to the devices of a peer (`services/ServerMessagesService.js`, `#fanOutToPeerDevices`;
`storage/DeviceFanoutCacheStore.js`).

A body is sealed once for each device of the peer, and the sealed bytes are kept in a durable
slot, so that a retry dispatches the same bytes. A device that was reached is marked in its
slot and passed over from then on. The devices of one fan-out are served side by side, and
several fan-outs may be under way at once, so each device of each fan-out has a progress of its
own, and one step is one operation of one of them.

The log is what was done under which key, newest first: bodies sealed, bytes dispatched (or
tried to), slots marked. No step reads it.
-/
import RezChat.Devices.PeerSets
import RezChat.Lib.Tasks

set_option autoImplicit false

namespace RezChat.Delivery

open Inbox (trim)
open Devices (PeerDevice)

/-! ## Slots -/

structure SlotCoords where
  ownerAccountId : String
  peerAccountId : String
  messageId : String
  peerDeviceId : String

/-- The four fields, separated by NUL. -/
def slotMaterial (coords : SlotCoords) : String :=
  coords.ownerAccountId ++ String.singleton (Char.ofNat 0) ++ (coords.peerAccountId ++
    String.singleton (Char.ofNat 0) ++ (coords.messageId ++ String.singleton (Char.ofNat 0) ++
      coords.peerDeviceId))

/-- The key of a slot. The digest of the material stands for the material. -/
def slotKey (coords : SlotCoords) : String := "app:devicefanout/" ++ slotMaterial coords

/-- What goes out: a message under its id, or a mutation that is delivered at some time. -/
inductive Outbound where
  | message (messageId : String)
  | mutation (deliveredAtMs : Nat)
  deriving DecidableEq

/-- The `eventTag` of what goes out, which is the `messageId` of its slots. -/
def Outbound.eventTag : Outbound → String
  | .message messageId => messageId
  | .mutation deliveredAtMs => "mut-" ++ toString deliveredAtMs

/-- A sealed body. Each sealing advances the ratchet of the device, so each has a number. -/
structure Sealed where
  number : Nat
  body : String
  peerDeviceId : String
  deliverInboxId : String
  deriving DecidableEq

/-- `DeviceFanoutCacheEntryV1`, without the coordinates that nothing reads. -/
structure FanoutEntry where
  sealedBody : Sealed
  deliveredOk : Bool
  createdAtMs : Int
  deriving DecidableEq

/-- `DEFAULT_TTL_MS`. -/
def fanoutTtlMs : Int := 72 * 60 * 60 * 1000

/-- An entry that is too old reads as a miss. -/
def FanoutEntry.Expired (e : FanoutEntry) (nowMs : Int) : Prop := nowMs - e.createdAtMs > fanoutTtlMs

instance (e : FanoutEntry) (nowMs : Int) : Decidable (e.Expired nowMs) :=
  inferInstanceAs (Decidable (_ > _))

/-! ## What a fan-out starts from -/

/-- What `resolveForPeer` answers. -/
inductive ResolveAnswer where
  | failed
  | noSet
  | set (devices : List PeerDevice)

structure FanoutCall where
  multiDeviceFanout : Bool
  canSeal : Bool
  peerAccountId : String
  outbound : Outbound
  body : String
  resolved : ResolveAnswer

inductive FanoutStart where
  /-- `return null`: the caller sends to a single device. -/
  | singleDevice
  | throws
  | fanOut (peer : String) (devices : List PeerDevice)
  deriving DecidableEq

/-- `#fanOutToPeerDevices`, up to the devices. -/
def FanoutCall.start (call : FanoutCall) : FanoutStart :=
  if call.multiDeviceFanout = false then .singleDevice
  else if call.canSeal = false then .throws
  else if trim call.peerAccountId = "" then .throws
  else
    match call.resolved with
    | .failed => .throws
    | .noSet => .singleDevice
    | .set [] => .throws
    | .set (device :: devices) => .fanOut (trim call.peerAccountId) (device :: devices)

/-! ## One device -/

inductive DeviceOutcome where
  | alreadyDelivered
  | handled (queued : Bool)
  | failed
  deriving DecidableEq

/-- What a device is at. -/
inductive DevicePhase where
  | lookup
  | evict
  | sealing
  | put (s : Sealed)
  | dispatch (s : Sealed)
  | settled (outcome : DeviceOutcome)
  deriving DecidableEq

/-- The progress of a device. It has no key if its coordinates are not valid. -/
structure DeviceRun where
  key : Option String
  peerDeviceId : String
  deliverInboxId : String
  body : String
  phase : DevicePhase
  deriving DecidableEq

/-- `coordsFor`, with the test of the store. -/
def keyFor (ownerAccountId peer messageId peerDeviceId : String) : Option String :=
  if ownerAccountId = "" ∨ messageId = "" then none
  else some (slotKey ⟨ownerAccountId, peer, messageId, peerDeviceId⟩)

def DeviceRun.start (ownerAccountId peer messageId body : String) (device : PeerDevice) :
    DeviceRun :=
  ⟨keyFor ownerAccountId peer messageId (trim device.deviceId), trim device.deviceId,
    trim device.inboxId, body,
    if trim device.deviceId = "" ∨ trim device.inboxId = "" then .settled .failed else .lookup⟩

/-- A device begins with its lookup, unless it has no id or no inbox. -/
theorem start_phase (ownerAccountId peer messageId body : String)
    (device : PeerDevice) :
    (DeviceRun.start ownerAccountId peer messageId body device).phase = .lookup ∨
      (DeviceRun.start ownerAccountId peer messageId body device).phase = .settled .failed := by
  unfold DeviceRun.start
  split
  · exact .inr rfl
  · exact .inl rfl

/-! ## The fan-outs -/

inductive FanoutPhase where
  | sending
  /-- The marks that are still to be made, and the entry that was read for the first. -/
  | marking (todo : List String) (read : Option FanoutEntry)
  | returned (sentCount queuedCount : Nat)
  /-- `DEVICE_FANOUT_INCOMPLETE`. -/
  | incomplete (failedCount : Nat)
  /-- A mark could not be made. -/
  | threw
  deriving DecidableEq

structure Fanout where
  devices : List DeviceRun
  phase : FanoutPhase
  deriving DecidableEq

/-- It has neither returned nor thrown. -/
def Fanout.Live (f : Fanout) : Prop :=
  match f.phase with
  | .sending | .marking _ _ => True
  | .returned _ _ | .incomplete _ | .threw => False

inductive LogEntry where
  | sealedFor (key : String) (number : Nat)
  | dispatched (key : String) (number : Nat)
  | marked (key : String)
  deriving DecidableEq

/-- The sender: its clock, its cache, and its fan-outs. -/
structure Sender where
  ownerAccountId : String
  clock : Int
  cache : OrdMap String FanoutEntry
  ratchet : Nat
  fanouts : OrdMap Nat Fanout
  begun : Nat
  log : List LogEntry

namespace Sender

def fresh (ownerAccountId : String) (clock : Int) : Sender :=
  ⟨ownerAccountId, clock, OrdMap.empty, 0, OrdMap.empty, 0, []⟩

def put (i : Nat) (f : Fanout) (w : Sender) : Sender := { w with fanouts := w.fanouts.set i f }

/-- The fan-out of a call begins. -/
def begin (call : FanoutCall) (w : Sender) : Sender :=
  match call.start with
  | .singleDevice | .throws => w
  | .fanOut peer devices =>
    { w.put w.begun ⟨devices.map
        (DeviceRun.start w.ownerAccountId peer call.outbound.eventTag call.body), .sending⟩ with
      begun := w.begun + 1 }

/-! ### The slots -/

def storeEntry (key : String) (e : FanoutEntry) (w : Sender) : Sender :=
  { w with cache := w.cache.set key e }

def dropEntry (key : String) (w : Sender) : Sender := { w with cache := w.cache.delete key }

/-- `sealForPeerDevice`. -/
def sealBody (run : DeviceRun) (w : Sender) : Sealed × Sender :=
  (⟨w.ratchet, run.body, run.peerDeviceId, run.deliverInboxId⟩,
    { w with
      ratchet := w.ratchet + 1
      log := (run.key.map fun key => LogEntry.sealedFor key w.ratchet).toList ++ w.log })

def noteDispatch (run : DeviceRun) (s : Sealed) (w : Sender) : Sender :=
  { w with
    log := (run.key.map fun key => LogEntry.dispatched key s.number).toList ++ w.log }

/-- A slot is written with its mark. -/
def mark (key : String) (e : FanoutEntry) (w : Sender) : Sender :=
  { w.storeEntry key { e with deliveredOk := true } with log := .marked key :: w.log }

end Sender

/-! ## Steps -/

/-- What the lookup of a slot leads to. -/
def lookupPhase (nowMs : Int) : Option FanoutEntry → DevicePhase
  | none => .sealing
  | some e =>
    if e.Expired nowMs then .evict
    else if e.deliveredOk = true then .settled .alreadyDelivered
    else .dispatch e.sealedBody

/-- The next operation of a device. -/
def advanceDevice (run : DeviceRun) (fate : Response) (queued : Bool) (w : Sender) :
    DevicePhase × Sender :=
  match run.phase with
  | .lookup =>
    match run.key with
    | none => (.sealing, w)
    | some key =>
      match fate with
      | .ok => (lookupPhase w.clock (w.cache.get? key), w)
      | .throws | .throwsLate => (.settled .failed, w)
  | .evict =>
    match run.key with
    | none => (.sealing, w)
    | some key =>
      match fate with
      | .ok => (.sealing, w.dropEntry key)
      | .throws => (.settled .failed, w)
      | .throwsLate => (.settled .failed, w.dropEntry key)
  | .sealing =>
    match fate with
    | .ok =>
      ((if run.key.isSome = true then .put (w.sealBody run).1 else .dispatch (w.sealBody run).1),
        (w.sealBody run).2)
    | .throws | .throwsLate => (.settled .failed, w)
  | .put s =>
    match run.key with
    | none => (.dispatch s, w)
    | some key =>
      match fate with
      | .ok => (.dispatch s, w.storeEntry key ⟨s, false, w.clock⟩)
      | .throws => (.settled .failed, w)
      | .throwsLate => (.settled .failed, w.storeEntry key ⟨s, false, w.clock⟩)
  | .dispatch s =>
    match fate with
    | .ok => (.settled (.handled queued), w.noteDispatch run s)
    | .throws | .throwsLate => (.settled .failed, w.noteDispatch run s)
  | .settled outcome => (.settled outcome, w)

/-- What an operation of a device with a slot does. -/
theorem advanceDevice_cases (run : DeviceRun) (fate : Response) (queued : Bool) (w : Sender)
    {key : String} (hkey : run.key = some key) :
    ((advanceDevice run fate queued w).2 = w ∧ ((advanceDevice run fate queued w).1 = run.phase ∨
      (advanceDevice run fate queued w).1 = .settled .failed)) ∨
    (run.phase = .lookup ∧ advanceDevice run fate queued w =
      (lookupPhase w.clock (w.cache.get? key), w)) ∨
    (run.phase = .evict ∧ (advanceDevice run fate queued w).2 = w.dropEntry key ∧
      ((advanceDevice run fate queued w).1 = .sealing ∨
        (advanceDevice run fate queued w).1 = .settled .failed)) ∨
    (run.phase = .sealing ∧ advanceDevice run fate queued w =
      (.put (w.sealBody run).1, (w.sealBody run).2)) ∨
    (∃ s, run.phase = .put s ∧
      (advanceDevice run fate queued w).2 = w.storeEntry key ⟨s, false, w.clock⟩ ∧
      ((advanceDevice run fate queued w).1 = .dispatch s ∨
        (advanceDevice run fate queued w).1 = .settled .failed)) ∨
    (∃ s, run.phase = .dispatch s ∧ (advanceDevice run fate queued w).2 = w.noteDispatch run s ∧
      ((advanceDevice run fate queued w).1 = .settled (.handled queued) ∨
        (advanceDevice run fate queued w).1 = .settled .failed)) := by
  have hsome : run.key.isSome = true := by rw [hkey]; rfl
  cases hphase : run.phase with
  | lookup =>
    cases fate with
    | ok => exact .inr (.inl ⟨rfl, by simp only [advanceDevice, hphase, hkey]⟩)
    | throws => exact .inl (by simp [advanceDevice, hphase, hkey])
    | throwsLate => exact .inl (by simp [advanceDevice, hphase, hkey])
  | evict =>
    cases fate with
    | ok => exact .inr (.inr (.inl (by simp [advanceDevice, hphase, hkey])))
    | throws => exact .inl (by simp [advanceDevice, hphase, hkey])
    | throwsLate => exact .inr (.inr (.inl (by simp [advanceDevice, hphase, hkey])))
  | sealing =>
    cases fate with
    | ok =>
      refine .inr (.inr (.inr (.inl ⟨rfl, ?_⟩)))
      simp only [advanceDevice, hphase, if_pos hsome]
    | throws => exact .inl (by simp [advanceDevice, hphase])
    | throwsLate => exact .inl (by simp [advanceDevice, hphase])
  | put s =>
    cases fate with
    | ok =>
      refine .inr (.inr (.inr (.inr (.inl ⟨s, rfl, ?_⟩))))
      simp [advanceDevice, hphase, hkey]
    | throws => exact .inl (by simp [advanceDevice, hphase, hkey])
    | throwsLate =>
      refine .inr (.inr (.inr (.inr (.inl ⟨s, rfl, ?_⟩))))
      simp [advanceDevice, hphase, hkey]
  | dispatch s =>
    refine .inr (.inr (.inr (.inr (.inr ⟨s, rfl, ?_⟩))))
    cases fate with
    | ok => simp [advanceDevice, hphase]
    | throws => simp [advanceDevice, hphase]
    | throwsLate => simp [advanceDevice, hphase]
  | settled o => exact .inl (by simp [advanceDevice, hphase])

/-- A device without a slot writes none. -/
theorem advanceDevice_keyless_cache (run : DeviceRun) (fate : Response) (queued : Bool) (w : Sender)
    (hkey : run.key = none) :
    (advanceDevice run fate queued w).2.cache = w.cache ∧
      (advanceDevice run fate queued w).2.log = w.log := by
  unfold advanceDevice
  cases run.phase with
  | lookup => simp [hkey]
  | evict => simp [hkey]
  | sealing => cases fate <;> simp [hkey, Sender.sealBody]
  | put s => simp [hkey]
  | dispatch s => cases fate <;> simp [hkey, Sender.noteDispatch]
  | settled o => exact ⟨rfl, rfl⟩

/-- A device without a slot is never taken for delivered. -/
theorem advanceDevice_keyless_phase (run : DeviceRun) (fate : Response) (queued : Bool) (w : Sender)
    (hkey : run.key = none) (hphase : run.phase ≠ .settled .alreadyDelivered) :
    (advanceDevice run fate queued w).1 ≠ .settled .alreadyDelivered := by
  unfold advanceDevice
  cases hp : run.phase with
  | lookup => simp [hkey]
  | evict => simp [hkey]
  | sealing => cases fate <;> simp [hkey]
  | put s => simp [hkey]
  | dispatch s => cases fate <;> simp
  | settled o =>
    rw [hp] at hphase
    exact hphase

/-- No operation of a device moves the clock, or any fan-out. -/
theorem advanceDevice_frame (run : DeviceRun) (fate : Response) (queued : Bool) (w : Sender) :
    (advanceDevice run fate queued w).2.ownerAccountId = w.ownerAccountId ∧
      (advanceDevice run fate queued w).2.clock = w.clock ∧
      (advanceDevice run fate queued w).2.fanouts = w.fanouts := by
  unfold advanceDevice
  cases run.phase <;> cases run.key <;> cases fate <;> exact ⟨rfl, rfl, rfl⟩

/-- The devices that a fan-out has to mark. -/
def Fanout.handledKeys (f : Fanout) : List String :=
  f.devices.filterMap fun run =>
    match run.phase with
    | .settled (.handled _) => run.key
    | _ => none

theorem mem_handledKeys {f : Fanout} {key : String} (h : key ∈ f.handledKeys) :
    ∃ run ∈ f.devices, run.key = some key ∧ ∃ q, run.phase = .settled (.handled q) := by
  obtain ⟨run, hmem, hkey⟩ := List.mem_filterMap.1 h
  refine ⟨run, hmem, ?_⟩
  cases hphase : run.phase with
  | settled o =>
    rw [hphase] at hkey
    cases o with
    | handled q => exact ⟨hkey, q, rfl⟩
    | alreadyDelivered => exact absurd hkey (by simp)
    | failed => exact absurd hkey (by simp)
  | lookup => rw [hphase] at hkey; exact absurd hkey (by simp)
  | evict => rw [hphase] at hkey; exact absurd hkey (by simp)
  | sealing => rw [hphase] at hkey; exact absurd hkey (by simp)
  | put s => rw [hphase] at hkey; exact absurd hkey (by simp)
  | dispatch s => rw [hphase] at hkey; exact absurd hkey (by simp)

def Fanout.count (f : Fanout) (p : DeviceOutcome → Bool) : Nat :=
  f.devices.countP fun run =>
    match run.phase with
    | .settled outcome => p outcome
    | _ => false

def DeviceRun.Settled (run : DeviceRun) : Prop := ∃ outcome, run.phase = .settled outcome

instance (run : DeviceRun) : Decidable run.Settled :=
  match h : run.phase with
  | .settled outcome => .isTrue ⟨outcome, h⟩
  | .lookup | .evict | .sealing | .put _ | .dispatch _ =>
    .isFalse fun ⟨_, h'⟩ => by rw [h] at h'; exact absurd h' (by simp)

/-- The end of a fan-out whose marks are made. -/
def Fanout.finish (f : Fanout) : Fanout :=
  if f.count (· = .failed) > 0 then { f with phase := .incomplete (f.count (· = .failed)) }
  else
    { f with
      phase := .returned (f.count fun o => o = .alreadyDelivered || o = .handled false)
        (f.count (· = .handled true)) }

/-- The marks that are left, or the end. -/
def Fanout.markNext (f : Fanout) : List String → Fanout
  | [] => f.finish
  | key :: todo => { f with phase := .marking (key :: todo) none }

@[simp] theorem markNext_devices (f : Fanout) (todo : List String) :
    (f.markNext todo).devices = f.devices := by
  cases todo with
  | nil =>
    show f.finish.devices = f.devices
    unfold Fanout.finish
    split <;> rfl
  | cons key todo => rfl

/-- All devices have settled, and the call goes on. -/
def Sender.collect (i : Nat) (w : Sender) : Sender :=
  match w.fanouts.get? i with
  | some f =>
    if f.phase = .sending ∧ ∀ run ∈ f.devices, run.Settled then
      w.put i (f.markNext f.handledKeys)
    else w
  | none => w

/-- The next operation of `markDelivered`: the entry is read, and written back with the mark. -/
def Sender.markStep (i : Nat) (fate : Response) (w : Sender) : Sender :=
  match w.fanouts.get? i with
  | some f =>
    match f.phase with
    | .marking (key :: todo) none =>
      match fate with
      | .ok =>
        match w.cache.get? key with
        | some e => w.put i { f with phase := .marking (key :: todo) (some e) }
        | none => w.put i (f.markNext todo)
      | .throws | .throwsLate => w.put i { f with phase := .threw }
    | .marking (key :: todo) (some e) =>
      match fate with
      | .ok => (w.mark key e).put i (f.markNext todo)
      | .throws => w.put i { f with phase := .threw }
      | .throwsLate => (w.mark key e).put i { f with phase := .threw }
    | _ => w
  | none => w

/-- The device `k` of a fan-out goes on to a phase. -/
def Sender.putDevice (i k : Nat) (f : Fanout) (run : DeviceRun) (p : DevicePhase) (w : Sender) :
    Sender :=
  w.put i { f with devices := f.devices.set k { run with phase := p } }

/-- The next operation of the device `k` of the fan-out `i`. -/
def Sender.deviceStep (i k : Nat) (fate : Response) (queued : Bool) (w : Sender) : Sender :=
  match w.fanouts.get? i with
  | some f =>
    if f.phase = .sending then
      match f.devices[k]? with
      | some run =>
        (advanceDevice run fate queued w).2.putDevice i k f run
          (advanceDevice run fate queued w).1
      | none => w
    else w
  | none => w

/-- `prune`, of one key. -/
def Sender.prune (key : String) (w : Sender) : Sender :=
  match w.cache.get? key with
  | some e => if e.Expired w.clock then w.dropEntry key else w
  | none => w

/-- What happens to a sender. Whoever drives a delivery, a send, a resend or a sweep, calls for a
fan-out. -/
inductive SenderEvent where
  | fanOut (call : FanoutCall)
  | device (i k : Nat) (fate : Response) (queued : Bool)
  | collect (i : Nat)
  | mark (i : Nat) (fate : Response)
  | tick (clock : Int)
  | prune (key : String)
  | crash

def Sender.step (w : Sender) : SenderEvent → Sender
  | .fanOut call => w.begin call
  | .device i k fate queued => w.deviceStep i k fate queued
  | .collect i => w.collect i
  | .mark i fate => w.markStep i fate
  | .tick clock => { w with clock := clock }
  | .prune key => w.prune key
  | .crash => { w with fanouts := OrdMap.empty }

/-- A sender after some events. -/
def Sender.after (w : Sender) (events : List SenderEvent) : Sender := Runs.run Sender.step w events

end RezChat.Delivery
