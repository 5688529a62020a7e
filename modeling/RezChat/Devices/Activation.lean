/-
The activation of a newly linked device (`services/ServerDeviceActivationService.js`,
`device/DeviceActivationJournal.js`).

A delegated device starts out invisible. It keeps a journal, one record in the key-value
store: it is `BOOTSTRAPPING` until a sibling has attested that the whole baseline was sent,
then `READY`, and `ACTIVE` once its bundle is published, which is what makes it visible. The
service holds a copy of the record in memory, and its entry points may run side by side, so
they are tasks.

What the service does is recorded, newest entry first, and so is what it has under way with
the journal: who reads it, who writes it, and whether a write was ever begun while another
access was pending, or failed after it had taken effect (`disturbed`). No step reads these.
-/
import RezChat.Inbox.Frame
import RezChat.Lib.Journal
import RezChat.Lib.Tasks

set_option autoImplicit false

namespace RezChat.Devices

open RezChat.Task

open Inbox (trim)

/-! ## The journal record -/

inductive ActivationStage where
  | bootstrapping
  | ready
  | active
  deriving DecidableEq

/-- The declared order of the stages. -/
def ActivationStage.rank : ActivationStage → Nat
  | .bootstrapping => 0
  | .ready => 1
  | .active => 2

structure ActivationRecord where
  activationId : String
  stage : ActivationStage
  startedAtMs : Int
  baselineOrigin : String
  horizonLamport : Int
  deriving DecidableEq

/-- The payload of a completion marker, with what the receiver had seen of its origin
before it. A horizon that is no integer is `NaN`. -/
structure Completion where
  activationId : String
  originDeviceId : String
  horizonLamport : Option Int
  seenBeforeLamport : Int
  deriving DecidableEq

/-! ## The device -/

structure Cert where
  certId : Option String
  granteeDeviceId : String

/-- Who the device is: its id, and the chain of the certificates it was delegated by. -/
structure Identity where
  ownDeviceId : String
  certChain : List Cert

/-- `#activationIdFromIdentity`: the certificate of this device, else the first one. -/
def activationIdFromIdentity (me : Identity) : String :=
  match me.certChain.find? fun cert =>
    cert.certId.isSome && (decide (me.ownDeviceId = "") ||
      decide (cert.granteeDeviceId = me.ownDeviceId)) with
  | some cert => cert.certId.getD ""
  | none => (me.certChain.head?.bind Cert.certId).getD ""

/-- What the service did. -/
inductive ActivationEntry where
  | wrote (r : ActivationRecord)
  | observed
  | completed (c : Completion)
  | published
  deriving DecidableEq

/-- The device, as far as its activation goes. `served` is whether the network serves its
bundle, `stored` what the key-value store holds, and `record` the copy in memory. -/
structure Device where
  clock : Int
  served : Bool
  stored : Option ActivationRecord
  record : Option ActivationRecord
  hydrated : Bool
  committing : Bool
  readers : List Nat
  writer : Option Nat
  disturbed : Bool
  entries : List ActivationEntry

namespace Device

/-- A device that was just linked. -/
def fresh (clock : Int) : Device := ⟨clock, false, none, none, false, false, [], none, false, []⟩

/-- What a crash leaves. -/
def restart (d : Device) : Device :=
  { d with record := none, hydrated := false, committing := false, readers := [], writer := none }

def note (e : ActivationEntry) (d : Device) : Device := { d with entries := e :: d.entries }

/-! ### Accesses to the journal -/

def beginRead (i : Nat) (d : Device) : Device := { d with readers := i :: d.readers }

def endRead (i : Nat) (d : Device) : Device := { d with readers := d.readers.filter (· ≠ i) }

/-- The copy in memory becomes what was read. -/
def hydrateWith (i : Nat) (stored : Option ActivationRecord) (d : Device) : Device :=
  { d.endRead i with record := stored, hydrated := true }

def beginWrite (i : Nat) (d : Device) : Device :=
  { d with
    writer := some i
    disturbed := d.disturbed || d.writer.isSome || !d.readers.isEmpty }

def store (r : ActivationRecord) (d : Device) : Device :=
  ({ d with stored := some r }).note (.wrote r)

def endWrite (r : ActivationRecord) (d : Device) : Device :=
  { d with record := some r, writer := none }

def dropWrite (d : Device) : Device := { d with writer := none }

def lateWrite (r : ActivationRecord) (d : Device) : Device :=
  { d.store r with writer := none, disturbed := true }

end Device

/-! ## The journal -/

/-- `hydrate`. -/
def hydrate (i : Nat) : Task Device Unit :=
  act id fun d =>
    if d.hydrated = true then pause (done ())
    else
      act (Device.beginRead i) fun _ => wait fun
        | .ok => act id fun d =>
          pause (act (Device.hydrateWith i d.stored) fun _ => done ())
        | .throws | .throwsLate => act (Device.endRead i) fun _ => pause failed

/-- `#persist`. -/
def persist (i : Nat) (r : ActivationRecord) : Task Device Unit :=
  act (Device.beginWrite i) fun _ => wait fun
    | .ok => act (Device.store r) fun _ =>
      pause (act (Device.endWrite r) fun _ => done ())
    | .throws => act Device.dropWrite fun _ => pause failed
    | .throwsLate => act (Device.lateWrite r) fun _ => pause failed

/-- `ensureBootstrapping`. -/
def ensureBootstrapping (i : Nat) (activationId : String) : Task Device Unit :=
  act id fun d =>
    if trim activationId = "" then failed
    else
      match d.record with
      | some r => if r.activationId = trim activationId then done () else failed
      | none => persist i ⟨trim activationId, .bootstrapping, d.clock, "", 0⟩

/-- `markReady`. -/
def markReady (i : Nat) (baselineOrigin : String) (horizonLamport : Int) : Task Device Unit :=
  act id fun d =>
    match d.record with
    | some r =>
      if r.stage = .bootstrapping then
        persist i { r with
          stage := .ready
          baselineOrigin := baselineOrigin
          horizonLamport := horizonLamport }
      else failed
    | none => failed

/-- `markActive`. -/
def markActive (i : Nat) : Task Device Unit :=
  act id fun d =>
    match d.record with
    | none => persist i ⟨"", .active, d.clock, "", 0⟩
    | some r => if r.stage = .active then done () else persist i { r with stage := .active }

/-! ## The service -/

/-- An asynchronous call is awaited: its caller goes on in a turn of its own. -/
def awaited {α : Type} (t : Task Device α) : Task Device α := do
  let a ← t
  pause (done a)

/-- `publishOwnBundle`: from then on the network serves the bundle. -/
def publishOwnBundle : Task Device Unit := do
  modify (Device.note .published)
  await fun d => ((), { d with served := true })

def republishToAllPeers : Task Device Unit := await fun d => ((), d)

/-- The commit that the first call of `#commit` starts, and that clears itself away. -/
def commitBody (i : Nat) : Task Device Unit :=
  tryCatch (do
    modify fun d => { d with committing := false }
    failed)
    (do
      publishOwnBundle
      republishToAllPeers
      awaited (markActive i)
      modify fun d => { d with committing := false })

/-- A call of `#commit` while another one is under way ends when that one does. -/
def joinCommit : Task Device Unit := wait fun
  | .ok => done ()
  | .throws | .throwsLate => failed

/-- `#commit`. -/
def commit (i : Nat) : Task Device Unit :=
  act id fun d =>
    if d.committing = true then joinCommit
    else do
      modify fun d => { d with committing := true }
      commitBody i

/-- What `syncWithNetwork` answers the connect path. -/
structure Gate where
  publish : Bool
  stage : ActivationStage

/-- Whether the device is in the set that the network serves. -/
def selfInSet (me : Identity) : Task Device Bool :=
  if me.ownDeviceId = "" then pure false
  else await fun d => (d.served, if d.served = true then d.note .observed else d)

/-- The rest of `syncWithNetwork` for a device that is not visible yet. -/
def resumeBootstrapping (i : Nat) (activationId : String) : Task Device Gate :=
  if activationId = "" then pure ⟨true, .active⟩
  else do
    awaited (ensureBootstrapping i activationId)
    -- the request for a baseline is passed over when it fails
    tryCatch (pure ()) (await fun d => ((), d))
    pure ⟨false, .bootstrapping⟩

/-- `syncWithNetwork`. -/
def syncWithNetwork (me : Identity) (i : Nat) : Task Device Gate := do
  hydrate i
  let inSet ← selfInSet me
  if inSet = true then do
    awaited (markActive i)
    pure ⟨true, .active⟩
  else
    act id fun d =>
      match d.record with
      | none => resumeBootstrapping i (activationIdFromIdentity me)
      | some r =>
        match r.stage with
        | .active => pure ⟨true, .active⟩
        | .ready => do
          awaited (commit i)
          pure ⟨false, .active⟩
        | .bootstrapping => resumeBootstrapping i r.activationId

/-- The connect path of the runtime service: it publishes if the activation lets it. -/
def connect (me : Identity) (i : Nat) : Task Device Unit := do
  let gate ← awaited (syncWithNetwork me i)
  if gate.publish = true then
    tryCatch (pure ()) (do
      publishOwnBundle
      republishToAllPeers)
  else pure ()

/-- The marker is one that completes the activation of the record. -/
def Completion.Completes (c : Completion) (r : ActivationRecord) (horizon : Int) : Prop :=
  r.stage = .bootstrapping ∧ c.activationId = r.activationId ∧
    c.horizonLamport = some horizon ∧ horizon ≤ c.seenBeforeLamport

instance (c : Completion) (r : ActivationRecord) (horizon : Int) :
    Decidable (c.Completes r horizon) :=
  inferInstanceAs (Decidable (_ ∧ _))

/-- `onBaselineComplete`. -/
def onBaselineComplete (i : Nat) (c : Completion) : Task Device Bool := do
  hydrate i
  modify (Device.note (.completed c))
  act id fun d =>
    match d.record, c.horizonLamport with
    | some r, some horizon =>
      if c.Completes r horizon then do
        awaited (markReady i c.originDeviceId horizon)
        awaited (commit i)
        pure true
      else pure false
    | _, _ => pure false

/-! ## Runs -/

/-- What calls the service. -/
inductive Entry where
  | connect
  | sync
  | baselineComplete (c : Completion)

/-- A call of the service. -/
def Entry.task (me : Identity) (i : Nat) : Entry → Task Device Unit
  | .connect => Devices.connect me i
  | .sync => do
    let _ ← syncWithNetwork me i
    pure ()
  | .baselineComplete c => do
    let _ ← onBaselineComplete i c
    pure ()

/-- What happens to a device: the service is called, a call goes on, the network serves the
bundle or no longer does, time passes, or the process dies. -/
inductive Act where
  | call (e : Entry)
  | resume (i : Nat) (r : Response)
  | network (served : Bool)
  | tick (clock : Int)
  | crash

def Act.toStep (me : Identity) : Act → Pool.Step Device
  | .call e => .start fun i => e.task me i
  | .resume i r => .resume i r
  | .network served => .elsewhere fun d => { d with served := served }
  | .tick clock => .elsewhere fun d => { d with clock := clock }
  | .crash => .crash

/-- One step of a device. -/
def step (me : Identity) (p : Pool Device) (a : Act) : Pool Device :=
  Pool.step Device.restart p (a.toStep me)

end RezChat.Devices
