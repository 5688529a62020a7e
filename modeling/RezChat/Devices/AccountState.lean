/-
Account-state sync (`ServerAccountStateSyncService.js`, with the record
`AccountStateEventPayloadV1.js`).

A device that changes its contacts tells the other devices of the account. It numbers what it tells:
the number is the next one of a counter that it keeps in the store, and the reads and writes of that
counter go through a chain of promises, one after the other. The event is signed, and sent to each
device; where a send fails it is kept, and sent again later. A device that was just linked is told
of all contacts, and then that this was all.

The device that is told keeps, for each other one, the highest number that it has applied, and
applies nothing that does not exceed it.

The calls of the sending side are tasks, since any number of them are under way at once. The links
of the chain are steps of their own: a call that waits for its link does not go on before the link
is settled. What is told to a device comes in one at a time (`InboundDepositPipeline.js`); the
receiving side is a procedure.
-/
import RezChat.Lib.Tasks
import RezChat.Inbox.Frame

set_option autoImplicit false

namespace RezChat.Devices

open RezChat.Task

open Inbox (trim trimmed)

/-! ## The events -/

/-- What an account-state event is about. -/
inductive AccountStateOp where
  | contactUpsert
  | contactRemove
  | baselineComplete
  | baselineRequest

/-- The fields that the payload of an event may have. -/
structure StatePayload where
  accountId : Option String
  relationshipState : Option String
  displayName : Option String
  peerInboxId : Option String
  peerLinkId : Option String
  threadId : Option String
  remoteAccountIdentityPublicKeyB64 : Option String
  remoteIdentityDhPublicKeyB64 : Option String
  activationId : Option String
  requestInboxId : Option String
  horizonLamport : Option Int

/-- A payload of no field. -/
def StatePayload.blank : StatePayload :=
  ⟨none, none, none, none, none, none, none, none, none, none, none⟩

/-- What an event is made of. An op that is none of the four is read as the first one. -/
structure RawStateEvent where
  op : Option AccountStateOp
  lamport : Int
  originDeviceId : String
  originDevicePublicKeyB64 : String
  payload : Option StatePayload
  issuedAtMs : Int
  sig : String

/-- An `AccountStateEventPayloadV1`. -/
structure AccountStateEvent where
  op : AccountStateOp
  lamport : Int
  originDeviceId : String
  originDevicePublicKeyB64 : String
  payload : StatePayload
  issuedAtMs : Int
  sig : String

/-- `OP_REQUIRED_FIELDS`, each with its name. -/
def AccountStateOp.requiredFields : AccountStateOp → List (String × (StatePayload → Option String))
  | .contactUpsert =>
    [("accountId", StatePayload.accountId), ("relationshipState", StatePayload.relationshipState)]
  | .contactRemove => [("accountId", StatePayload.accountId)]
  | .baselineComplete => [("activationId", StatePayload.activationId)]
  | .baselineRequest => [("activationId", StatePayload.activationId)]

def AccountStateOp.name : AccountStateOp → String
  | .contactUpsert => "contact.upsert"
  | .contactRemove => "contact.remove"
  | .baselineComplete => "activation.baselineComplete"
  | .baselineRequest => "activation.baselineRequest"

/-- `MAX_PAYLOAD_JSON_BYTES`. -/
def maxPayloadJsonBytes : Nat := 4096

/-- The first required field that a payload lacks. -/
def AccountStateOp.missingField (op : AccountStateOp) (payload : StatePayload) : Option String :=
  (op.requiredFields.find? fun field => decide ((field.2 payload).getD "" = "")).map Prod.fst

/-- The constructor of the record. `jsonLength` is the length of a payload's text. -/
def AccountStateEvent.new (jsonLength : StatePayload → Nat) (raw : RawStateEvent) :
    Except String AccountStateEvent :=
  let op := raw.op.getD .contactUpsert
  let originDeviceId := trim raw.originDeviceId
  let originDevicePublicKeyB64 := trim raw.originDevicePublicKeyB64
  let sig := trim raw.sig
  if raw.lamport ≤ 0 then .error "lamport > 0 required"
  else if originDeviceId = "" then .error "originDeviceId required"
  else if originDevicePublicKeyB64 = "" then .error "originDevicePublicKeyB64 required"
  else
    match raw.payload with
    | none => .error "payload required"
    | some payload =>
      if maxPayloadJsonBytes < jsonLength payload then .error "payload exceeds 4096B limit"
      else if raw.issuedAtMs ≤ 0 then .error "issuedAtMs > 0 required"
      else if sig = "" then .error "sig required"
      else if "rez:dev:".toList.isPrefixOf originDeviceId.toList = false then
        .error "AccountStateEventPayloadV1.originDeviceId must be a rez:dev: id"
      else
        match op.missingField payload with
        | some field =>
          .error ("AccountStateEventPayloadV1 " ++ op.name ++ " payload." ++ field ++
            " must be a non-empty string")
        | none =>
          .ok ⟨op, raw.lamport, originDeviceId, originDevicePublicKeyB64, payload, raw.issuedAtMs, sig⟩

/-- A record keeps the number that it is made with, and the op where that is known. -/
theorem AccountStateEvent.new_ok {jsonLength : StatePayload → Nat} {raw : RawStateEvent}
    {e : AccountStateEvent} (h : AccountStateEvent.new jsonLength raw = .ok e) :
    e.lamport = raw.lamport ∧ 0 < raw.lamport ∧ e.op = raw.op.getD .contactUpsert ∧
      raw.payload = some e.payload := by
  rw [AccountStateEvent.new] at h
  by_cases hlamport : raw.lamport ≤ 0
  · rw [if_pos hlamport] at h
    cases h
  rw [if_neg hlamport] at h
  by_cases hid : trim raw.originDeviceId = ""
  · rw [if_pos hid] at h
    cases h
  rw [if_neg hid] at h
  by_cases hkey : trim raw.originDevicePublicKeyB64 = ""
  · rw [if_pos hkey] at h
    cases h
  rw [if_neg hkey] at h
  cases hpayload : raw.payload with
  | none =>
    rw [hpayload] at h
    cases h
  | some payload =>
    rw [hpayload] at h
    simp only at h
    split_ifs at h
    cases hmissing : (raw.op.getD .contactUpsert).missingField payload with
    | some field =>
      rw [hmissing] at h
      cases h
    | none =>
      rw [hmissing] at h
      rw [← Except.ok.inj h]
      exact ⟨rfl, Int.not_le.1 hlamport, rfl, rfl⟩

/-! ## The sending side -/

/-- A device that a send is for. -/
structure StateTarget where
  deviceId : String
  inboxId : String

/-- A send that failed and is kept. -/
structure PendingSend where
  event : AccountStateEvent
  attempts : Nat

/-- What the service uses: its own device, the SDK, and the signature. -/
structure SyncEnv where
  deviceId : String
  devicePublicKeyB64 : String
  /-- The SDK has what a send needs. -/
  sdkReady : Bool
  canSign : Bool
  jsonLength : StatePayload → Nat
  signableBytes : Option AccountStateOp → Int → String → String → StatePayload → Int → String
  /-- The signature that is given, if any; the call throws where it is `none`. -/
  signAccountStateEvent : String → Option (Option String)

structure Sync where
  /-- The counter in the store. -/
  lamport : Option Int
  /-- The sends that are kept, by the inbox and the number of the event. -/
  pending : OrdMap (String × Int) PendingSend
  reconcileAt : Option Int
  homeFanout : Bool
  accountMultiDevice : Bool
  clockMs : Int
  /-- The calls whose links are not settled, in the order in which the links were made. -/
  lamportChain : List Nat
  /-- What the first link has read, if it has. -/
  reading : Option Int
  /-- The links that are settled: the number each was resolved with, or none if it was rejected. -/
  settled : OrdMap Nat (Option Int)
  /-- The numbers that links were resolved with, the latest first. No step reads this, nor the two
  fields below. -/
  allocated : List Int
  /-- The events that were made, the latest first. -/
  made : List AccountStateEvent
  /-- What was dispatched, the latest first. -/
  emitted : List AccountStateEvent

namespace Sync

/-- A device on which nothing was told yet. -/
def fresh (clockMs : Int) : Sync :=
  ⟨none, OrdMap.empty, none, false, false, clockMs, [], none, OrdMap.empty, [], [], []⟩

variable (s : Sync)

/-- What the end of the process leaves. -/
def restart : Sync :=
  { fresh s.clockMs with
    lamport := s.lamport
    pending := s.pending
    reconcileAt := s.reconcileAt
    allocated := s.allocated
    made := s.made
    emitted := s.emitted }

/-- `isEnabled`. -/
def isEnabled (env : SyncEnv) : Bool :=
  (s.homeFanout || s.accountMultiDevice) && decide (env.deviceId ≠ "") && env.sdkReady

/-- A link is added to the chain. -/
def enqueue (i : Nat) : Sync :=
  { s with lamportChain := s.lamportChain ++ [i], settled := s.settled.delete i }

/-- The first link is settled. -/
def settle (i : Nat) (rest : List Nat) (result : Option Int) : Sync :=
  { s with lamportChain := rest, reading := none, settled := s.settled.set i result }

/-- The first link of the chain goes on: it reads the counter, and then writes the next number and
is resolved with it. A read or a write that fails rejects the link. -/
def link (r : Response) : Sync :=
  match s.lamportChain with
  | [] => s
  | i :: rest =>
    match s.reading, r with
    | none, .ok => { s with reading := some (s.lamport.getD 0) }
    | none, _ => s.settle i rest none
    | some current, .ok =>
      { s.settle i rest (some (current + 1)) with
        lamport := some (current + 1)
        allocated := (current + 1) :: s.allocated }
    | some _, .throws => s.settle i rest none
    | some current, .throwsLate => { s.settle i rest none with lamport := some (current + 1) }

/-- An event is made of what was signed. The call has used up its number. -/
def make (i : Nat) (event : AccountStateEvent) : Sync :=
  { s with made := event :: s.made, settled := s.settled.delete i }

def emit (event : AccountStateEvent) : Sync := { s with emitted := event :: s.emitted }

def stash (inboxId : String) (event : AccountStateEvent) : Sync :=
  { s with pending := s.pending.set (inboxId, event.lamport) ⟨event, 0⟩ }

end Sync

section Calls

variable (env : SyncEnv)

/-- `#nextLamport`. -/
def nextLamport (i : Nat) : Task Sync Int := do
  modify fun s => s.enqueue i
  pause (pure ())
  let s ← get
  match s.settled.get? i with
  | some (some lamport) => pure lamport
  | _ => failed

/-- What the outside answers, if it does. -/
def answered {α : Type} (a : α) : Task Sync α := await fun s => (a, s)

/-- The deposit is built and dispatched. -/
def dispatch (event : AccountStateEvent) : Task Sync Unit := do
  answered ()
  await fun s => ((), s.emit event)

/-- `#stashPending`. A write that fails is logged. -/
def stashPending (inboxId : String) (event : AccountStateEvent) : Task Sync Unit :=
  tryCatch (pure ()) (await fun s => ((), s.stash inboxId event))

/-- Whether a send succeeded. -/
def sent (event : AccountStateEvent) : Task Sync Bool :=
  tryCatch (pure false) do
    dispatch event
    pure true

/-- The loop of `replicate` over the devices. -/
def fanOut (direct : Bool) (event : AccountStateEvent) : List StateTarget → Nat → Task Sync Nat
  | [], fannedOut => pure fannedOut
  | target :: targets, fannedOut =>
    if target.inboxId = "" then fanOut direct event targets fannedOut
    else do
      let ok ← sent event
      if ok = true then fanOut direct event targets (fannedOut + 1)
      else if direct = true then fanOut direct event targets fannedOut
      else do
        stashPending target.inboxId event
        fanOut direct event targets fannedOut

/-- What `replicate` is called with. `resolution` is what `siblingTargets` answers, none where it
defers. -/
structure ReplicateCall where
  op : Option AccountStateOp
  payload : StatePayload
  targets : Option (List StateTarget)
  resolution : Option (List StateTarget)

/-- The targets of a round: none where it is deferred. -/
def ReplicateCall.siblings (call : ReplicateCall) : Task Sync (Option (List StateTarget)) :=
  match call.targets with
  | some targets => pure (some (targets.filter fun target => trim target.inboxId ≠ ""))
  | none => answered call.resolution

/-- The rest of `replicate`, with the devices that are told. -/
def replicateTo (i : Nat) (call : ReplicateCall) (siblings : List StateTarget) : Task Sync Nat := do
  if env.devicePublicKeyB64 = "" ∨ env.canSign = false then pure 0
  else do
    let lamport ← nextLamport i
    let s ← get
    let issuedAtMs := s.clockMs
    let signable := env.signableBytes call.op lamport env.deviceId env.devicePublicKeyB64 call.payload
      issuedAtMs
    let sig ← tryCatch (pure none) do
      let sig ← compute (env.signAccountStateEvent signable)
      pure (some (sig.getD ""))
    match sig with
    | none => pure 0
    | some sig =>
      match AccountStateEvent.new env.jsonLength ⟨call.op, lamport, env.deviceId,
        env.devicePublicKeyB64, some call.payload, issuedAtMs, sig⟩ with
      | .error _ => pure 0
      | .ok event => do
        modify fun s => s.make i event
        fanOut call.targets.isSome event siblings 0

/-- `replicate`: to how many devices the event was sent. -/
def replicate (i : Nat) (call : ReplicateCall) : Task Sync Nat := do
  let s ← get
  if s.isEnabled env = false then pure 0
  else do
    let siblings ← call.siblings
    match siblings with
    | none => pure 0
    | some [] => pure 0
    | some (target :: targets) => replicateTo env i call (target :: targets)

/-- `MAX_SEND_ATTEMPTS`. -/
def maxSendAttempts : Nat := 8

/-- One round of `flushPending`'s loop. A failure of the store ends the call. -/
def flushOne (allowed : List String) (key : String × Int) : Task Sync Unit := do
  let rec ← await fun s => (s.pending.get? key, s)
  match rec with
  | none => pure ()
  | some rec =>
    let drop : Task Sync Unit := await fun s => ((), { s with pending := s.pending.delete key })
    if key.1 ∉ allowed then drop
    else
      tryCatch
        (if maxSendAttempts ≤ rec.attempts + 1 then drop
          else await fun s =>
            ((), { s with pending := s.pending.set key ⟨rec.event, rec.attempts + 1⟩ }))
        (do
          dispatch rec.event
          drop)

def flushAll (allowed : List String) : List (String × Int) → Task Sync Unit
  | [] => pure ()
  | key :: keys => do
    flushOne allowed key
    flushAll allowed keys

/-- `flushPending`. -/
def flushPending (resolution : Option (List StateTarget)) : Task Sync Unit := do
  let s ← get
  if s.isEnabled env = false then pure ()
  else do
    let targets ← answered resolution
    match targets with
    | none => pure ()
    | some targets => do
      let keys ← tryCatch (pure []) (await fun s => (s.pending.keys, s))
      flushAll (targets.map StateTarget.inboxId) keys

/-- What the peer link to a contact says. -/
structure PeerRelation where
  peerInboxId : String
  peerLinkId : String
  remoteAccountIdentityPublicKeyB64 : String
  remoteIdentityDhPublicKeyB64 : String

/-- A contact, with the peer link to it and the thread with it. -/
structure ContactToTell where
  accountId : String
  relationshipState : String
  displayName : String
  relation : Option PeerRelation
  threadId : Option String

/-- What is told of a contact. A peer link that cannot be read is left out. -/
def ContactToTell.payload (c : ContactToTell) (relation : Option PeerRelation) : StatePayload :=
  let told := { StatePayload.blank with
    accountId := some c.accountId
    relationshipState := some "active"
    displayName := some c.displayName }
  match relation with
  | none => told
  | some r =>
    { told with
      peerInboxId := some r.peerInboxId
      peerLinkId := some r.peerLinkId
      threadId := if r.peerLinkId = "" then none else c.threadId
      remoteAccountIdentityPublicKeyB64 := some r.remoteAccountIdentityPublicKeyB64
      remoteIdentityDhPublicKeyB64 := some r.remoteIdentityDhPublicKeyB64 }

/-- The loop of `#replicateAllActiveContacts`. -/
def replicateContacts (i : Nat) (targets resolution : Option (List StateTarget)) :
    List ContactToTell → Nat → Task Sync Nat
  | [], reconciled => pure reconciled
  | c :: contacts, reconciled =>
    if c.accountId = "" ∨ c.relationshipState ≠ "active" then
      replicateContacts i targets resolution contacts reconciled
    else do
      let relation ← tryCatch (pure none) (answered c.relation)
      let _ ← replicate env i ⟨some .contactUpsert, c.payload relation, targets, resolution⟩
      replicateContacts i targets resolution contacts (reconciled + 1)

/-- `#replicateAllActiveContacts`. -/
def replicateAllActiveContacts (i : Nat) (targets resolution : Option (List StateTarget))
    (contacts : List ContactToTell) : Task Sync Nat := do
  let list ← tryCatch (pure none) (answered (some contacts))
  match list with
  | none => pure 0
  | some list => replicateContacts env i targets resolution list 0

/-- `RECONCILE_MIN_INTERVAL_MS`. -/
def reconcileMinIntervalMs : Int := 5 * 60 * 1000

/-- `reconcileToSiblings`. -/
def reconcileToSiblings (i : Nat) (resolution : Option (List StateTarget))
    (contacts : List ContactToTell) : Task Sync Unit := do
  let s ← get
  if s.isEnabled env = false then pure ()
  else do
    let now := s.clockMs
    let reconciledAt ← await fun s => (s.reconcileAt, s)
    let throttled := (reconciledAt.map fun atMs => decide (now - atMs < reconcileMinIntervalMs)).getD false
    if throttled = true then pure ()
    else do
      let _ ← replicateAllActiveContacts env i none resolution contacts
      await fun s => ((), { s with reconcileAt := some now })

/-- Whether an activation baseline was sent. -/
inductive BaselineReport where
  | disabled
  | noActivationId
  | noTargetInbox
  | markerUndeliverable
  | sent (reconciled : Nat) (horizonLamport : Int)

/-- `sendActivationBaseline`. -/
def sendActivationBaseline (i : Nat) (activationId : Option String) (target : StateTarget)
    (contacts : List ContactToTell) : Task Sync BaselineReport := do
  let s ← get
  if s.isEnabled env = false then pure .disabled
  else if trimmed activationId = "" then pure .noActivationId
  else if trim target.inboxId = "" then pure .noTargetInbox
  else do
    let targets := some [⟨trim target.deviceId, trim target.inboxId⟩]
    let reconciled ← replicateAllActiveContacts env i targets none contacts
    let lamport ← await fun s => (s.lamport, s)
    let horizonLamport := lamport.getD 0
    let payload := { StatePayload.blank with
      activationId := some (trimmed activationId), horizonLamport := some horizonLamport }
    let fannedOut ← replicate env i ⟨some .baselineComplete, payload, targets, none⟩
    if fannedOut < 1 then pure .markerUndeliverable else pure (.sent reconciled horizonLamport)

/-- `requestActivationBaseline`. -/
def requestActivationBaseline (i : Nat) (activationId requestInboxId : Option String)
    (resolution : Option (List StateTarget)) : Task Sync Unit := do
  let s ← get
  if s.isEnabled env = false ∨ trimmed activationId = "" ∨ trimmed requestInboxId = "" then pure ()
  else do
    let payload := { StatePayload.blank with
      activationId := some (trimmed activationId), requestInboxId := some (trimmed requestInboxId) }
    let _ ← replicate env i ⟨some .baselineRequest, payload, none, resolution⟩
    pure ()

/-- What the device is asked to tell. -/
inductive SyncCall where
  | replicate (call : ReplicateCall)
  | flushPending (resolution : Option (List StateTarget))
  | reconcile (resolution : Option (List StateTarget)) (contacts : List ContactToTell)
  | sendActivationBaseline (activationId : Option String) (target : StateTarget)
      (contacts : List ContactToTell)
  | requestActivationBaseline (activationId requestInboxId : Option String)
      (resolution : Option (List StateTarget))

def SyncCall.task (i : Nat) : SyncCall → Task Sync Unit
  | .replicate call => do
    let _ ← Devices.replicate env i call
    pure ()
  | .flushPending resolution => Devices.flushPending env resolution
  | .reconcile resolution contacts => reconcileToSiblings env i resolution contacts
  | .sendActivationBaseline activationId target contacts => do
    let _ ← Devices.sendActivationBaseline env i activationId target contacts
    pure ()
  | .requestActivationBaseline activationId requestInboxId resolution =>
    Devices.requestActivationBaseline env i activationId requestInboxId resolution

/-- What happens to the sending side: it is called, a call goes on, the chain goes on, the runtime
changes, time passes, or the process ends and another one starts. -/
inductive SyncAct where
  | call (c : SyncCall)
  | resume (i : Nat) (r : Response)
  | link (r : Response)
  | runtime (homeFanout accountMultiDevice : Bool)
  | tick (clockMs : Int)
  | restart

def SyncAct.toStep : SyncAct → Pool.Step Sync
  | .call c => .start fun i => c.task env i
  | .resume i r => .resume i r
  | .link r => .elsewhere fun s => s.link r
  | .runtime homeFanout accountMultiDevice => .elsewhere fun s =>
    { s with homeFanout := homeFanout, accountMultiDevice := accountMultiDevice }
  | .tick clockMs => .elsewhere fun s => { s with clockMs := clockMs }
  | .restart => .crash

/-- A call whose link is not settled does not go on. -/
def SyncAct.Blocked (s : Sync) : SyncAct → Prop
  | .resume i _ => i ∈ s.lamportChain
  | _ => False

instance (s : Sync) : DecidablePred (SyncAct.Blocked s)
  | .resume i _ => inferInstanceAs (Decidable (i ∈ s.lamportChain))
  | .call _ | .link _ | .runtime _ _ | .tick _ | .restart => inferInstanceAs (Decidable False)

/-- One step of the sending side. -/
def syncStep (p : Pool Sync) (a : SyncAct) : Pool Sync :=
  if a.Blocked p.state then p else Pool.step Sync.restart p (a.toStep env)

/-- The sending side after a run. -/
def syncAfter (clockMs : Int) (acts : List SyncAct) : Sync :=
  (Runs.run (syncStep env) (Pool.idle (Sync.fresh clockMs)) acts).state

end Calls

end RezChat.Devices
