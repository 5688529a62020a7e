/-
Messages on their way out (`services/ServerMessagesService.js`).

A message that is sent is written as a `pending` row, delivered, and then given the status that
the delivery came to. Later the row moves on with what comes back: a delivery ack, a commit ack,
or a frame of the node that tells what became of a message it had queued. After a restart the rows
that are still `queued` are taken up again. Each of these procedures writes the status and then
emits it, as two operations, and what the writing came to is not looked at.

Procedures are interleaved at their awaits. Each has a number and a phase, which is what it waits
for, and one step is one awaited operation of one of them with what follows it. A tracking entry is
an object that a procedure may hold on to while the table has another one in its place, so
entries are numbered too.

The history is what was done, newest first: rows that were deposited, or changed by anything but a
status write, statuses that were emitted, and procedures that failed. No step reads it.
-/
import RezChat.Messages.Status
import RezChat.Lib.Tasks

set_option autoImplicit false

namespace RezChat.Delivery

open Inbox (trim trimmed)
open Events (Payload)
open Messages (AppendCall ChatMessage ChatThread Collation Deposit MessageStatus
  OriginalPayload StatusCall StatusWrite Store)

/-! ## Delivering -/

/-- What a fan-out answers, over the members of a group or the devices of a peer. -/
inductive FanoutAnswer where
  | threw (queued : Bool)
  | counted (sentCount queuedCount : Nat) (queuedInboxIds : List String)

/-- What sealing for a peer, and handing the object to the mesh, come to. -/
inductive DispatchAnswer where
  | threw (queued : Bool)
  | queued (mailboxId : String)
  | routed

/-- What the parts of a delivery answer. A fan-out to devices that is none is one that leaves the
message to a single device; the group id is that of the thread. -/
structure DeliveryParts where
  canSeal : Bool
  groupId : String
  group : FanoutAnswer
  devices : Option FanoutAnswer
  dispatch : DispatchAnswer

structure Routed where
  eventId : String
  queued : Bool
  queuedInboxIds : List String
  isGroup : Bool

/-- A message whose thread is not delivered to at all. -/
def Routed.nowhere : Routed := ⟨"", false, [], false⟩

def FanoutAnswer.routed (eventId : String) (isGroup : Bool) (inboxIds : List String) :
    FanoutAnswer → Option Routed
  | .threw true => some ⟨"", true, inboxIds, false⟩
  | .threw false => none
  | .counted sentCount queuedCount queuedInboxIds =>
    if sentCount > 0 then some ⟨eventId, false, [], isGroup⟩
    else if queuedCount > 0 then some ⟨"", true, queuedInboxIds, isGroup⟩
    else some ⟨"", false, [], isGroup⟩

/-- `#deliverToThread`. Nothing is returned where it throws. -/
def deliverToThread (thread : Option ChatThread) (eventTag : String) (now : Int)
    (parts : DeliveryParts) : Option Routed :=
  let eventId := "gw:" ++ toString now ++ ":" ++ eventTag
  let peerInboxId := (thread.map fun t => trim t.peerInboxId).getD ""
  let peerAccountId := (thread.map fun t => trim t.peerAccountId).getD ""
  if parts.canSeal = false then none
  else if thread.map ChatThread.threadType = some .group ∧ trim parts.groupId ≠ "" then
    parts.group.routed eventId true []
  else if peerInboxId = "" ∨ peerAccountId = "" then none
  else
    match parts.devices with
    | some devices => devices.routed eventId false [peerInboxId]
    | none =>
      match parts.dispatch with
      | .threw true => some ⟨"", true, [peerInboxId], false⟩
      | .threw false => none
      | .queued mailboxId =>
        some ⟨"", true, [if trim mailboxId = "" then peerInboxId else trim mailboxId], false⟩
      | .routed => some ⟨eventId, false, [], false⟩

/-- The status of a message that was delivered so. -/
def Routed.status (r : Routed) : MessageStatus :=
  if r.eventId ≠ "" then .sent else if r.queued = true then .queued else .failed

/-! ## What is kept in memory -/

structure QueuedMessage where
  threadId : String
  messageId : String
  queuedAtMs : Int

structure Tracking where
  threadId : String
  outstandingInboxIds : List String
  anyDelivered : Bool
  deriving DecidableEq

structure Memory where
  queuedMessages : List QueuedMessage
  ackPending : OrdMap String String
  queuedByInbox : OrdMap String (List String)
  queueTracking : OrdMap String Nat
  trackings : OrdMap Nat Tracking
  tracked : Nat
  commitSweepRunning : Bool

namespace Memory

def empty : Memory := ⟨[], OrdMap.empty, OrdMap.empty, OrdMap.empty, OrdMap.empty, 0, false⟩

/-- An id is put into a set. -/
def addId (id : String) (ids : List String) : List String :=
  if id ∈ ids then ids else ids ++ [id]

/-- The entry of a message, and its number. -/
def tracking? (messageId : String) (m : Memory) : Option (Nat × Tracking) :=
  (m.queueTracking.get? messageId).bind fun n => (m.trackings.get? n).map fun t => (n, t)

def putTracking (n : Nat) (t : Tracking) (m : Memory) : Memory :=
  { m with trackings := m.trackings.set n t }

/-- One inbox of `#trackQueuedMessage`, in the entry with a number. -/
def trackInbox (messageId : String) (n : Nat) (m : Memory) (inboxId : String) : Memory :=
  { m with
    trackings := match m.trackings.get? n with
      | none => m.trackings
      | some t => m.trackings.set n
          { t with outstandingInboxIds := addId inboxId t.outstandingInboxIds }
    queuedByInbox := m.queuedByInbox.set inboxId
      (addId messageId ((m.queuedByInbox.get? inboxId).getD [])) }

/-- The message has an entry, the one that is there or a new one. -/
def ensureTracking (threadId messageId : String) (m : Memory) : Nat × Memory :=
  match m.queueTracking.get? messageId with
  | some n => (n, m)
  | none => (m.tracked, { m.putTracking m.tracked ⟨threadId, [], false⟩ with
      queueTracking := m.queueTracking.set messageId m.tracked
      tracked := m.tracked + 1 })

def trackQueuedMessage (threadId messageId : String) (inboxIds : List String) (m : Memory) :
    Memory :=
  if inboxIds = [] then m
  else
    let r := m.ensureTracking threadId messageId
    ((inboxIds.map trim).filter fun id => decide (id ≠ "")).foldl (trackInbox messageId r.1) r.2

/-- A message leaves the set of an inbox, and an empty set is dropped. -/
def unqueue (messageId : String) (queued : OrdMap String (List String)) (inboxId : String) :
    OrdMap String (List String) :=
  match queued.get? inboxId with
  | none => queued
  | some ids =>
    if ids.filter (fun id => decide (id ≠ messageId)) = [] then queued.delete inboxId
    else queued.set inboxId (ids.filter fun id => decide (id ≠ messageId))

def discardQueueTracking (messageId : String) (m : Memory) : Memory :=
  match m.tracking? messageId with
  | none => m
  | some (_, t) => { m with
      queuedByInbox := t.outstandingInboxIds.foldl (unqueue messageId) m.queuedByInbox
      queueTracking := m.queueTracking.delete messageId }

def pushQueued (threadId messageId : String) (queuedAtMs : Int) (m : Memory) : Memory :=
  { m with queuedMessages := m.queuedMessages ++ [⟨threadId, messageId, queuedAtMs⟩] }

def dropQueued (messageId : String) (m : Memory) : Memory :=
  { m with queuedMessages := m.queuedMessages.filter fun e => decide (e.messageId ≠ messageId) }

def expectAck (threadId messageId : String) (m : Memory) : Memory :=
  { m with ackPending := m.ackPending.set messageId threadId }

/-- The start of `sendMessage`: what an earlier attempt left is dropped. -/
def forget (messageId : String) (m : Memory) : Memory :=
  { (m.discardQueueTracking messageId).dropQueued messageId with
    ackPending := m.ackPending.delete messageId }

/-- A message that was acknowledged. -/
def acked (threadId messageId : String) (m : Memory) : Memory :=
  { m with
    queuedMessages := m.queuedMessages.filter fun e =>
      decide (¬ (e.threadId = threadId ∧ e.messageId = messageId))
    ackPending := m.ackPending.delete messageId }.discardQueueTracking messageId

/-- The thread of an acknowledged message, or an empty id. -/
def resolveThread (threadId messageId : String) (m : Memory) : String :=
  if threadId ≠ "" then threadId
  else
    let queued := ((m.queuedMessages.find? fun e => decide (e.messageId = messageId)).map
      QueuedMessage.threadId).getD ""
    if queued ≠ "" then queued else (m.ackPending.get? messageId).getD ""

/-- What a delivery came to is noted. -/
def routed (threadId messageId : String) (now : Int) (r : Routed) (m : Memory) : Memory :=
  match r.status with
  | .sent => if r.isGroup = true then m else m.expectAck threadId messageId
  | .queued =>
    (m.pushQueued threadId messageId now).trackQueuedMessage threadId messageId r.queuedInboxIds
  | .pending | .failed | .delivered => m

/-- The end of `#applyOutboundStatusToMessage`: with nothing outstanding in the entry that was
held, the entry of the message is deleted, whichever it is by now. -/
def closeTracking (messageId : String) (n : Nat) (m : Memory) : Memory :=
  if (m.trackings.get? n).map Tracking.outstandingInboxIds = some [] then
    { m with queueTracking := m.queueTracking.delete messageId }
  else m

/-- A message leaves the set of an inbox. -/
def leaveInbox (inboxId messageId : String) (m : Memory) : Memory :=
  match m.queuedByInbox.get? inboxId with
  | none => m
  | some ids => { m with
      queuedByInbox := m.queuedByInbox.set inboxId (ids.filter fun id => decide (id ≠ messageId)) }

def dropIfEmpty (inboxId : String) (m : Memory) : Memory :=
  if m.queuedByInbox.get? inboxId = some [] then
    { m with queuedByInbox := m.queuedByInbox.delete inboxId }
  else m

/-- `stop`. -/
def stopped (m : Memory) : Memory :=
  { m with
    queuedMessages := []
    queuedByInbox := OrdMap.empty
    queueTracking := OrdMap.empty
    ackPending := OrdMap.empty }

end Memory

/-! ## What is awaited -/

/-- A call of `sendMessage`: the id that it has, or that was minted for it, and its wire
payload. -/
structure SendCall where
  threadId : String
  messageId : String
  signs : Bool
  packetB64 : String
  text : String
  payload : Payload
  nowMs : Int
  deriving DecidableEq

/-- `signedFingerprint`. -/
def SendCall.fingerprint (call : SendCall) : String := trimmed call.payload.contentHash

/-- What `recordOutboundDeposit` is given. -/
def SendCall.deposit (ownerAccountId : String) (call : SendCall) : Deposit where
  messageId := call.messageId
  threadId := call.threadId
  senderKey := ownerAccountId
  packetB64 := call.packetB64
  acceptedAtMs := call.nowMs
  senderAccountId := ownerAccountId
  status := none
  text := call.text
  payload := some call.payload

/-- What `#recordLocalOriginalFact` is given. -/
def SendCall.originalFact (call : SendCall) : AppendCall where
  threadId := call.threadId
  fact :=
    { fingerprint := call.fingerprint
      payload := ⟨call.payload.kind.getD "", call.payload.senderAccountId.getD "",
        call.payload.messageId.getD "", "", ""⟩
      receivedAtMs := call.nowMs
      origin := "local" }

/-- `indexOf("th_") === 0`. -/
def SendCall.isRouted (call : SendCall) : Bool :=
  ['t', 'h', '_'].isPrefixOf call.threadId.toList

structure CommitAck where
  messageId : String
  messageFingerprint : String
  threadId : String
  recipientAccountId : String
  authedSender : String
  deriving DecidableEq

structure PendingCommit where
  messageId : String
  threadId : String
  fingerprint : String
  recipientAccountId : String
  firstSentAtMs : Int
  attempts : Nat
  nextRetryAtMs : Int
  lastAttemptAtMs : Option Int
  deriving DecidableEq

/-- The acks of one `handleDeliveryAck` that are still to be handled. -/
structure AckLoop where
  threadId : String
  nowMs : Int
  todo : List String
  deriving DecidableEq

/-- `EVT_OUTBOUND_STATUS`, `delivered` or `expired`. -/
structure OutboundFrame where
  deliverInboxId : String
  delivered : Bool
  nowMs : Int
  deriving DecidableEq

/-- Where `#recoverQueuedMessages` is: the thread, as far as it was read, and what is left. -/
structure Recovery where
  nowMs : Int
  threadId : String
  thread : Option (Option ChatThread)
  items : List ChatMessage
  todo : List String
  deriving DecidableEq

/-- The rows of one sweep that are still to be retried. -/
structure Sweep where
  force : Bool
  nowMs : Int
  todo : List PendingCommit
  deriving DecidableEq

/-- What follows on a status that was written and emitted. -/
inductive Next where
  | send (call : SendCall) (isGroup : Bool)
  | deliveryAck (acks : AckLoop)
  | commitAck
  | frame (f : OutboundFrame) (tracking : Nat) (todo : List String)
  | recovery (r : Recovery)
  deriving DecidableEq

/-- What a procedure waits for. -/
inductive Phase where
  | signing (call : SendCall)
  | depositing (call : SendCall)
  | recordingFact (call : SendCall)
  | routing (call : SendCall)
  | delivering (call : SendCall) (thread : Option ChatThread)
  | openingCommit (call : SendCall)
  | puttingCommit (call : SendCall) (recipientAccountId : String)
  | checkingCommit (acks : AckLoop) (threadId messageId : String)
  | findingClaim (ack : CommitAck)
  | findingFact (ack : CommitAck)
  | verifying (ack : CommitAck) (pending : Option PendingCommit)
  | consuming (ack : CommitAck) (pending : PendingCommit)
  | findingThread (ack : CommitAck) (threadId : String)
  | nextOfFrame (f : OutboundFrame) (todo : List String)
  | listingThreads
  | listingMessages (r : Recovery)
  | loadingThread (r : Recovery) (messageId : String)
  | listingCommits (force : Bool)
  | findingOriginal (row : PendingCommit) (sweep : Sweep)
  | droppingCommit (row : PendingCommit) (sweep : Sweep)
  | rescheduling (row : PendingCommit) (sweep : Sweep)
  | redelivering (row : PendingCommit) (sweep : Sweep)
  /-- A status is to be written. -/
  | settling (call : StatusCall) (next : Next)
  /-- It was written, or was not, and is to be emitted. -/
  | settled (call : StatusCall) (write : StatusWrite) (next : Next)
  | returned
  | threw
  deriving DecidableEq

/-- The procedure has ended. -/
def Phase.Ended : Phase → Prop
  | .returned | .threw => True
  | _ => False

/-! ## The service -/

/-- `MessageStatusEvent`. -/
structure StatusEvent where
  threadId : String
  messageId : String
  status : MessageStatus
  sentAtMs : Option Int
  deriving DecidableEq

/-- How a procedure fails: its call rejects, the process dies, or its status is not written. -/
inductive Failure where
  | rejected
  | lost
  | unwritten
  deriving DecidableEq

inductive Note where
  /-- With whether its write was accepted, and the status of the row. -/
  | emitted (e : StatusEvent) (accepted : Bool) (stored : Option MessageStatus)
  | deposited (op : Nat) (threadId messageId : String)
  | renewed (threadId messageId : String)
  | failed (op : Nat) (how : Failure)
  deriving DecidableEq

/-- The service, its clock and its dice, which are what `Math.random` comes to in thousandths. -/
structure Service (c : Collation) where
  ownerAccountId : String
  clock : Int
  dice : Nat
  store : Store c
  commits : OrdMap String PendingCommit
  memory : Memory
  ops : OrdMap Nat Phase
  begun : Nat
  history : List Note

variable {c : Collation}

/-- `COMMIT_RETRY_SCHEDULE_MS`. -/
def commitRetryScheduleMs : List Int := [5000, 15000, 45000, 120000, 300000, 900000]

/-- `#commitRetryDelayMs`: the slow tail after the schedule, and up to a quarter more. -/
def commitRetryDelayMs (dice attempts : Nat) : Int :=
  let base := (commitRetryScheduleMs[attempts]?).getD (20 * 60000)
  base + base * dice / 4000

/-- `QUEUE_TTL_MS`. -/
def queueTtlMs : Int := 72 * 60 * 60 * 1000

namespace Service

def fresh (ownerAccountId : String) (store : Store c) : Service c :=
  ⟨ownerAccountId, 0, 0, store, OrdMap.empty, Memory.empty, OrdMap.empty, 0, []⟩

def note (n : Note) (w : Service c) : Service c := { w with history := n :: w.history }

/-- The store after a call that writes no status. -/
def rewrite (store : Store c) (w : Service c) : Service c :=
  { w with
    store := store
    history := (w.store.renewed store).map (fun k => Note.renewed k.1 k.2) ++ w.history }

def withMemory (m : Memory) (w : Service c) : Service c := { w with memory := m }

def withCommits (commits : OrdMap String PendingCommit) (w : Service c) : Service c :=
  { w with commits := commits }

/-- The status is emitted. -/
def emit (call : StatusCall) (write : StatusWrite) (w : Service c) : Service c :=
  w.note (.emitted ⟨trim call.threadId, trim call.messageId, call.status, call.sentAtMs⟩
    write.accepted (w.store.statusAt (trim call.threadId) (trim call.messageId)))

/-! ### The procedures -/

/-- `recordOutboundDeposit`, and its error is logged. -/
def deposit (i : Nat) (call : SendCall) (w : Service c) : Service c :=
  match w.store.recordOutboundDeposit w.clock (call.deposit w.ownerAccountId) with
  | (_, none) => w
  | (store, some _) => (w.rewrite store).note (.deposited i (trim call.threadId) (trim call.messageId))

/-- `appendOriginalFact`, of a message that is signed. -/
def recordFact (call : SendCall) (w : Service c) : Service c :=
  if call.fingerprint = "" then w
  else w.rewrite (w.store.appendFact call.originalFact).1

/-- The delivery returned. -/
def routed (call : SendCall) (r : Routed) (w : Service c) : Phase × Service c :=
  (.settling ⟨call.threadId, call.messageId, r.status,
      if r.eventId ≠ "" then some call.nowMs else none, none⟩ (.send call r.isGroup),
    w.withMemory (w.memory.routed call.threadId call.messageId call.nowMs r))

/-- The next ack of a loop whose thread is known. -/
def nextAck (threadId : String) (nowMs : Int) : List String → Memory → Phase
  | [], _ => .returned
  | item :: todo, m =>
    if trim item = "" ∨ m.resolveThread threadId (trim item) = "" then
      nextAck threadId nowMs todo m
    else .checkingCommit ⟨threadId, nowMs, todo⟩ (m.resolveThread threadId (trim item)) (trim item)

/-- `#applyOutboundStatusToMessage`, up to its await, for the first of some messages. -/
def applyFrame (f : OutboundFrame) : List String → Memory → Phase × Memory
  | [], m => (.returned, m.dropIfEmpty f.deliverInboxId)
  | messageId :: todo, m =>
    match (m.leaveInbox f.deliverInboxId messageId).tracking? messageId with
    | none => (.nextOfFrame f todo, m.leaveInbox f.deliverInboxId messageId)
    | some (n, tracking) =>
      let t := { tracking with
        outstandingInboxIds := tracking.outstandingInboxIds.filter fun id =>
          decide (id ≠ f.deliverInboxId) }
      if f.delivered = true ∧ t.anyDelivered = false then
        (.settling ⟨t.threadId, messageId, .sent, some f.nowMs, none⟩ (.frame f n todo),
          (m.leaveInbox f.deliverInboxId messageId).putTracking n { t with anyDelivered := true })
      else if f.delivered = false ∧ t.anyDelivered = false ∧ t.outstandingInboxIds = [] then
        (.settling ⟨t.threadId, messageId, .failed, none, none⟩ (.frame f n todo),
          (m.leaveInbox f.deliverInboxId messageId).putTracking n t)
      else (.nextOfFrame f todo,
        ((m.leaveInbox f.deliverInboxId messageId).putTracking n t).closeTracking messageId n)

/-- The next thread to recover. -/
def nextThread (nowMs : Int) : List String → Phase
  | [] => .returned
  | threadId :: todo => .listingMessages ⟨nowMs, threadId, none, [], todo⟩

/-- A message of a direct thread is tracked under the inbox of the peer. -/
def trackPeer (threadId messageId : String) (thread : Option ChatThread) (m : Memory) : Memory :=
  match thread with
  | none => m
  | some t =>
    if t.threadType = .direct ∧ trim t.peerInboxId ≠ "" then
      m.trackQueuedMessage threadId messageId [trim t.peerInboxId]
    else m

/-- The messages of a thread that are still queued. The thread is loaded for the first of
them. -/
def recoverItems (nowMs : Int) (threadId : String) (todo : List String)
    (thread : Option (Option ChatThread)) : List ChatMessage → Memory → Phase × Memory
  | [], m => (nextThread nowMs todo, m)
  | message :: items, m =>
    if message.status ≠ .queued then recoverItems nowMs threadId todo thread items m
    else if nowMs - message.createdAtMs > queueTtlMs then
      (.settling ⟨threadId, message.messageId, .failed, none, none⟩
        (.recovery ⟨nowMs, threadId, thread, items, todo⟩), m)
    else
      let queuedAtMs := if message.createdAtMs = 0 then nowMs else message.createdAtMs
      match thread with
      | none => (.loadingThread ⟨nowMs, threadId, none, items, todo⟩ message.messageId,
          m.pushQueued threadId message.messageId queuedAtMs)
      | some t => recoverItems nowMs threadId todo thread items
          (trackPeer threadId message.messageId t
            (m.pushQueued threadId message.messageId queuedAtMs))

def recover (r : Recovery) (m : Memory) : Phase × Memory :=
  recoverItems r.nowMs r.threadId r.todo r.thread r.items m

/-- The next row of a sweep that is due. -/
def nextRetry (force : Bool) (nowMs : Int) : List PendingCommit → Memory → Phase × Memory
  | [], m => (.returned, { m with commitSweepRunning := false })
  | row :: todo, m =>
    if force = false ∧ nowMs < row.nextRetryAtMs then nextRetry force nowMs todo m
    else (.findingOriginal row ⟨force, nowMs, todo⟩, m)

def retryNext (sweep : Sweep) (m : Memory) : Phase × Memory :=
  nextRetry sweep.force sweep.nowMs sweep.todo m

/-- What follows on a status that was emitted. The memory is brought up to date first. -/
def proceed (call : StatusCall) (next : Next) (w : Service c) : Phase × Service c :=
  match next with
  | .send send isGroup =>
    (if send.fingerprint ≠ "" ∧ isGroup = false ∧ (call.status = .sent ∨ call.status = .queued) then
        .openingCommit send
      else .returned, w)
  | .deliveryAck acks =>
    let m := w.memory.acked call.threadId call.messageId
    (nextAck acks.threadId acks.nowMs acks.todo m, w.withMemory m)
  | .commitAck => (.returned, w.withMemory (w.memory.acked call.threadId call.messageId))
  | .frame f n todo =>
    let m := if call.status = .sent then w.memory.expectAck call.threadId call.messageId
      else w.memory
    (.nextOfFrame f todo, w.withMemory ((m.dropQueued call.messageId).closeTracking call.messageId n))
  | .recovery r => ((recover r w.memory).1, w.withMemory (recover r w.memory).2)

/-- A phase that changes the memory only. -/
def within (r : Phase × Memory) (w : Service c) : Phase × Service c := (r.1, w.withMemory r.2)

/-- `handleCommitAck` ignores what is not a claim of ours. -/
def claims (ownerAccountId : String) (ack : CommitAck) (store : Store c) : Bool :=
  match store.facts.fact? (trim ack.threadId) (trim ack.messageFingerprint) with
  | none => false
  | some f => decide (f.senderAccountId = ownerAccountId ∧ f.messageId = ack.messageId)

/-- The pending row names the same message, to the account that acknowledges it. -/
def answers (ack : CommitAck) (pending : PendingCommit) : Bool :=
  decide (ack.messageFingerprint = pending.fingerprint ∧ ack.threadId = pending.threadId ∧
    pending.recipientAccountId = ack.authedSender)

/-- The awaited operation of the procedure `i` comes to its end, and the procedure goes on. The
rejection of a caller is noted. -/
def advance (i : Nat) (response : Response) (p : Phase) (w : Service c) : Phase × Service c :=
  match p with
  | .signing call =>
    match response with
    | .ok => (.depositing call, w)
    | .throws | .throwsLate => (.threw, w.note (.failed i .rejected))
  | .depositing call =>
    match response with
    | .ok | .throwsLate => (.recordingFact call, w.deposit i call)
    | .throws => (.recordingFact call, w)
  | .recordingFact call =>
    let w' := match response with
      | .ok | .throwsLate => w.recordFact call
      | .throws => w
    if call.isRouted = true then (.routing call, w') else w'.routed call .nowhere
  | .routing call =>
    match response with
    | .ok => (.delivering call (w.store.threads.get? (trim call.threadId)), w)
    | .throws | .throwsLate => (.delivering call none, w)
  | .openingCommit call =>
    match response with
    | .ok =>
      match w.store.threads.get? (trim call.threadId) with
      | none => (.returned, w)
      | some t =>
        if t.threadType = .group ∨ trim t.peerAccountId = "" then (.returned, w)
        else (.puttingCommit call (trim t.peerAccountId), w)
    | .throws | .throwsLate => (.returned, w)
  | .puttingCommit call recipientAccountId =>
    match response with
    | .ok | .throwsLate => (.returned, w.withCommits (w.commits.set call.messageId
        ⟨call.messageId, call.threadId, call.fingerprint, recipientAccountId, call.nowMs, 0,
          call.nowMs + commitRetryDelayMs w.dice 0, none⟩))
    | .throws => (.returned, w)
  | .checkingCommit acks threadId messageId =>
    match response with
    | .ok =>
      match w.commits.get? messageId with
      | some _ => (nextAck acks.threadId acks.nowMs acks.todo w.memory, w)
      | none => (.settling ⟨threadId, messageId, .delivered, none, some acks.nowMs⟩
          (.deliveryAck acks), w)
    | .throws | .throwsLate => (.threw, w)
  | .findingClaim ack =>
    match response with
    | .ok =>
      match w.commits.get? (trim ack.messageId) with
      | some pending => (if answers ack pending = true then .verifying ack (some pending)
          else .returned, w)
      | none => (.findingFact ack, w)
    | .throws | .throwsLate => (.threw, w)
  | .findingFact ack =>
    match response with
    | .ok => (if claims w.ownerAccountId ack w.store = true then .verifying ack none
        else .returned, w)
    | .throws | .throwsLate => (.threw, w)
  | .verifying ack pending =>
    -- a verification that ends in no verdict; the verdicts are events of their own
    match response with
    | .ok => (.verifying ack pending, w)
    | .throws | .throwsLate => (.threw, w)
  | .consuming ack pending =>
    match response with
    | .ok => (.findingThread ack pending.threadId,
        w.withCommits (w.commits.delete (trim ack.messageId)))
    | .throws => (.threw, w)
    | .throwsLate => (.threw, w.withCommits (w.commits.delete (trim ack.messageId)))
  | .findingThread ack threadId =>
    match response with
    | .ok =>
      match w.store.threads.get? (trim threadId) with
      | none => (.returned, w)
      | some t =>
        if t.threadType = .group then (.returned, w)
        else (.settling ⟨threadId, ack.messageId, .delivered, none, some w.clock⟩ .commitAck, w)
    | .throws | .throwsLate => (.returned, w)
  | .nextOfFrame f todo => within (applyFrame f todo w.memory) w
  | .listingThreads =>
    match response with
    | .ok => (nextThread w.clock (w.store.threads.keys.insertionSort fun a b => c.le a b), w)
    | .throws | .throwsLate => (.threw, w)
  | .listingMessages r =>
    match response with
    | .ok => within (recover { r with items := (w.store.rows (trim r.threadId)).rows } w.memory) w
    | .throws | .throwsLate => (nextThread r.nowMs r.todo, w)
  | .loadingThread r messageId =>
    let thread := match response with
      | .ok => w.store.threads.get? (trim r.threadId)
      | .throws | .throwsLate => none
    within (recover { r with thread := some thread }
      (trackPeer r.threadId messageId thread w.memory)) w
  | .listingCommits force =>
    match response with
    | .ok => within (nextRetry force w.clock w.commits.values w.memory) w
    | .throws | .throwsLate => (.threw, w.withMemory { w.memory with commitSweepRunning := false })
  | .findingOriginal row sweep =>
    match response with
    | .ok =>
      match w.store.facts.fact? (trim row.threadId) (trim row.fingerprint) with
      | none => (.droppingCommit row sweep, w)
      | some _ => (.rescheduling row sweep, w)
    | .throws | .throwsLate => within (retryNext sweep w.memory) w
  | .droppingCommit row sweep =>
    match response with
    | .ok | .throwsLate =>
      within (retryNext sweep w.memory) (w.withCommits (w.commits.delete (trim row.messageId)))
    | .throws => within (retryNext sweep w.memory) w
  | .rescheduling row sweep =>
    let row' := { row with
      attempts := row.attempts + 1
      lastAttemptAtMs := some w.clock
      nextRetryAtMs := w.clock + commitRetryDelayMs w.dice (row.attempts + 1) }
    match response with
    | .ok => (.redelivering row sweep, w.withCommits (w.commits.set row.messageId row'))
    | .throws => within (retryNext sweep w.memory) w
    | .throwsLate =>
      within (retryNext sweep w.memory) (w.withCommits (w.commits.set row.messageId row'))
  | .redelivering _ sweep => within (retryNext sweep w.memory) w
  | .settling call next =>
    let written := w.store.setMessageStatus w.clock call
    match response with
    | .ok =>
      (.settled call written.2 next,
        if written.2.accepted = true then { w with store := written.1 }
        else w.note (.failed i .unwritten))
    | .throws => (.settled call .threw next, w.note (.failed i .unwritten))
    | .throwsLate =>
      (.settled call .threw next,
        if written.2.accepted = true then { w with store := written.1 }
        else w.note (.failed i .unwritten))
  | .settled call write next => (w.emit call write).proceed call next
  | .delivering call thread => (.delivering call thread, w)
  | .returned => (.returned, w)
  | .threw => (.threw, w)

/-- The delivery of a message comes to its end. -/
def deliver (i : Nat) (parts : DeliveryParts) (p : Phase) (w : Service c) : Phase × Service c :=
  match p with
  | .delivering call thread =>
    match deliverToThread thread call.messageId call.nowMs parts with
    | none => (.threw, w.note (.failed i .rejected))
    | some r => w.routed call r
  | _ => (p, w)

/-- The verification of a commit ack comes to a verdict. -/
def verify (accepted : Bool) (p : Phase) (w : Service c) : Phase × Service c :=
  match p with
  | .verifying ack pending =>
    if accepted = false then (.returned, w)
    else
      match pending with
      | some row => (.consuming ack row, w)
      | none => (.findingThread ack ack.threadId, w)
  | _ => (p, w)

/-- A procedure is at a phase. -/
def put (i : Nat) (r : Phase × Service c) : Service c := { r.2 with ops := r.2.ops.set i r.1 }

/-- A procedure that is under way takes a step. -/
def resume (i : Nat) (f : Phase → Service c → Phase × Service c) (w : Service c) : Service c :=
  match w.ops.get? i with
  | some p => put i (f p w)
  | none => w

/-- A procedure begins. -/
def start (r : Phase × Service c) : Service c :=
  { put r.2.begun r with begun := r.2.begun + 1 }

end Service

/-! ## Steps -/

/-- What happens to the service. Other services write to its store: the messages, and the files
that are sent as messages. -/
inductive Event where
  | send (call : SendCall)
  | deliveryAck (threadId : String) (messageIds : List String)
  | commitAck (ack : CommitAck)
  | outboundStatus (deliverInboxId : String) (delivered : Bool)
  | recover
  | sweep (force : Bool)
  | stop
  | advance (op : Nat) (response : Response)
  | deliver (op : Nat) (parts : DeliveryParts)
  | verify (op : Nat) (accepted : Bool)
  | store (op : RezChat.Messages.Op)
  | storeStatus (call : StatusCall)
  | deleteThread (threadId : String)
  | tick (clock : Int) (dice : Nat)
  | crash

namespace Service

/-- `sendMessage`, up to its first await. -/
def beginSend (call : SendCall) (w : Service c) : Service c :=
  have call := { call with
    threadId := trim call.threadId, messageId := trim call.messageId, nowMs := w.clock }
  if call.threadId = "" ∨ call.messageId = "" then w
  else start (if call.signs = true then .signing call else .depositing call,
    w.withMemory (w.memory.forget call.messageId))

/-- `handleCommitAck`, up to its first await. -/
def beginCommitAck (ack : CommitAck) (w : Service c) : Service c :=
  let ack := { ack with authedSender := trim ack.authedSender }
  if ack.authedSender = "" ∨ ack.recipientAccountId ≠ ack.authedSender then w
  else start (.findingClaim ack, w)

/-- `#handleOutboundStatus`, up to its first await. -/
def beginFrame (deliverInboxId : String) (delivered : Bool) (w : Service c) : Service c :=
  match w.memory.queuedByInbox.get? (trim deliverInboxId) with
  | none => w
  | some [] => w.withMemory (w.memory.dropIfEmpty (trim deliverInboxId))
  | some (messageId :: messageIds) =>
    start (within (applyFrame ⟨trim deliverInboxId, delivered, w.clock⟩ (messageId :: messageIds)
      w.memory) w)

/-- What is under way when the process dies. -/
def lost (w : Service c) : List Note :=
  (w.ops.entries.filter fun op => decide (op.2 ≠ .returned ∧ op.2 ≠ .threw)).map
    fun op => Note.failed op.1 .lost

def step (w : Service c) : Event → Service c
  | .send call => w.beginSend call
  | .deliveryAck threadId messageIds =>
    start (nextAck (trim threadId) w.clock messageIds w.memory, w)
  | .commitAck ack => w.beginCommitAck ack
  | .outboundStatus deliverInboxId delivered => w.beginFrame deliverInboxId delivered
  | .recover => start (.listingThreads, w)
  | .sweep force =>
    if w.memory.commitSweepRunning = true then w
    else start (.listingCommits force, w.withMemory { w.memory with commitSweepRunning := true })
  | .stop => w.withMemory w.memory.stopped
  | .advance i response => w.resume i (advance i response)
  | .deliver i parts => w.resume i (deliver i parts)
  | .verify i accepted => w.resume i (verify accepted)
  | .store op => w.rewrite (w.store.step op)
  | .storeStatus call => w.rewrite (w.store.setMessageStatus w.clock call).1
  | .deleteThread threadId => w.rewrite (w.store.deleteThread threadId)
  | .tick clock dice => { w with clock := clock, dice := dice }
  | .crash => { w with
      memory := Memory.empty
      ops := OrdMap.empty
      history := w.lost ++ w.history }

/-- The service after some events. -/
def after (w : Service c) (events : List Event) : Service c := Runs.run step w events

end Service

end RezChat.Delivery
