/-
The event service (`services/ServerEventService.js`).

Every inbound deposit ends up here: plaintext deposits straight from the
pipeline, encrypted ones once they were opened, and the facts a sibling device
transfers. One handler, `handleMailboxDeposited`, takes them all. It resolves
the thread a deposit belongs to, lets two gates refuse it (the binding of a
direct thread to its peer, the membership of a group), admits the signature it
may carry, hands it to the handler of its kind, and files what is left as a
message of its thread.

The stores and the services behind the handler are parameters. What they keep
is a world `σ`; what the event service keeps itself is the buffer of group
messages whose sender is not a member yet. The buffer is in memory only.

A deposit can make the service apply other deposits before it is done with it: a
member who joins brings the deposits held for it, and a sibling transfers facts.
Held deposits are no group ops and facts are originals, so there is an end to
it; the two re-entrances are passed to the handler as a `Reentry`.

What the service does is recorded in a journal, newest entry first. As
everywhere, no step reads it.
-/
import RezChat.Lib.Async
import RezChat.Lib.OrdMap
import RezChat.Events.Payload

set_option autoImplicit false

namespace RezChat.Events

open Proc Payload

open Inbox (Frame DepositId depositIdentity trim trimmed)

/-! ## Deposits -/

/-- How a deposit came to be readable. It is not a field of the deposit, and no
code looks at it: it is what the attribution of a deposit is measured by. -/
inductive Origin where
  /-- It was never encrypted. -/
  | plaintext
  /-- A peer link opened it, and authenticated its sender. -/
  | peerLink (accountId : String)
  /-- The account-state key opened it. -/
  | accountStateKey
  /-- A sibling device transferred it. -/
  | siblingTransfer
  deriving DecidableEq

/-- A deposit as the handler sees it: the identity and the fields of its frame,
and the JSON object in its bytes, if there is one. -/
structure Deposit where
  origin : Origin
  eventId : String
  mailboxId : String
  ciphertextB64 : String
  senderAccountId : String
  payload : Option Payload
  deriving DecidableEq

/-- The sender of the envelope, as the handler reads it off the frame. -/
def Deposit.envelopeSender (d : Deposit) : String := trim d.senderAccountId

/-- The sender the payload declares. -/
def Deposit.payloadSender (d : Deposit) : String :=
  trimmed (d.payload.bind Payload.senderAccountId)

def Deposit.payloadThreadId (d : Deposit) : String :=
  trimmed (d.payload.bind threadId)

/-- The kind of the payload, if it has an entry in the registry. -/
def Deposit.kind (d : Deposit) : Option PayloadKind :=
  getPayloadEntry (d.payload.bind Payload.kind)

/-- Which key opened a user message. -/
inductive Opener where
  | peerLink (accountId : String)
  | accountStateKey

/-- What `processDeposit` of the peer-link service returns for a deposit it could
open. Its `senderAccountId` is the authenticated sender of the peer link, and
`null` for a deposit opened with the account-state key. -/
structure UserMessage where
  mailboxId : String
  eventId : String
  plaintextB64 : String
  opener : Opener

def UserMessage.senderAccountId (m : UserMessage) : String :=
  match m.opener with
  | .peerLink accountId => accountId
  | .accountStateKey => ""

def UserMessage.origin (m : UserMessage) : Origin :=
  match m.opener with
  | .peerLink accountId => .peerLink accountId
  | .accountStateKey => .accountStateKey

/-! ## Collaborators -/

inductive ThreadType where
  | direct
  | group
  deriving DecidableEq

/-- A `ChatThread`, whose constructor coerces the type to one of the two. Only
`ensureDirectThread` writes a peer, and the ids it writes it under are digests of
a domain of their own: a group thread has none. -/
structure Thread where
  threadType : ThreadType
  groupId : String
  peerAccountId : String
  peerInboxId : String
  peerless : threadType = .group → peerAccountId = ""

def Thread.peer (thread : Option Thread) : String :=
  trim ((thread.map Thread.peerAccountId).getD "")

structure PeerLink where
  peerAccountId : String
  peerLinkId : String
  peerInboxId : String

/-- The direct thread with a peer. -/
def Thread.withPeer (peerAccountId peerInboxId : String) : Thread where
  threadType := .direct
  groupId := ""
  peerAccountId := peerAccountId
  peerInboxId := peerInboxId
  peerless := ThreadType.noConfusion

/-- The row `upsertDepositedMessage` files. -/
structure Row where
  messageId : String
  threadId : String
  senderKey : String
  senderAccountId : String
  packetB64 : String
  acceptedAtMs : Int
  text : String
  payload : Option Payload

/-- A commit ack when the fact of the message was admitted, else the legacy
delivery ack. -/
structure Ack where
  peerAccountId : String
  deliverInboxId : String
  messageId : String
  commit : Option (String × String)
  committedAtMs : Int
  deriving DecidableEq

/-- The answer of a handler: whether it consumed the payload, and, which the code
has no trace of, whether a store that it writes failed and it went on. -/
structure Answer where
  consumed : Bool
  failed : Bool

/-- The group-op handler up to the point where a member's join flushes the
deposits held for it, and what it does then. -/
structure GroupOpTurn where
  answer : Answer
  joined : Option (String × String)
  shouldForward : Bool

/-- What the event service calls. Reads of a store are views of the world, and
everything that writes is a procedure over it. `ensureDirectThread` returns the
inbox of the thread it ensured; the peer of that thread is the one it was given
(`nonEmpty(peerAccountId) || existing.peerAccountId`). A handler that returns
`Bool` consumes whatever it is handed, and what it returns is the other half of
its answer; so it is with the second half of a group op and of a transfer. -/
structure Services (σ : Type) where
  clock : σ → Int
  -- the bytes of a deposit
  decode : String → Option Payload
  encode : Payload → String
  recordClass : PayloadKind → Payload → Bool
  sdkRecordNamesSender : PayloadKind → Bool
  -- signatures
  cryptoProvider : Bool
  messageFingerprint : Payload → Option String
  verifySignedAccountClaim : Payload → Int → Bool
  -- threads, contacts, links and members
  getThread : σ → String → Option Thread
  listThreadIds : σ → List String
  isActiveContact : σ → String → Bool
  acceptOutgoingConnectRequest : String → Proc σ Bool
  listPeerLinks : σ → List PeerLink
  directThreadIdForPeerLink : String → String → String
  ensureDirectThread : String → String → String → Int → Proc σ (Option String)
  getMembership : σ → String → String → Option String
  -- the message store
  appendOriginalFact : String → String → Payload → Int → Proc σ (Option String)
  markMessageConflicted : String → String → Proc σ Unit
  upsertDepositedMessage : Row → Proc σ Unit
  upsertFromMessage : String → String → Int → String → Proc σ Unit
  ensureFromObservedMessage : String → String → String → Proc σ Unit
  sendAck : Ack → σ → σ
  -- the handlers of the registry
  handleIncomingReaction : Payload → String → String → Proc σ Answer
  handleIncomingEdit : Payload → String → String → Proc σ Answer
  handleIncomingTombstone : Payload → String → String → Proc σ Answer
  handleIncomingGroupOp : Payload → String → Proc σ GroupOpTurn
  forwardMemberJoin : Payload → Proc σ Bool
  handleIncomingConnectRequest : Payload → String → Proc σ Answer
  applyInbound : Payload → Proc σ Bool
  openSiblingSync : Payload → Proc σ (List Payload)
  admitFact : Payload → Proc σ Bool
  closeSiblingSync : Payload → Proc σ Bool
  handleCommitAck : Payload → String → String → Proc σ Bool
  handleIncomingConnectAccepted : Payload → String → String → Proc σ Answer
  handleIncomingPayload : Payload → String → String → String → Proc σ Answer
  storeFile : Payload → Proc σ Unit
  handleIncomingProfile : Payload → String → Proc σ Answer

/-! ## The state of the service -/

/-- What became of a deposit whose handling returned. `refused` is whether the
direct-content gate had turned its sender away, and `kind` what a filed row is. -/
inductive Disposition where
  | ignored
  | foreignThread
  | deferred
  | dropped
  | unadmitted
  | malformed
  | consumed
  | unrouted (refused : Bool)
  | persisted (kind : Option PayloadKind)
  deriving DecidableEq

/-- The disposition of a deposit, and whether a handler or a write of a store
failed on the way without the failure being passed on. -/
structure Verdict where
  disposition : Disposition
  failed : Bool
  deriving DecidableEq

/-- The journal. `account` is the account a deposit is applied on behalf of,
`verified` whether its signature was verified. -/
inductive Action where
  | appending (fingerprint : String)
  | flagging (messageId : String)
  | dispatching (kind : PayloadKind) (account : String) (verified : Bool)
  | persisting (account : String) (verified : Bool)
  | acking (ack : Ack)
  | observing (account : String) (verified : Bool)
  | settled (verdict : Verdict)
  deriving DecidableEq

structure State (σ : Type) where
  world : σ
  deferred : OrdMap String (List Deposit)
  journal : List (Deposit × Action)

namespace Service

variable {σ α : Type}

/-- The service of a freshly started process. -/
def fresh (world : σ) : State σ := { world := world, deferred := OrdMap.empty, journal := [] }

def note (d : Deposit) (a : Action) : Proc (State σ) Unit :=
  modify fun s => { s with journal := (d, a) :: s.journal }

def inWorld (p : Proc σ α) : Proc (State σ) α :=
  zoom State.world (fun w s => { s with world := w }) p

/-- Await a read of the world. -/
def readWorld (f : σ → α) : Proc (State σ) α := inWorld (await fun w => (f w, w))

/-- A read that is answered by `fallback` when it fails. -/
def readOr (fallback : α) (f : σ → α) : Proc (State σ) α :=
  tryCatch (readWorld f) (pure fallback)

/-- A call whose failure is logged and otherwise ignored; whether it succeeded. -/
def attempt (p : Proc σ Unit) : Proc (State σ) Bool :=
  tryCatch (do
    inWorld p
    pure true) (pure false)

def now (svc : Services σ) : Proc (State σ) Int := do
  let s ← get
  pure (svc.clock s.world)

/-! ## Deferred group messages -/

def maxKeys : Nat := 256

def maxPerKey : Nat := 64

def deferralKey (groupId accountId : String) : String := groupId ++ ":" ++ accountId

/-- `ServerDeferredMessageBuffer.defer`: hold a deposit, bounded by the number of
keys and by the depth of each; the oldest goes first. -/
def defer (groupId accountId : String) (d : Deposit)
    (held : OrdMap String (List Deposit)) : OrdMap String (List Deposit) :=
  let key := deferralKey groupId accountId
  match held.get? key with
  | some bucket =>
    let bucket := if maxPerKey ≤ bucket.length then bucket.tail else bucket
    held.set key (bucket ++ [d])
  | none =>
    let room :=
      if maxKeys ≤ held.size then
        match held.keys.head? with
        | some oldestKey => if oldestKey = "" then held else held.delete oldestKey
        | none => held
      else held
    room.set key [d]

/-- One round of `flush`: a deposit that cannot be applied is logged, and lost. -/
def feed (reapply : Deposit → Proc (State σ) Bool) (failed : Bool) (d : Deposit) :
    Proc (State σ) Bool := do
  let lapsed ← tryCatch (reapply d) (pure true)
  pure (failed || lapsed)

/-- `ServerDeferredMessageBuffer.flush`: take the deposits held for an account
out of the buffer and feed each through `reapply`. As wherever a `Bool` is
returned, it is whether something went wrong. -/
def flush (reapply : Deposit → Proc (State σ) Bool) (groupId accountId : String) :
    Proc (State σ) Bool := do
  let key := deferralKey (trim groupId) (trim accountId)
  let s ← get
  if trim groupId = "" ∨ trim accountId = "" then pure false
  else
    match s.deferred.get? key with
    | none => pure false
    | some bucket => do
      modify fun s => { s with deferred := s.deferred.delete key }
      bucket.foldlM (feed reapply) false

/-! ## The thread of a deposit -/

/-- The thread a deposit was resolved to. `refused` is whether the direct-content
gate turned its sender away, and `failed` whether its thread could not be made. -/
structure Resolved where
  threadId : String
  thread : Option Thread
  refused : Bool
  failed : Bool

/-- What the search for a direct thread found, and whether the write that would
have made one failed. -/
structure Found where
  thread : Option (String × Thread)
  failed : Bool

/-- The id of the direct thread to repair: the one that was found, else the one
that belongs to the link. -/
def repairThreadId (svc : Services σ) (threadId peerAccountId : String) (link : PeerLink) :
    String :=
  if threadId ≠ "" then threadId
  else if trim link.peerLinkId ≠ "" then
    svc.directThreadIdForPeerLink (trim link.peerLinkId) peerAccountId
  else ""

/-- Ensure the direct thread with a peer. -/
def ensureThread (svc : Services σ) (threadId peerAccountId peerInboxId : String)
    (createdAtMs : Int) : Proc (State σ) Found := do
  let inboxId ← inWorld (svc.ensureDirectThread threadId peerAccountId peerInboxId createdAtMs)
  pure ⟨inboxId.map fun inboxId => (threadId, Thread.withPeer peerAccountId inboxId), false⟩

/-- `#repairDirectThreadFromPeerLink`. -/
def repairDirectThreadFromPeerLink (svc : Services σ) (threadId peerAccountId : String) :
    Proc (State σ) Found := do
  let peerLinks ← readOr [] svc.listPeerLinks
  match peerLinks.find? fun link => trim link.peerAccountId == peerAccountId with
  | none => pure ⟨none, false⟩
  | some link =>
    let resolvedThreadId := repairThreadId svc threadId peerAccountId link
    if resolvedThreadId = "" then pure ⟨none, false⟩
    else do
      let createdAtMs ← now svc
      tryCatch (ensureThread svc resolvedThreadId peerAccountId (trim link.peerInboxId)
        createdAtMs) (pure ⟨none, true⟩)

/-- The loop of `#resolveDirectThreadForSender` over the ids of all threads: the
first direct thread of the peer decides. -/
def findDirectThread (svc : Services σ) (peerAccountId : String) :
    List String → Proc (State σ) Found
  | [] => repairDirectThreadFromPeerLink svc "" peerAccountId
  | id :: ids =>
    if trim id = "" then findDirectThread svc peerAccountId ids
    else do
      let candidate ← readOr none fun w => svc.getThread w (trim id)
      match candidate with
      | none => findDirectThread svc peerAccountId ids
      | some thread =>
        if thread.threadType = .direct ∧ trim thread.peerAccountId = peerAccountId then
          if trim thread.peerInboxId ≠ "" then pure ⟨some (trim id, thread), false⟩
          else repairDirectThreadFromPeerLink svc (trim id) peerAccountId
        else findDirectThread svc peerAccountId ids

/-- `#resolveDirectThreadForSender`. -/
def resolveDirectThreadForSender (svc : Services σ) (senderAccountId : String) :
    Proc (State σ) Found := do
  let ids ← readOr [] svc.listThreadIds
  findDirectThread svc senderAccountId ids

/-- Whether the direct-content gate lets a sender in: an active contact, or one
whose acceptance of our own request this is. -/
def senderAllowed (svc : Services σ) (accountId : String) : Proc (State σ) Bool := do
  let active ← readWorld fun w => svc.isActiveContact w accountId
  if active then pure true else inWorld (svc.acceptOutgoingConnectRequest accountId)

/-- The thread the payload names, if it is known. -/
def namedThread (svc : Services σ) (d : Deposit) : Proc (State σ) (Option Thread) :=
  if d.payloadThreadId = "" then pure none
  else readOr none fun w => svc.getThread w d.payloadThreadId

/-- The thread of a deposit: the one it names, or the direct thread of the sender
its payload declares. -/
def resolveThread (svc : Services σ) (d : Deposit) : Proc (State σ) Resolved := do
  let named ← namedThread svc d
  match named with
  | some thread => pure ⟨d.payloadThreadId, some thread, false, false⟩
  | none =>
    if d.payloadSender = "" then pure ⟨"", none, false, false⟩
    else do
      let allowed ← senderAllowed svc
        (if d.envelopeSender ≠ "" then d.envelopeSender else d.payloadSender)
      if allowed then do
        let found ← resolveDirectThreadForSender svc d.payloadSender
        match found.thread with
        | some (threadId, thread) => pure ⟨threadId, some thread, false, found.failed⟩
        | none => pure ⟨"", none, false, found.failed⟩
      else pure ⟨"", none, true, false⟩

/-! ## The gates -/

/-- REZ-3: the envelope has a sender, and it is not the peer of the direct
thread. -/
def foreignDirectThread (d : Deposit) (thread : Option Thread) : Bool :=
  match thread with
  | some t => decide (t.threadType = .direct ∧ d.envelopeSender ≠ "" ∧
      Thread.peer thread ≠ "" ∧ Thread.peer thread ≠ d.envelopeSender)
  | none => false

inductive GateAction where
  | pass
  | defer (groupId : String)
  | drop

/-- `String.prototype.toLowerCase`, for the letters the states are written in. -/
def toLowerCase (s : String) : String := String.ofList (s.toList.map Char.toLower)

/-- The membership of the sender of the envelope, if the lookup finds one. -/
def senderMembership (svc : Services σ) (d : Deposit) (groupId : String) :
    Proc (State σ) (Option String) :=
  if groupId ≠ "" ∧ d.envelopeSender ≠ "" then
    readOr none fun w => svc.getMembership w groupId d.envelopeSender
  else pure none

/-- `ServerGroupAuthzGate.evaluate`. -/
def evaluateGroupGate (svc : Services σ) (redelivering : Bool) (d : Deposit)
    (thread : Option Thread) : Proc (State σ) GateAction :=
  match thread with
  | some t =>
    if t.threadType = .group ∧ d.kind ≠ some .groupOp then do
      let groupId := trim t.groupId
      let membership ← senderMembership svc d groupId
      match membership with
      | some state => pure (if toLowerCase state = "active" then .pass else .drop)
      | none =>
        pure (if d.envelopeSender ≠ "" ∧ groupId ≠ "" ∧ redelivering = false then
          .defer groupId else .drop)
    else pure .pass
  | none => pure .pass

/-! ## The admission of a signature -/

/-- `verifyOriginalMessageForAdmission`: the fingerprint of a payload whose
signature holds. -/
def verifyOriginalMessageForAdmission (svc : Services σ) (p : Payload) (nowMs : Int) :
    Option String :=
  if originalMessageAuthPresence p = .full then
    match svc.messageFingerprint p with
    | none => none
    | some fingerprint =>
      if fingerprint = trimmed p.contentHash ∧ svc.verifySignedAccountClaim p nowMs = true then
        some fingerprint
      else none
  else none

/-- What the admission found: whether a signature was verified, and the
fingerprint a commit ack may name. -/
structure Admission where
  verified : Bool
  admittedFingerprint : String

/-- Append a verified fact to the log of its thread, and flag the row of a
message whose id two facts share. -/
def appendFact (svc : Services σ) (d : Deposit) (threadId fingerprint : String) (p : Payload) :
    Proc (State σ) Unit := do
  let receivedAtMs ← now svc
  note d (.appending fingerprint)
  let conflict ← inWorld (svc.appendOriginalFact threadId fingerprint p receivedAtMs)
  match conflict with
  | none => pure ()
  | some messageId => do
    note d (.flagging messageId)
    inWorld (svc.markMessageConflicted threadId messageId)

/-- AE-1 admission; `none` drops the deposit. An original without a signature,
and every other kind, is admitted as it is; so is a signed one by a server that
cannot verify it. -/
def admitOriginal (svc : Services σ) (d : Deposit) (threadId : String) :
    Proc (State σ) (Option Admission) :=
  match d.payload with
  | none => pure (some ⟨false, ""⟩)
  | some p =>
    if isOriginalMessageKind p.kind = true then
      match originalMessageAuthPresence p with
      | .mixed => pure none
      | .absent => pure (some ⟨false, ""⟩)
      | .full =>
        if svc.cryptoProvider = true then do
          let verified ← readWorld fun w =>
            verifyOriginalMessageForAdmission svc p (svc.clock w)
          match verified with
          | none => pure none
          | some fingerprint =>
            if threadId = "" then pure (some ⟨true, ""⟩)
            else do
              appendFact svc d threadId fingerprint p
              pure (some ⟨true,
                if p.kind = some PayloadKind.message.wire then fingerprint else ""⟩)
        else pure (some ⟨false, ""⟩)
    else pure (some ⟨false, ""⟩)

/-! ## Dispatch -/

/-- The two ways in which applying a deposit applies others. -/
structure Reentry (σ : Type) where
  flushDeferredGroupMessages : String → String → Proc (State σ) Bool
  applyFact : Payload → Proc (State σ) Bool

/-- The context a handler is dispatched with. -/
structure DispatchCtx where
  threadId : String
  peerAccountId : String
  channelId : String

/-- Whether the typed record of a kind has a `senderAccountId`. Three of the
records are those of the SDK. -/
def recordNamesSender (svc : Services σ) : PayloadKind → Bool
  | .message | .reaction | .messageEdit | .messageTombstone | .connectAccepted => true
  | .fileManifest => svc.sdkRecordNamesSender .fileManifest
  | .fileChunk => svc.sdkRecordNamesSender .fileChunk
  | .profile => svc.sdkRecordNamesSender .profile
  | _ => false

/-- The `senderAccountId` of the typed record. -/
def recordSender (svc : Services σ) (k : PayloadKind) (p : Payload) : String :=
  if recordNamesSender svc k = true then trimmed p.senderAccountId else ""

/-- `extractPayloadSender`. -/
def extractPayloadSender (svc : Services σ) (ctx : DispatchCtx) (k : PayloadKind)
    (p : Payload) : String :=
  if trim ctx.peerAccountId ≠ "" then trim ctx.peerAccountId else recordSender svc k p

/-- `handleIncomingGroupOp`. A join flushes the deposits held for the joiner, and
only then is it forwarded. -/
def dispatchGroupOp (svc : Services σ) (re : Reentry σ) (p : Payload) (sender : String) :
    Proc (State σ) Answer := do
  let turn ← inWorld (svc.handleIncomingGroupOp p sender)
  match turn.joined with
  | none => pure turn.answer
  | some (groupId, joiner) => do
    let lapsed ← tryCatch (re.flushDeferredGroupMessages groupId joiner) (pure true)
    if turn.shouldForward then do
      let failed ← inWorld (svc.forwardMemberJoin p)
      pure ⟨turn.answer.consumed, turn.answer.failed || lapsed || failed⟩
    else pure ⟨turn.answer.consumed, turn.answer.failed || lapsed⟩

/-- The checks of `#admitFact` that need no store. -/
def admissibleFact (svc : Services σ) (p : Payload) : Bool :=
  p.signedOriginal && decide (trimmed p.threadId ≠ "") &&
    decide (trimmed p.senderAccountId ≠ "") && svc.cryptoProvider

/-- Apply one fact of a transfer, as far as it is admitted. -/
def transferFact (svc : Services σ) (re : Reentry σ) (failed : Bool) (fact : Payload) :
    Proc (State σ) Bool :=
  if admissibleFact svc fact = true then do
    let admitted ← inWorld (svc.admitFact fact)
    if admitted then do
      let lapsed ← re.applyFact fact
      pure (failed || lapsed)
    else pure failed
  else pure failed

/-- `handleInbound` of the sibling sync: the facts of a transfer are applied one
by one. -/
def dispatchSiblingSync (svc : Services σ) (re : Reentry σ) (p : Payload) :
    Proc (State σ) Bool := do
  let facts ← inWorld (svc.openSiblingSync p)
  let lapsed ← facts.foldlM (transferFact svc re) false
  let failed ← inWorld (svc.closeSiblingSync p)
  pure (lapsed || failed)

/-- The answer of a handler that consumes whatever it is handed. -/
def always (p : Proc (State σ) Bool) : Proc (State σ) Answer := do
  let failed ← p
  pure ⟨true, failed⟩

/-- The `dispatch` functions of the registry. They throw when their handler does,
but for the avatar's: refusing its bytes counts as consuming it. -/
def dispatchEntry (svc : Services σ) (re : Reentry σ) (k : PayloadKind) (p : Payload)
    (ctx : DispatchCtx) : Proc (State σ) Answer :=
  let sender := extractPayloadSender svc ctx k p
  match k with
  | .message => pure ⟨false, false⟩
  | .reaction =>
    if ctx.threadId = "" then pure ⟨false, false⟩
    else inWorld (svc.handleIncomingReaction p sender ctx.threadId)
  | .messageEdit =>
    if ctx.threadId = "" then pure ⟨false, false⟩
    else inWorld (svc.handleIncomingEdit p sender ctx.threadId)
  | .messageTombstone =>
    if ctx.threadId = "" then pure ⟨false, false⟩
    else inWorld (svc.handleIncomingTombstone p sender ctx.threadId)
  | .groupOp => dispatchGroupOp svc re p sender
  | .connectRequest => inWorld (svc.handleIncomingConnectRequest p sender)
  | .accountStateEvent => always (inWorld (svc.applyInbound p))
  | .siblingSync => always (dispatchSiblingSync svc re p)
  | .messageCommitAck => always (inWorld (svc.handleCommitAck p sender ctx.threadId))
  | .connectAccepted => inWorld (svc.handleIncomingConnectAccepted p sender ctx.threadId)
  | .fileManifest => inWorld (svc.handleIncomingPayload p sender ctx.threadId ctx.channelId)
  | .fileChunk => inWorld (svc.handleIncomingPayload p sender ctx.threadId ctx.channelId)
  | .avatar => do
    let stored ← attempt (svc.storeFile p)
    pure ⟨true, !stored⟩
  | .profile => inWorld (svc.handleIncomingProfile p sender)

/-- The context a deposit is dispatched in, once its thread is known. -/
def dispatchCtx (d : Deposit) (r : Resolved) : DispatchCtx where
  threadId := r.threadId
  peerAccountId := if Thread.peer r.thread ≠ "" then Thread.peer r.thread else d.envelopeSender
  channelId := trimmed (d.payload.bind channelId)

/-- Dispatch by kind. A handler that throws has not consumed the payload. -/
def dispatch (svc : Services σ) (re : Reentry σ) (d : Deposit) (r : Resolved)
    (verified : Bool) (k : PayloadKind) (p : Payload) : Proc (State σ) Answer := do
  let ctx := dispatchCtx d r
  note d (.dispatching k (extractPayloadSender svc ctx k p) verified)
  tryCatch (dispatchEntry svc re k p ctx) (pure ⟨false, true⟩)

/-! ## Filing a row -/

/-- The account a row is filed under. -/
def rowSender (d : Deposit) (r : Resolved) : String :=
  if Thread.peer r.thread ≠ "" then Thread.peer r.thread
  else if d.envelopeSender ≠ "" then d.envelopeSender
  else d.payloadSender

def canonicalMessageId (d : Deposit) : String :=
  let messageId := trimmed (d.payload.bind messageId)
  if messageId ≠ "" then messageId else d.eventId

def rowOf (d : Deposit) (r : Resolved) (nowMs : Int) : Row where
  messageId := canonicalMessageId d
  threadId := r.threadId
  senderKey := if rowSender d r ≠ "" then rowSender d r else d.mailboxId
  senderAccountId := rowSender d r
  packetB64 := d.ciphertextB64
  acceptedAtMs := nowMs
  text := (d.payload.map extractPreviewText).getD ""
  payload := d.payload

/-- Where the ack of a row goes: to the peer of its direct thread, or to the
inbox of the link to its sender. -/
def ackAddress (svc : Services σ) (d : Deposit) (r : Resolved) :
    Proc (State σ) (Option (String × String)) :=
  match r.thread with
  | none => pure none
  | some t =>
    if t.threadType ≠ .group ∧ t.peerAccountId ≠ "" ∧ t.peerInboxId ≠ "" then
      pure (some (t.peerAccountId, t.peerInboxId))
    else if t.threadType = .group ∧ rowSender d r ≠ "" then do
      let peerLinks ← readOr [] svc.listPeerLinks
      match peerLinks.find? fun link => trim link.peerAccountId == rowSender d r with
      | some link =>
        pure (if trim link.peerInboxId ≠ "" then some (rowSender d r, trim link.peerInboxId)
          else none)
      | none => pure none
    else pure none

/-- Acknowledge a filed message. The ack is built and sent on the side: the
handler does not wait for it. -/
def acknowledge (svc : Services σ) (d : Deposit) (r : Resolved) (admission : Admission)
    (nowMs : Int) : Proc (State σ) Unit := do
  let messageId := trimmed (d.payload.bind messageId)
  if d.kind = some .message ∧ messageId ≠ "" then do
    let address ← ackAddress svc d r
    match address with
    | none => pure ()
    | some (peerAccountId, deliverInboxId) => do
      let ack : Ack :=
        { peerAccountId := peerAccountId
          deliverInboxId := deliverInboxId
          messageId := messageId
          commit :=
            if admission.admittedFingerprint ≠ "" ∧ d.payloadThreadId ≠ "" then
              some (admission.admittedFingerprint, d.payloadThreadId)
            else none
          committedAtMs := nowMs }
      note d (.acking ack)
      modify fun s => { s with world := svc.sendAck ack s.world }
  else pure ()

/-- Learn of a channel from a group message that names it. -/
def observeChannel (svc : Services σ) (d : Deposit) (r : Resolved) (verified : Bool) :
    Proc (State σ) Bool :=
  match r.thread with
  | none => pure true
  | some t =>
    let channelId := trimmed (d.payload.bind channelId)
    if t.threadType = .group ∧ t.groupId ≠ "" ∧ rowSender d r ≠ "" ∧ channelId ≠ "" then do
      note d (.observing (rowSender d r) verified)
      attempt (svc.ensureFromObservedMessage t.groupId channelId (rowSender d r))
    else pure true

/-- File a deposit as a message of its thread. The row has to be written; the
index and the channel are best effort. -/
def persist (svc : Services σ) (d : Deposit) (r : Resolved) (admission : Admission)
    (failed : Bool) : Proc (State σ) Verdict :=
  if r.threadId = "" then pure ⟨.unrouted r.refused, failed⟩
  else do
    let nowMs ← now svc
    note d (.persisting (rowSender d r) admission.verified)
    inWorld (svc.upsertDepositedMessage (rowOf d r nowMs))
    let indexed ← attempt (svc.upsertFromMessage r.threadId (canonicalMessageId d) nowMs
      (rowOf d r nowMs).text)
    acknowledge svc d r admission nowMs
    let observed ← observeChannel svc d r admission.verified
    pure ⟨.persisted d.kind, failed || !indexed || !observed⟩

/-! ## The handler -/

/-- The two gates and the admission of a deposit whose thread is resolved. -/
def passGates (svc : Services σ) (redelivering : Bool) (d : Deposit) (r : Resolved) :
    Proc (State σ) (Except Disposition Admission) :=
  if foreignDirectThread d r.thread = true then pure (.error .foreignThread)
  else do
    let gate ← evaluateGroupGate svc redelivering d r.thread
    match gate with
    | .defer groupId => do
      modify fun s => { s with
        deferred := defer groupId d.envelopeSender d s.deferred }
      pure (.error .deferred)
    | .drop => pure (.error .dropped)
    | .pass => do
      let admission ← admitOriginal svc d r.threadId
      match admission with
      | none => pure (.error .unadmitted)
      | some admission => pure (.ok admission)

/-- Everything after the gates and the admission. -/
def applyAdmitted (svc : Services σ) (re : Reentry σ) (d : Deposit) (r : Resolved)
    (admission : Admission) : Proc (State σ) Verdict :=
  match d.kind, d.payload with
  | some k, some p =>
    if svc.recordClass k p = true then do
      let answer ← dispatch svc re d r admission.verified k p
      if answer.consumed then pure ⟨.consumed, r.failed || answer.failed⟩
      else persist svc d r admission (r.failed || answer.failed)
    else pure ⟨.malformed, r.failed⟩
  | _, _ => persist svc d r admission r.failed

/-- Whether a deposit is handled at all: it has an identity, and it is no
protocol body. -/
def handled (d : Deposit) : Bool :=
  decide (d.eventId ≠ "") && !(d.payload.map isProtocolBody).getD false

/-- The body of `#handleMailboxDeposited`, without the note of its verdict. -/
def applyDeposit (svc : Services σ) (re : Reentry σ) (redelivering : Bool) (d : Deposit) :
    Proc (State σ) Verdict :=
  if handled d = true then do
    let r ← resolveThread svc d
    let passed ← passGates svc redelivering d r
    match passed with
    | .error disposition => pure ⟨disposition, r.failed⟩
    | .ok admission => applyAdmitted svc re d r admission
  else pure ⟨.ignored, false⟩

/-- `#handleMailboxDeposited`, with its re-entrances as a parameter. -/
def handleWith (svc : Services σ) (re : Reentry σ) (redelivering : Bool) (d : Deposit) :
    Proc (State σ) Verdict := do
  let verdict ← applyDeposit svc re redelivering d
  note d (.settled verdict)
  pure verdict

/-! ## The re-entrances, and the entry points -/

/-- The re-entrance of a deposit that has none. -/
def noReentry : Reentry σ := ⟨fun _ _ => pure false, fun _ => pure false⟩

/-- The deposit that `#admitFact` makes of a fact. -/
def factDeposit (svc : Services σ) (p : Payload) : Deposit where
  origin := .siblingTransfer
  eventId := trim ("sibsync:" ++ (svc.messageFingerprint p).getD "")
  mailboxId := ""
  ciphertextB64 := svc.encode p
  senderAccountId := trimmed p.senderAccountId
  payload := some p

/-- Apply a transferred fact. A fact is an original, so it enters nothing. -/
def applyFact (svc : Services σ) (redelivering : Bool) (p : Payload) : Proc (State σ) Bool := do
  let verdict ← handleWith svc noReentry redelivering (factDeposit svc p)
  pure verdict.failed

/-- The re-entrance of a held deposit. It is no group op, so it flushes nothing. -/
def heldReentry (svc : Services σ) : Reentry σ := ⟨fun _ _ => pure false, applyFact svc true⟩

/-- Apply a held deposit once more. -/
def reapply (svc : Services σ) (d : Deposit) : Proc (State σ) Bool := do
  let verdict ← handleWith svc (heldReentry svc) true d
  pure verdict.failed

/-- The re-entrance of a deposit that just arrived. -/
def freshReentry (svc : Services σ) : Reentry σ := ⟨flush (reapply svc), applyFact svc false⟩

/-- `#handleMailboxDeposited`. -/
def handleMailboxDeposited (svc : Services σ) (d : Deposit) : Proc (State σ) Verdict :=
  handleWith svc (freshReentry svc) false d

/-- The deposit that is in a frame. -/
def ofFrame (svc : Services σ) (frame : Frame) : Deposit where
  origin := .plaintext
  eventId := (depositIdentity frame).dedupId
  mailboxId := (depositIdentity frame).mailboxId
  ciphertextB64 := frame.ciphertextB64.getD ""
  senderAccountId := frame.senderAccountId.getD ""
  payload := frame.ciphertextB64.bind fun b64 => if b64 = "" then none else svc.decode b64

/-- `processDeposit`: the raw deposit. -/
def processDeposit (svc : Services σ) (frame : Frame) : Proc (State σ) Verdict :=
  handleMailboxDeposited svc (ofFrame svc frame)

/-- The deposit that an opened message makes. -/
def ofUserMessage (svc : Services σ) (m : UserMessage) : Deposit where
  origin := m.origin
  eventId := trim m.eventId
  mailboxId := trim m.mailboxId
  ciphertextB64 := m.plaintextB64
  senderAccountId := trim m.senderAccountId
  payload := svc.decode m.plaintextB64

/-- `applyUserMessage`: the opened message. -/
def applyUserMessage (svc : Services σ) (m : UserMessage) : Proc (State σ) Verdict :=
  if m.eventId = "" ∨ m.plaintextB64 = "" then do
    note (ofUserMessage svc m) (.settled ⟨.ignored, false⟩)
    pure ⟨.ignored, false⟩
  else handleMailboxDeposited svc (ofUserMessage svc m)

end Service

end RezChat.Events
