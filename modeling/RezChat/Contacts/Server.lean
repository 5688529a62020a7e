/-
The event service with the contacts service behind it.

The event service asks the contacts service who may send (`isActiveContact`,
`acceptOutgoingConnectRequest`) and hands it connect requests, acceptances and profiles;
the applier of group ops has it record the names of co-members. Everything else behind
them stays a parameter, the account-state events of sibling devices included: what those
do to the contacts is theirs.
-/
import RezChat.Contacts.Moves
import RezChat.Groups.Calls
import RezChat.Groups.Gate

set_option autoImplicit false

namespace RezChat.Contacts

open Inbox (trim trim_trim)
open Events World Proc
open Groups (Peers GroupOp PeerCalls Behind groupServices behind_handle)
open ContactsService

variable {ω : Type}

/-- What is behind the contacts service and beside it: the other services and stores, the
services that the contacts service and the applier of group ops call, the records of the
payloads, and what an account-state event does. -/
structure Backend (ω : Type) where
  base : Services ω
  links : Links ω
  peers : Peers ω
  groupOp : Payload → Option GroupOp
  connectRequest : Payload → ConnectRequestRecord
  connectAccepted : Payload → ConnectAcceptedRecord
  profile : Payload → Profile
  applyInbound : Payload → Proc (World ω) Bool

/-- The answer of a handler of the contacts service. -/
def answered (p : Proc (World ω) (Bool × Bool)) : Proc (World ω) Answer := do
  let (consumed, failed) ← p
  pure ⟨consumed, failed⟩

/-- The services with the contacts service among them. -/
def contactServices (B : Backend ω) : Services (World ω) :=
  { B.base.over rest putRest with
    isActiveContact := isActive
    acceptOutgoingConnectRequest := fun a => acceptOutgoingConnectRequest B.links a ""
    handleIncomingConnectRequest := fun p a =>
      answered (handleIncomingConnectRequest B.links (B.connectRequest p) a)
    handleIncomingConnectAccepted := fun p a t =>
      answered (handleIncomingConnectAccepted B.links (B.connectAccepted p) a t)
    handleIncomingProfile := fun p a => answered (handleIncomingProfile B.links (B.profile p) a)
    applyInbound := B.applyInbound }

/-- What the applier of group ops calls, with the contacts service among it. -/
def contactPeers (B : Backend ω) : Peers (World ω) :=
  { B.peers.over rest putRest with
    ensureKnownAccount := ensureKnownAccount B.links }

/-- The server: contacts and groups, and the event service over both. -/
def server (B : Backend ω) : Services (Groups.World (World ω)) :=
  groupServices (contactServices B) (contactPeers B) B.groupOp

/-- The account that an invite code in a payload commits to. -/
def Backend.inviter (B : Backend ω) (p : Payload) : String :=
  B.links.creatorOf (trim (B.connectRequest p).inviteCode)

section Calls

variable {B : Backend ω} {W : World ω → Prop}

/-- What is put behind the groups is behind them. -/
theorem behind_put (w : World ω) (s : Groups.World (World ω)) : (Groups.putRest w s).rest = w := rfl

theorem keeps_answered {p : Proc (World ω) (Bool × Bool)} (h : Holds W p) :
    Holds W (answered p) :=
  keeps_last h

/-! ## The calls of the event service -/

section Rest

variable (hrest : Overlooks putRest W)
include hrest

theorem admitCalls_contact {threadId : String} {p : Payload} :
    AdmitCalls (contactServices B) threadId p W :=
  have hover : AdmitCalls (B.base.over rest putRest) threadId p W := admitCalls_over hrest
  ⟨hover.append, hover.mark⟩

theorem filingCalls_contact : FilingCalls (contactServices B) W :=
  have hover : FilingCalls (B.base.over rest putRest) W := filingCalls_over hrest
  ⟨hover.index, hover.observe, hover.ack⟩

theorem syncCalls_contact {k : PayloadKind} (hk : k ≠ .accountStateEvent) :
    SyncCalls (contactServices B) k W :=
  have hover : SyncCalls (B.base.over rest putRest) k W := syncCalls_over hrest
  ⟨fun h => absurd h hk, hover.openSync, hover.admitFact, hover.closeSync⟩

theorem admitCalls_server {threadId : String} {p : Payload} :
    AdmitCalls (server B) threadId p (Behind W) :=
  have hcontact : AdmitCalls (contactServices B) threadId p W := admitCalls_contact hrest
  have hover := admitCalls_through behind_put hcontact
  ⟨hover.append, hover.mark⟩

theorem filingCalls_server : FilingCalls (server B) (Behind W) :=
  have hover := filingCalls_through behind_put (filingCalls_contact (B := B) hrest)
  ⟨hover.index, hover.observe, hover.ack⟩

theorem syncCalls_server {k : PayloadKind} (hk : k ≠ .accountStateEvent) :
    SyncCalls (server B) k (Behind W) :=
  have hover := syncCalls_through behind_put (syncCalls_contact (B := B) hrest hk)
  ⟨hover.accountState, hover.openSync, hover.admitFact, hover.closeSync⟩

theorem filed_server (row : Row) :
    Holds (Behind W) ((server B).upsertDepositedMessage row) :=
  keeps_through behind_put (keeps_overlooked hrest (B.base.upsertDepositedMessage row))

end Rest

section Answers

variable (hW : KeptByAnswers W)
include hW

theorem lookupCalls_contact : LookupCalls (contactServices B) W where
  accept _ := keeps_acceptOutgoingConnectRequest hW ""
  ensure _ _ _ _ := keeps_overlooked hW.rest _

theorem lookupCalls_server : LookupCalls (server B) (Behind W) :=
  have hover := lookupCalls_through behind_put (lookupCalls_contact (B := B) hW)
  ⟨hover.accept, hover.ensure⟩

/-- The handlers of content, if that of connect requests is among them. -/
theorem contentCalls_contact {k : PayloadKind} {threadId : String} {p : Payload}
    (hrequest : k = .connectRequest → ∀ a, Holds W
      (handleIncomingConnectRequest B.links (B.connectRequest p) a)) :
    ContentCalls (contactServices B) k threadId p W :=
  have hover : ContentCalls (B.base.over rest putRest) k threadId p W :=
    contentCalls_over hW.rest
  { reaction := hover.reaction
    edit := hover.edit
    tombstone := hover.tombstone
    connectRequest := fun hk a => keeps_answered (hrequest hk a)
    commitAck := hover.commitAck
    connectAccepted := fun a =>
      keeps_answered (keeps_handleIncomingConnectAccepted hW _ a threadId)
    file := hover.file
    store := hover.store
    profile := fun a => keeps_answered (keeps_handleIncomingProfile hW _ a) }

theorem contentCalls_server {k : PayloadKind} {threadId : String} {p : Payload}
    (hrequest : k = .connectRequest → ∀ a, Holds W
      (handleIncomingConnectRequest B.links (B.connectRequest p) a)) :
    ContentCalls (server B) k threadId p (Behind W) :=
  have hcontact : ContentCalls (contactServices B) k threadId p W :=
    contentCalls_contact hW hrequest
  have hover := contentCalls_through behind_put hcontact
  ⟨hover.reaction, hover.edit, hover.tombstone, hover.connectRequest, hover.commitAck,
    hover.connectAccepted, hover.file, hover.store, hover.profile⟩

end Answers

theorem groupOpCalls_server (hrest : Overlooks putRest W) (hN : KeptByNames W) :
    GroupOpCalls (server B) (Behind W) where
  groupOp p a := by
    have hover : PeerCalls (B.peers.over rest putRest) W :=
      Groups.peerCalls_over hrest
    have hpeers : PeerCalls (contactPeers B) W :=
      ⟨hover.authorize, keeps_ensureKnownAccount hN, hover.title, hover.lock, hover.joined,
        hover.store, hover.members, hover.group, hover.channel, hover.sync, hover.bootstrap⟩
    refine keeps_seq keeps_get fun s => ?_
    cases hop : B.groupOp p with
    | none => exact holds_pure
    | some op => exact behind_handle hpeers op a _
  forward p := keeps_through behind_put (keeps_overlooked hrest (B.base.forwardMemberJoin p))

end Calls

end RezChat.Contacts
