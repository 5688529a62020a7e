/-
The content of a deposit, as the event service reads it.

Once it is decrypted, or when it was never encrypted, a deposit is a JSON object
whose `kind` says what it is. The server reads each of its fields through a
`typeof` test, so a field is modelled, as in a frame, by the value it has when
it passes its test and by `none` otherwise.

The kinds with a handler are those of `PAYLOAD_KIND_REGISTRY`
(`records/payloads/index.js`). Four of them, a message and the three mutations
of one, may carry a signature of their author (`originalMessageShapes.js`); the
fields of the signature are all there or all missing, and anything in between is
malformed.
-/
import RezChat.Inbox.Frame

set_option autoImplicit false

namespace RezChat.Events

open Inbox (trim trimmed)

/-! ## Payloads -/

/-- The fields of a payload that the event service itself reads. `e2ee` is
whether the field of that name is the number one; `innerKind` and `innerText`
belong to the nested object `payload`. -/
structure Payload where
  kind : Option String := none
  e2ee : Bool := false
  threadId : Option String := none
  senderAccountId : Option String := none
  messageId : Option String := none
  channelId : Option String := none
  text : Option String := none
  innerKind : Option String := none
  innerText : Option String := none
  signerPublicKeyB64 : Option String := none
  senderAuthorityEpoch : Option Int := none
  contentHash : Option String := none
  sig : Option String := none
  deriving DecidableEq

/-- Peer-link protocol bodies, which the event service leaves to the peer-link
service. -/
def Payload.isProtocolBody (p : Payload) : Bool :=
  p.e2ee || p.kind == some "rez.peerlink.claim.req" || p.kind == some "rez.peerlink.claim.res"
    || p.kind == some "rez.peerlink.handshake.ack.v2"

/-- `IMAGE_KIND`, which has a preview but no handler. -/
def imageKind : String := "rez.image.v1"

/-- The caption of an image, or what stands for one. -/
def imagePreview (text : Option String) : String :=
  if trimmed text = "" then "Photo" else trimmed text

/-- `extractPreviewText` of the threads service. -/
def extractPreviewText (p : Payload) : String :=
  if p.kind = some imageKind then imagePreview p.text
  else if trimmed p.text ≠ "" then trimmed p.text
  else if p.innerKind = some imageKind then imagePreview p.innerText
  else trimmed p.innerText

/-! ## The registry -/

/-- The entries of `PAYLOAD_KIND_REGISTRY`. -/
inductive PayloadKind where
  | message
  | reaction
  | messageEdit
  | messageTombstone
  | groupOp
  | connectRequest
  | accountStateEvent
  | siblingSync
  | messageCommitAck
  | connectAccepted
  | fileManifest
  | fileChunk
  | avatar
  | profile
  deriving DecidableEq

/-- The wire name of a kind. -/
def PayloadKind.wire : PayloadKind → String
  | .message => "rez.chat.message.v1"
  | .reaction => "rez.chat.reaction.v1"
  | .messageEdit => "rez.chat.message.edit.v1"
  | .messageTombstone => "rez.chat.message.tombstone.v1"
  | .groupOp => "rez.group-op.v1"
  | .connectRequest => "rez.connect-request.v1"
  | .accountStateEvent => "rez.account.state.v1"
  | .siblingSync => "rez.chat.sibling-sync.v1"
  | .messageCommitAck => "rez.chat.commit-ack.v1"
  | .connectAccepted => "rez.chat.connect-accepted.v1"
  | .fileManifest => "rez.file.manifest.v1"
  | .fileChunk => "rez.file.chunk.v1"
  | .avatar => "rez.avatar.v1"
  | .profile => "rez.profile.v1"

/-- The registry, in its order. -/
def payloadKindRegistry : List PayloadKind :=
  [.message, .reaction, .messageEdit, .messageTombstone, .groupOp, .connectRequest,
    .accountStateEvent, .siblingSync, .messageCommitAck, .connectAccepted, .fileManifest,
    .fileChunk, .avatar, .profile]

/-- `getPayloadEntry`. -/
def getPayloadEntry (kind : Option String) : Option PayloadKind :=
  kind.bind fun wire => payloadKindRegistry.find? fun k => k.wire == wire

/-- A kind is found under its own wire name. -/
@[simp] theorem getPayloadEntry_wire (k : PayloadKind) :
    getPayloadEntry (some k.wire) = some k := by
  cases k <;> decide

/-- What is found under a name has that wire name. -/
theorem getPayloadEntry_eq_some {kind : Option String} {k : PayloadKind} :
    getPayloadEntry kind = some k ↔ kind = some k.wire := by
  constructor
  · intro h
    obtain ⟨wire, rfl, hf⟩ := Option.bind_eq_some_iff.1 h
    have hw := List.find?_some hf
    rw [beq_iff_eq] at hw
    rw [hw]
  · rintro rfl
    exact getPayloadEntry_wire k

/-! ## Signed originals -/

/-- `ORIGINAL_MESSAGE_KINDS`: a message and the mutations of one. -/
def originalMessageKinds : List PayloadKind :=
  [.message, .messageEdit, .messageTombstone, .reaction]

/-- `isOriginalMessageKind`. -/
def isOriginalMessageKind (kind : Option String) : Bool :=
  match kind with
  | some wire => (originalMessageKinds.map PayloadKind.wire).contains wire
  | none => false

/-- How many fields of the signature are there. -/
inductive AuthPresence where
  | absent
  | full
  | mixed
  deriving DecidableEq

/-- The four fields of the signature, present or not. -/
def authFlags (p : Payload) : List Bool :=
  [decide (trimmed p.signerPublicKeyB64 ≠ ""),
    match p.senderAuthorityEpoch with
    | some epoch => decide (0 ≤ epoch)
    | none => false,
    decide (trimmed p.contentHash ≠ ""),
    decide (trimmed p.sig ≠ "")]

/-- `originalMessageAuthPresence`: the fields of the signature are all there or
all missing; callers drop anything in between. -/
def originalMessageAuthPresence (p : Payload) : AuthPresence :=
  if (authFlags p).all (! ·) then .absent
  else if (authFlags p).all id then .full
  else .mixed

/-- A payload that carries a whole signature of its author. -/
def Payload.signedOriginal (p : Payload) : Bool :=
  isOriginalMessageKind p.kind && decide (originalMessageAuthPresence p = .full)

/-- An original is neither a group op nor a payload of the sibling channel: only
these two kinds make the event service apply further deposits. -/
theorem isOriginalMessageKind_wire {k : PayloadKind}
    (h : isOriginalMessageKind (some k.wire) = true) : k ∈ originalMessageKinds := by
  revert h
  cases k <;> decide

end RezChat.Events
