/-
How a device applies what another device of its account tells it (`applyInbound` and `#applyOp` of
`ServerAccountStateSyncService.js`).

Two things are noted in the store of the service: for each device the highest number of an event of
it that was applied, and for each activation when its baseline was last sent. All else that an event
changes is the concern of other services, which are taken as they are: whatever they do to the rest
of the world, and however they fail.
-/
import RezChat.Devices.AccountState

set_option autoImplicit false

namespace RezChat.Devices

open Inbox (trim trimmed)
open Proc

/-- What a device knows of the authority of its account. -/
structure OwnAuthority where
  established : Bool
  revokedCertIds : List String

/-- What is written of a peer. -/
structure PeerRelationship where
  peerAccountId : Option String
  peerLinkId : String
  peerInboxId : String
  remoteAccountIdentityPublicKeyB64 : String
  remoteIdentityDhPublicKeyB64 : String
  nowMs : Int

/-- The other services, over the rest of the world. One that is missing is `none`. -/
structure ApplyServices (ω : Type) where
  deviceId : String
  jsonLength : StatePayload → Nat
  canVerify : Bool
  verifyAccountStateEventSig : AccountStateEvent → Bool
  clock : ω → Int
  isEnabled : ω → Bool
  /-- The activation, the origin, the horizon, and what was seen of the origin before. -/
  baselineComplete : Option (String → String → Option Int → Int → Proc ω Unit)
  ownAuthorityState : Proc ω (Option OwnAuthority)
  sendActivationBaseline : String → StateTarget → Proc ω Unit
  deleteContact : Option (Option String → Proc ω Unit)
  upsertPeerRelationship : Option (PeerRelationship → Proc ω Unit)
  ensureActiveContact : Option (Option String → String → Int → Proc ω Unit)
  ensureKnownAccount : Option (Option String → String → Proc ω Unit)
  directThreadIdForPeerLink : Option (String → Option String → Option String)
  /-- The thread, the peer, its inbox, and the time. -/
  ensureDirectThread : Option (String → Option String → String → Int → Proc ω Unit)
  /-- The row of the thread's index, which is emitted. -/
  upsertFromMessage : Option (String → Int → Proc ω Unit)

structure Receiver (ω : Type) where
  seen : OrdMap String Int
  baselineSent : OrdMap String Int
  rest : ω
  /-- What was applied, the latest first. No step reads it. -/
  applied : List AccountStateEvent

/-- What becomes of an event. -/
inductive ApplyReport where
  | invalid
  | unverifiable
  | badSignature
  | selfOrigin
  | stale
  | applyIncomplete
  | applied

namespace Receiver

variable {ω : Type}

/-- A device that was told nothing yet. -/
def fresh (rest : ω) : Receiver ω := ⟨OrdMap.empty, OrdMap.empty, rest, []⟩

/-- The highest number of an event of a device that was applied. -/
def seenLamport (r : Receiver ω) (originDeviceId : String) : Int := (r.seen.get? originDeviceId).getD 0

def putRest (w : ω) (r : Receiver ω) : Receiver ω := { r with rest := w }

end Receiver

section Apply

variable {ω : Type} (A : ApplyServices ω)

/-- A call of another service. -/
def inRest {α : Type} (p : Proc ω α) : Proc (Receiver ω) α :=
  zoom Receiver.rest Receiver.putRest p

/-- A call of a service that may be missing. -/
def callIf {α : Type} (f : Option α) (call : α → Proc ω Unit) : Proc (Receiver ω) Unit :=
  match f with
  | some f => inRest (call f)
  | none => pure ()

/-- How long a baseline is not sent again, in milliseconds. -/
def baselineThrottleMs : Int := 30000

/-- A baseline that was asked for is sent, if none was sent just now. -/
def answerBaselineRequest (event : AccountStateEvent) (activationId requestInboxId : String) :
    Proc (Receiver ω) Unit := do
  let last ← await fun r => (r.baselineSent.get? activationId, r)
  let r ← get
  let now := A.clock r.rest
  if (last.map fun atMs => decide (now - atMs ≤ baselineThrottleMs)).getD false = true then pure ()
  else do
    await fun r => ((), { r with baselineSent := r.baselineSent.set activationId now })
    tryCatch
      (inRest (A.sendActivationBaseline activationId ⟨event.originDeviceId, requestInboxId⟩))
      (pure ())

/-- `#applyOp` of a request for the baseline. It is not answered where the authority is not known, or
the activation is revoked. -/
def applyBaselineRequest (event : AccountStateEvent) : Proc (Receiver ω) Unit := do
  let activationId := trimmed event.payload.activationId
  let requestInboxId := trimmed event.payload.requestInboxId
  let r ← get
  if activationId = "" ∨ A.isEnabled r.rest = false ∨ requestInboxId = "" then pure ()
  else do
    let authority ← tryCatch (inRest A.ownAuthorityState) (pure none)
    match authority with
    | none => pure ()
    | some authority =>
      if authority.established = false ∨ activationId ∈ authority.revokedCertIds then pure ()
      else answerBaselineRequest A event activationId requestInboxId

/-- The thread of a contact that is told of, with its row in the index. -/
def applyThread (p : StatePayload) (now : Int) : Proc (Receiver ω) Unit :=
  let peerLinkId := trimmed p.peerLinkId
  let peerInboxId := trimmed p.peerInboxId
  match A.ensureDirectThread with
  | none => pure ()
  | some ensureDirectThread =>
    if A.deviceId = "" ∨ peerLinkId = "" ∨ peerInboxId = "" then pure ()
    else
      let threadId := if trimmed p.threadId ≠ "" then some (trimmed p.threadId)
        else A.directThreadIdForPeerLink.bind fun f => f peerLinkId p.accountId
      match threadId.filter (· ≠ "") with
      | none => pure ()
      | some threadId => do
        inRest (ensureDirectThread threadId p.accountId peerInboxId now)
        tryCatch (callIf A.upsertFromMessage fun f => f threadId now) (pure ())

/-- The relationship to the peer, without which nothing else is written: whether that was done. -/
def applyRelationship (p : StatePayload) (now : Int) : Proc (Receiver ω) Bool :=
  let relationship : PeerRelationship := ⟨p.accountId, trimmed p.peerLinkId, trimmed p.peerInboxId,
    trimmed p.remoteAccountIdentityPublicKeyB64, trimmed p.remoteIdentityDhPublicKeyB64, now⟩
  if A.deviceId = "" ∨ relationship.peerLinkId = "" ∨ relationship.peerInboxId = "" ∨
      relationship.remoteAccountIdentityPublicKeyB64 = "" ∨
      relationship.remoteIdentityDhPublicKeyB64 = "" then pure true
  else
    tryCatch (do
      callIf A.upsertPeerRelationship fun f => f relationship
      pure true) (pure false)

/-- `#applyOp` of a contact. -/
def applyContactUpsert (p : StatePayload) : Proc (Receiver ω) Bool := do
  let r ← get
  let now := A.clock r.rest
  let related ← applyRelationship A p now
  if related = false then pure false
  else do
    let displayName := p.displayName.getD ""
    let rel := (trimmed p.relationshipState).toLower
    (match A.ensureActiveContact.filter fun _ => rel = "active" with
      | some ensureActiveContact => inRest (ensureActiveContact p.accountId displayName now)
      | none => callIf A.ensureKnownAccount fun f => f p.accountId displayName)
    applyThread A p now
    pure true

/-- `#applyOp`: whether all of it was applied. -/
def applyOp (event : AccountStateEvent) (seenBeforeLamport : Int) : Proc (Receiver ω) Bool :=
  match event.op with
  | .baselineComplete => do
    tryCatch (callIf A.baselineComplete fun f =>
      f (event.payload.activationId.getD "") event.originDeviceId event.payload.horizonLamport
        seenBeforeLamport) (pure ())
    pure true
  | .baselineRequest => do
    applyBaselineRequest A event
    pure true
  | .contactRemove => do
    callIf A.deleteContact fun f => f event.payload.accountId
    pure true
  | .contactUpsert => applyContactUpsert A event.payload

/-- `applyInbound`. -/
def applyInbound (raw : RawStateEvent) : Proc (Receiver ω) ApplyReport :=
  match AccountStateEvent.new A.jsonLength raw with
  | .error _ => pure .invalid
  | .ok event =>
    if A.canVerify = false then pure .unverifiable
    else do
      let sigOk ← await fun r => (A.verifyAccountStateEventSig event, r)
      if sigOk = false then pure .badSignature
      else if A.deviceId ≠ "" ∧ event.originDeviceId = A.deviceId then pure .selfOrigin
      else do
        let seen ← await fun r => (r.seenLamport event.originDeviceId, r)
        if event.lamport ≤ seen then pure .stale
        else do
          let applied ← applyOp A event seen
          if applied = false then pure .applyIncomplete
          else do
            await fun r => ((), { r with seen := r.seen.set event.originDeviceId event.lamport })
            modify fun r => { r with applied := event :: r.applied }
            pure .applied

/-- What happens to the receiving side: an event comes in, or something else is done. The events come
in one after the other; the process may end within one. -/
inductive ReceiverAct (ω : Type) where
  | deliver (raw : RawStateEvent) (fates : List Fate)
  | elsewhere (f : ω → ω)

def receiverStep (r : Receiver ω) : ReceiverAct ω → Receiver ω
  | .deliver raw fates => (applyInbound A raw fates r).state
  | .elsewhere f => r.putRest (f r.rest)

/-- The receiving side after a run. -/
def receiverAfter (rest : ω) (acts : List (ReceiverAct ω)) : Receiver ω :=
  Runs.run (receiverStep A) (Receiver.fresh rest) acts

end Apply

/-! ## What the services leave alone

Whatever the other services do, what is noted of the numbers is as it was. -/

section Keeps

variable {ω : Type} (A : ApplyServices ω) (seen : OrdMap String Int) (applied : List AccountStateEvent)

/-- What is noted of the numbers. -/
def Receiver.Notes (seen : OrdMap String Int) (applied : List AccountStateEvent) (r : Receiver ω) :
    Prop := r.seen = seen ∧ r.applied = applied

theorem keeps_inRest {α : Type} (p : Proc ω α) :
    Keeps (Receiver.Notes seen applied) (inRest p) fun _ => True :=
  keeps_zoom fun _ _ h => h

theorem keeps_callIf {α : Type} (f : Option α) (call : α → Proc ω Unit) :
    Keeps (Receiver.Notes seen applied) (callIf f call) fun _ => True := by
  cases f with
  | none => exact holds_pure
  | some f => exact keeps_inRest seen applied (call f)

/-- The same where a failure is passed over. -/
theorem keeps_tryRest {p : Proc (Receiver ω) Unit}
    (h : Keeps (Receiver.Notes seen applied) p fun _ => True) :
    Keeps (Receiver.Notes seen applied) (tryCatch p (pure ())) fun _ => True :=
  keeps_tryCatch h (holds_pure)

/-- The sending of a baseline is noted elsewhere. -/
theorem keeps_answerBaselineRequest (event : AccountStateEvent) (activationId requestInboxId : String) :
    Keeps (Receiver.Notes seen applied)
      (answerBaselineRequest A event activationId requestInboxId) fun _ => True := by
  refine keeps_bind (Q := fun _ => True) (keeps_of_wp fun r h => ?_) fun last _ => ?_
  · exact wp_await_read ⟨h, trivial⟩ h h
  refine keeps_seq keeps_get fun r => ?_
  by_cases hthrottled : (last.map fun atMs =>
      decide (A.clock r.rest - atMs ≤ baselineThrottleMs)).getD false = true
  · simp only [if_pos hthrottled]
    exact holds_pure
  · simp only [if_neg hthrottled]
    refine keeps_bind (Q := fun _ => True) (keeps_of_wp fun r h => ?_) fun _ _ => ?_
    · exact wp_await ⟨h, trivial⟩ h h h
    · exact keeps_tryRest seen applied (keeps_inRest seen applied _)

theorem keeps_applyBaselineRequest (event : AccountStateEvent) :
    Keeps (Receiver.Notes seen applied) (applyBaselineRequest A event) fun _ => True := by
  refine keeps_seq keeps_get fun r => ?_
  by_cases hskip : trimmed event.payload.activationId = "" ∨ A.isEnabled r.rest = false ∨
      trimmed event.payload.requestInboxId = ""
  · simp only [if_pos hskip]
    exact holds_pure
  simp only [if_neg hskip]
  refine keeps_seq (keeps_tryCatch (keeps_inRest seen applied _)
    (holds_pure)) fun authority => ?_
  cases authority with
  | none => exact holds_pure
  | some authority =>
    by_cases hdeferred : authority.established = false ∨
        trimmed event.payload.activationId ∈ authority.revokedCertIds
    · simp only [if_pos hdeferred]
      exact holds_pure
    · simp only [if_neg hdeferred]
      exact keeps_answerBaselineRequest A seen applied event _ _

theorem keeps_applyThread (p : StatePayload) (now : Int) :
    Keeps (Receiver.Notes seen applied) (applyThread A p now) fun _ => True := by
  rw [applyThread]
  cases A.ensureDirectThread with
  | none => exact holds_pure
  | some ensureDirectThread =>
    simp only
    split_ifs
    · exact holds_pure
    all_goals
      split
      · exact holds_pure
      · refine keeps_seq (keeps_inRest seen applied _) fun _ => ?_
        exact keeps_tryRest seen applied (keeps_callIf seen applied _ _)

theorem keeps_applyRelationship (p : StatePayload) (now : Int) :
    Keeps (Receiver.Notes seen applied) (applyRelationship A p now) fun _ => True := by
  rw [applyRelationship]
  simp only
  split_ifs
  · exact holds_pure
  · refine keeps_tryCatch ?_ (holds_pure)
    exact keeps_last (keeps_callIf seen applied _ _)

theorem keeps_applyContactUpsert (p : StatePayload) :
    Keeps (Receiver.Notes seen applied) (applyContactUpsert A p) fun _ => True := by
  refine keeps_seq keeps_get fun r => ?_
  refine keeps_seq (keeps_applyRelationship A seen applied p _) fun related => ?_
  cases related with
  | false => exact holds_pure
  | true =>
    refine keeps_bind (Q := fun _ => True) ?_ fun _ _ => ?_
    · cases A.ensureActiveContact.filter fun _ => (trimmed p.relationshipState).toLower = "active" with
      | none => exact keeps_callIf seen applied _ _
      | some f => exact keeps_inRest seen applied _
    · refine keeps_seq (keeps_applyThread A seen applied p _) fun _ => ?_
      exact holds_pure

theorem keeps_applyOp (event : AccountStateEvent) (seenBeforeLamport : Int) :
    Keeps (Receiver.Notes seen applied) (applyOp A event seenBeforeLamport) fun _ => True := by
  rw [applyOp]
  cases event.op with
  | baselineComplete =>
    refine keeps_seq (keeps_tryRest seen applied (keeps_callIf seen applied _ _)) fun _ => ?_
    exact holds_pure
  | baselineRequest =>
    refine keeps_seq (keeps_applyBaselineRequest A seen applied event) fun _ => ?_
    exact holds_pure
  | contactRemove =>
    refine keeps_seq (keeps_callIf seen applied _ _) fun _ => ?_
    exact holds_pure
  | contactUpsert => exact keeps_applyContactUpsert A seen applied event.payload

end Keeps

end RezChat.Devices
