/-
Recovery of broken peer links (`services/ServerPeerLinkProtocolService.js`).

A side that finds a link broken mints a fresh invite and sends it to the peer, which accepts it
and so re-keys the link. What limits this is kept in four maps in memory, each from a peer to the
time something was last done: when we minted an invite for it, when we took one of its invites
in, when we last decrypted a message of it, and since when it has not acknowledged.

What runs until its next await is one step, and so reads the clock once. The sends are under way
next to each other, each with the stage it waits in; the inbound deposits are processed one after
the other, so that at most one invite is being handled.

The log is what happened, newest first. No step reads it.
-/
import RezChat.Inbox.Frame
import RezChat.Lib.OrdMap
import RezChat.Lib.Runs

set_option autoImplicit false

namespace RezChat.PeerLinks

open Inbox (trim)
open List OrdMap Bool

def recoveryInviteTriggerCooldownMs : Int := 30000

def recoveryInviteTtlMs : Int := 5 * 60 * 1000

def senderRecoveryUnackedThreshold : Nat := 3

def senderRecoveryUnackedTimeoutMs : Int := 45000

def senderRecoveryHealthyGuardMs : Int := 45000

def recoveryInviteGlobalWindowMs : Int := 60000

def recoveryInviteGlobalMax : Nat := 30

def recoveryMapMaxEntries : Nat := 4096

/-- The order in which JavaScript compares strings, by their UTF-16 code units. -/
def codeUnits (s : String) : List Nat :=
  s.toList.flatMap fun c =>
    if c.toNat < 0x10000 then [c.toNat]
    else [0xD800 + (c.toNat - 0x10000) / 0x400, 0xDC00 + (c.toNat - 0x10000) % 0x400]

def precedes (a b : String) : Bool := decide (codeUnits a < codeUnits b)

/-! ## Times by peer -/

abbrev TimesByPeer := OrdMap String Int

/-- Something was done with the peer less than `ms` ago, as far as the map tells. -/
def recently (m : TimesByPeer) (nowMs ms : Int) (peer : String) : Bool :=
  match m.get? peer with
  | some atMs => decide (nowMs - atMs < ms)
  | none => false

/-- The first half of `#pruneStaleMap`: entries are dropped by age. -/
def keepYoung (m : TimesByPeer) (nowMs maxAgeMs : Int) : TimesByPeer :=
  m.filterMap fun atMs => if maxAgeMs ≤ nowMs - atMs then none else some atMs

/-- `#pruneStaleMap`. Of what is left, what exceeds the cap is dropped, oldest key first. -/
def pruneStaleMap (m : TimesByPeer) (nowMs maxAgeMs : Int) : TimesByPeer :=
  let kept := keepYoung m nowMs maxAgeMs
  if recoveryMapMaxEntries < kept.size then kept.drop (kept.size - recoveryMapMaxEntries) else kept

/-! ## Invites -/

/-- The body of a recovery invite, as far as it is read before it is accepted. -/
structure RecoveryInvite where
  hasEnvelope : Bool
  signatureB64 : String
  creatorAccountId : String
  signerAccountId : String
  inviteId : String
  deriving DecidableEq

def RecoveryInvite.sender (inv : RecoveryInvite) : String := trim inv.creatorAccountId

/-- What becomes of an invite that came in. -/
inductive Verdict where
  | malformed
  | badSender
  | signerMismatch
  | throttled
  | glareDeferred
  | unready
  | unauthorized
  | authorizationThrew
  | expired
  | signatureInvalid
  | acceptError
  | accepted
  deriving DecidableEq

/-- The deposit is taken off the mailbox; otherwise it stays buffered. -/
def Verdict.consumed : Verdict → Bool
  | unready | unauthorized | authorizationThrew | acceptError => false
  | _ => true

/-- The answer counts as a deposit that could be read. -/
def Verdict.decryptOk : Verdict → Bool
  | throttled | glareDeferred | accepted => true
  | _ => false

def Verdict.reason : Verdict → String
  | malformed => "recovery-invite-malformed"
  | badSender => "recovery-invite-bad-sender"
  | signerMismatch => "recovery-invite-signer-mismatch"
  | throttled => "recovery-invite-throttled"
  | glareDeferred => "recovery-invite-glare-deferred"
  | unready => "recovery-invite-unready"
  | unauthorized => "recovery-invite-unauthorized"
  | authorizationThrew => ""
  | expired => "recovery-invite-INVITE_EXPIRED"
  | signatureInvalid => "recovery-invite-INVITE_SIGNATURE_INVALID"
  | acceptError => "recovery-invite-accept-error"
  | accepted => ""

/-- The checks that look at nothing but the invite. -/
def RecoveryInvite.flaw (self : String) (inv : RecoveryInvite) : Option Verdict :=
  if inv.hasEnvelope = false ∨ inv.signatureB64 = "" then some .malformed
  else if inv.sender = "" ∨ inv.sender = self then some .badSender
  else if trim inv.signerAccountId ≠ inv.sender then some .signerMismatch
  else none

/-- What the awaits of the handler come to. -/
inductive HandlingReply where
  | threw
  | authorized (authorized : Bool)
  | accepted
  | expired
  | signatureInvalid

/-- What accepting came to. -/
def HandlingReply.verdict : HandlingReply → Verdict
  | .accepted => .accepted
  | .expired => .expired
  | .signatureInvalid => .signatureInvalid
  | _ => .acceptError

/-! ## What happened -/

inductive Event where
  | minted (peer : String) (swept : Bool) (atMs : Int)
  | marked (inviteId : String) (expiresAtMs : Int)
  | dispatched (peer inviteId : String) (mintedAtMs atMs : Int)
  | aborted (peer : String) (mintedAtMs : Int)
  | decrypted (peer : String) (atMs : Int)
  /-- An invite was let through to be accepted. -/
  | attempted (sender inviteId : String) (atMs : Int)
  | answered (inv : RecoveryInvite) (atMs : Int) (v : Verdict)
  deriving DecidableEq

/-! ## Sending an invite -/

/-- What a `_sendRecoveryInvite` waits for. -/
inductive SendStage where
  | resolving
  | creating (deliverInboxId : String) (expiresAtMs : Int)
  | marking (deliverInboxId inviteId : String) (expiresAtMs : Int)
  | reading (deliverInboxId inviteId : String)
  | dispatching (deliverInboxId inviteId : String)

/-- What an await of a send comes to. -/
inductive SendReply where
  | threw
  | inbox (peerInboxId : String)
  | created (inviteId : String) (storeAvailable : Bool)
  | marked
  | envelope (found : Bool)
  | dispatched

/-- How a send goes on. -/
inductive Sent where
  | waits (stage : SendStage)
  | done (inviteId : String)
  | aborted

/-- `_sendRecoveryInvite`, from one await to the next. -/
def SendStage.resume (nowMs : Int) : SendStage → SendReply → Sent
  | .resolving, .inbox peerInboxId =>
    if trim peerInboxId = "" then .aborted
    else .waits (.creating (trim peerInboxId) (nowMs + recoveryInviteTtlMs))
  | .creating deliverInboxId expiresAtMs, .created inviteId storeAvailable =>
    if inviteId = "" ∨ storeAvailable = false then .aborted
    else .waits (.marking deliverInboxId inviteId expiresAtMs)
  | .marking deliverInboxId inviteId _, .marked => .waits (.reading deliverInboxId inviteId)
  | .reading deliverInboxId inviteId, .envelope true => .waits (.dispatching deliverInboxId inviteId)
  | .dispatching _ inviteId, .dispatched => .done inviteId
  | _, _ => .aborted

/-- The record of provenance that an awaited operation has made durable. -/
def SendStage.marks : SendStage → SendReply → List Event
  | .marking _ inviteId expiresAtMs, .marked => [.marked inviteId expiresAtMs]
  | _, _ => []

/-! ## The state -/

/-- A `_sendRecoveryInvite` that is under way. -/
structure Send where
  remote : String
  mintedAtMs : Int
  stage : SendStage

inductive HandlingStage where
  | authorizing
  | accepting

/-- A `_handleIncomingRecoveryInvite` that is under way. -/
structure Handling where
  inv : RecoveryInvite
  nowMs : Int
  stage : HandlingStage

structure OutstandingSends where
  count : Nat
  firstAtMs : Int

structure Recovery where
  clockMs : Int
  recoveryInviteAtMsByPeer : TimesByPeer
  outstandingGroupSendsByPeer : OrdMap String OutstandingSends
  inboundRecoveryAtMsByPeer : TimesByPeer
  lastInboundDecryptAtMsByPeer : TimesByPeer
  recoveryInviteTimestamps : List Int
  sends : OrdMap Nat Send
  started : Nat
  handling : Option Handling
  log : List Event

namespace Recovery

/-- The service as it is constructed. -/
def fresh (clockMs : Int) : Recovery :=
  { clockMs := clockMs
    recoveryInviteAtMsByPeer := empty
    outstandingGroupSendsByPeer := empty
    inboundRecoveryAtMsByPeer := empty
    lastInboundDecryptAtMsByPeer := empty
    recoveryInviteTimestamps := []
    sends := empty
    started := 0
    handling := none
    log := [] }

def note (e : Event) (s : Recovery) : Recovery := { s with log := e :: s.log }

/-! ## Minting -/

/-- The stage a send starts in. The inbox is looked up where it was not handed over. -/
def firstStage (nowMs : Int) (peerInboxId : String) : SendStage :=
  if peerInboxId = "" then .resolving
  else .creating peerInboxId (nowMs + recoveryInviteTtlMs)

/-- The trigger goes through: the times are written, and the send begins. -/
def mint (nowMs : Int) (swept : Bool) (remote peerInboxId : String) (s : Recovery) : Recovery :=
  { s with
    recoveryInviteAtMsByPeer := s.recoveryInviteAtMsByPeer.set remote nowMs
    recoveryInviteTimestamps := s.recoveryInviteTimestamps ++ [nowMs]
    sends := s.sends.set s.started ⟨remote, nowMs, firstStage nowMs peerInboxId⟩
    started := s.started + 1
    log := .minted remote swept nowMs :: s.log }

/-- The marker map as a trigger prunes it. -/
def pruneMarkers (nowMs : Int) (s : Recovery) : Recovery :=
  { s with
    recoveryInviteAtMsByPeer := pruneStaleMap s.recoveryInviteAtMsByPeer nowMs recoveryInviteTtlMs }

/-- The rolling window as a trigger prunes it. -/
def pruneTimestamps (nowMs : Int) (s : Recovery) : Recovery :=
  { s with
    recoveryInviteTimestamps :=
      s.recoveryInviteTimestamps.filter fun t => decide (nowMs - t < recoveryInviteGlobalWindowMs) }

/-- `_triggerRecoveryInvite`. It is `ready` if the SDK is there with its mesh and can mint. -/
def triggerRecoveryInvite (self : String) (nowMs : Int) (ready swept : Bool)
    (peerAccountId peerInboxId : String) (s : Recovery) : Recovery :=
  let remote := trim peerAccountId
  if remote = "" ∨ remote = self then s
  else
    let s := s.pruneMarkers nowMs
    if recently s.recoveryInviteAtMsByPeer nowMs recoveryInviteTriggerCooldownMs remote = true then s
    else
      let s := s.pruneTimestamps nowMs
      if recoveryInviteGlobalMax ≤ s.recoveryInviteTimestamps.length then s
      else if ready = false then s
      else s.mint nowMs swept remote (trim peerInboxId)

/-! ## Sending -/

/-- The send with the number `n` goes on. -/
def sendStep (nowMs : Int) (n : Nat) (reply : SendReply) (s : Recovery) : Recovery :=
  match s.sends.get? n with
  | none => s
  | some send =>
    match send.stage.resume nowMs reply with
    | .waits stage =>
      { s with
        sends := s.sends.set n { send with stage := stage }
        log := send.stage.marks reply ++ s.log }
    | .done inviteId =>
      { s with
        sends := s.sends.delete n
        log := .dispatched send.remote inviteId send.mintedAtMs nowMs :: s.log }
    | .aborted =>
      { s with
        sends := s.sends.delete n
        log := .aborted send.remote send.mintedAtMs :: s.log }

/-! ## Sender-side detection -/

/-- One entry of `_sweepStaleDeliveries`. -/
def sweepEntry (self : String) (nowMs : Int) (ready : Bool) (s : Recovery)
    (e : String × OutstandingSends) : Recovery :=
  if e.2.count < senderRecoveryUnackedThreshold then s
  else if nowMs - e.2.firstAtMs < senderRecoveryUnackedTimeoutMs then s
  else
    let s' := { s with
      outstandingGroupSendsByPeer := s.outstandingGroupSendsByPeer.set e.1 ⟨0, nowMs⟩ }
    if recently s.lastInboundDecryptAtMsByPeer nowMs senderRecoveryHealthyGuardMs e.1 = true then s'
    else s'.triggerRecoveryInvite self nowMs ready true e.1 ""

/-- The times of decryption as a sweep prunes them. -/
def pruneDecrypts (nowMs : Int) (s : Recovery) : Recovery :=
  { s with
    lastInboundDecryptAtMsByPeer :=
      pruneStaleMap s.lastInboundDecryptAtMsByPeer nowMs (senderRecoveryHealthyGuardMs * 4) }

/-- `_sweepStaleDeliveries`. It goes through the entries as they were when it started. -/
def sweepStaleDeliveries (self : String) (nowMs : Int) (ready : Bool) (s : Recovery) : Recovery :=
  s.outstandingGroupSendsByPeer.entries.foldl (sweepEntry self nowMs ready) (s.pruneDecrypts nowMs)

/-- The tally of `recordOutboundGroupMessage`. -/
def countOutbound (nowMs : Int) (remote : String) (s : Recovery) : Recovery :=
  { s with
    outstandingGroupSendsByPeer := s.outstandingGroupSendsByPeer.set remote
      (match s.outstandingGroupSendsByPeer.get? remote with
        | some entry => { entry with count := entry.count + 1 }
        | none => ⟨1, nowMs⟩) }

/-- `recordOutboundGroupMessage`. -/
def recordOutboundGroupMessage (self : String) (nowMs : Int) (ready : Bool) (peerAccountId : String)
    (s : Recovery) : Recovery :=
  let remote := trim peerAccountId
  if remote = "" ∨ remote = self then s
  else (s.countOutbound nowMs remote).sweepStaleDeliveries self nowMs ready

/-- `_noteDeliveryAckReceived`. -/
def noteDeliveryAckReceived (self : String) (nowMs : Int) (ready : Bool) (peerAccountId : String)
    (s : Recovery) : Recovery :=
  let remote := trim peerAccountId
  if remote = "" then s
  else
    { s with
      outstandingGroupSendsByPeer := s.outstandingGroupSendsByPeer.delete remote
    }.sweepStaleDeliveries self nowMs ready

/-- A message was decrypted, of the peer that its link tells. -/
def noteDecrypted (nowMs : Int) (peerAccountId : String) (s : Recovery) : Recovery :=
  let decryptedSender := trim peerAccountId
  if decryptedSender = "" then s
  else
    { s with
      lastInboundDecryptAtMsByPeer := s.lastInboundDecryptAtMsByPeer.set decryptedSender nowMs
      log := .decrypted decryptedSender nowMs :: s.log }

/-! ## Invites that come in -/

/-- The cooldown map as the handler prunes it. -/
def pruneInbound (nowMs : Int) (s : Recovery) : Recovery :=
  { s with
    inboundRecoveryAtMsByPeer := pruneStaleMap s.inboundRecoveryAtMsByPeer nowMs recoveryInviteTtlMs }

/-- We are the canonical inviter, with an invite of ours outstanding. -/
def haveOutstanding (self : String) (nowMs : Int) (sender : String) (s : Recovery) : Bool :=
  recently s.recoveryInviteAtMsByPeer nowMs recoveryInviteTtlMs sender && precedes self sender

/-- The handler comes as far as the cooldown. -/
def takesUp (self : String) (ready : Bool) (inv : RecoveryInvite) (s : Recovery) : Bool :=
  s.handling.isNone && ready && (inv.flaw self).isNone

/-- `_handleIncomingRecoveryInvite`, up to where it waits for the authorization. An invite is
taken up once the one before it is done with. -/
def handleIncoming (self : String) (nowMs : Int) (ready : Bool) (inv : RecoveryInvite)
    (s : Recovery) : Recovery :=
  if s.handling.isSome = true then s
  else if ready = false then s.note (.answered inv nowMs .unready)
  else
    match inv.flaw self with
    | some v => s.note (.answered inv nowMs v)
    | none =>
      let s := s.pruneInbound nowMs
      if recently s.inboundRecoveryAtMsByPeer nowMs recoveryInviteTriggerCooldownMs
          inv.sender = true then
        s.note (.answered inv nowMs .throttled)
      else if s.haveOutstanding self nowMs inv.sender = true then
        s.note (.answered inv nowMs .glareDeferred)
      else { s with handling := some ⟨inv, nowMs, .authorizing⟩ }

/-- The handler goes on. Its cooldown is committed before the accepting. -/
def handlingStep (reply : HandlingReply) (s : Recovery) : Recovery :=
  match s.handling with
  | none => s
  | some ⟨inv, nowMs, .authorizing⟩ =>
    match reply with
    | .authorized true =>
      { s with
        inboundRecoveryAtMsByPeer := s.inboundRecoveryAtMsByPeer.set inv.sender nowMs
        handling := some ⟨inv, nowMs, .accepting⟩
        log := .attempted inv.sender inv.inviteId nowMs :: s.log }
    | .authorized false =>
      { s with handling := none, log := .answered inv nowMs .unauthorized :: s.log }
    | _ => { s with handling := none, log := .answered inv nowMs .authorizationThrew :: s.log }
  | some ⟨inv, nowMs, .accepting⟩ =>
    { s with handling := none, log := .answered inv nowMs reply.verdict :: s.log }

/-! ## Runs -/

inductive Input where
  | trigger (peerAccountId peerInboxId : String)
  | sentGroupMessage (peerAccountId : String)
  | ackReceived (peerAccountId : String)
  | sweep
  | decrypted (peerAccountId : String)
  | sendStep (n : Nat) (reply : SendReply)
  | incoming (inv : RecoveryInvite)
  | handlingStep (reply : HandlingReply)

/-- The input starts a sweep. -/
def Input.sweeps (self : String) : Input → Bool
  | .sentGroupMessage peerAccountId => decide (¬(trim peerAccountId = "" ∨ trim peerAccountId = self))
  | .ackReceived peerAccountId => decide (trim peerAccountId ≠ "")
  | .sweep => true
  | _ => false

/-- What happens, at what time of the clock, and whether the services are there for it. -/
structure Tick where
  nowMs : Int
  ready : Bool
  input : Input

/-- What the service does. -/
def act (self : String) (nowMs : Int) (ready : Bool) : Input → Recovery → Recovery
  | .trigger peerAccountId peerInboxId =>
    triggerRecoveryInvite self nowMs ready false peerAccountId peerInboxId
  | .sentGroupMessage peerAccountId => recordOutboundGroupMessage self nowMs ready peerAccountId
  | .ackReceived peerAccountId => noteDeliveryAckReceived self nowMs ready peerAccountId
  | .sweep => sweepStaleDeliveries self nowMs ready
  | .decrypted peerAccountId => noteDecrypted nowMs peerAccountId
  | .sendStep n reply => sendStep nowMs n reply
  | .incoming inv => handleIncoming self nowMs ready inv
  | .handlingStep reply => handlingStep reply

def step (self : String) (s : Recovery) (t : Tick) : Recovery :=
  act self t.nowMs t.ready t.input { s with clockMs := t.nowMs }

/-- The clock does not go back. -/
def Monotone (s : Recovery) (t : Tick) : Prop := s.clockMs ≤ t.nowMs

instance (s : Recovery) (t : Tick) : Decidable (s.Monotone t) :=
  inferInstanceAs (Decidable (s.clockMs ≤ t.nowMs))

end Recovery

/-! ## Rules -/

section Times

variable {m : TimesByPeer} {nowMs ms : Int} {peer : String} {t : Int}

theorem recently_eq_false_iff :
    recently m nowMs ms peer = false ↔ ∀ t, m.get? peer = some t → t + ms ≤ nowMs := by
  unfold recently
  cases hget : m.get? peer with
  | none =>
    refine ⟨fun _ t ht => ?_, fun _ => rfl⟩
    cases ht
  | some atMs =>
    rw [decide_eq_false_iff_not]
    constructor
    · intro hlt t ht
      have heq : atMs = t := Option.some_inj.1 ht
      omega
    · intro h hlt
      have := h atMs rfl
      omega

theorem recently_eq_true_iff :
    recently m nowMs ms peer = true ↔ ∃ t, m.get? peer = some t ∧ nowMs - t < ms := by
  unfold recently
  cases hget : m.get? peer with
  | none =>
    refine ⟨fun h => absurd h false_ne_true, ?_⟩
    rintro ⟨t, ht, _⟩
    cases ht
  | some atMs =>
    rw [decide_eq_true_iff]
    constructor
    · exact fun h => ⟨atMs, rfl, h⟩
    · rintro ⟨t, ht, hlt⟩
      rwa [Option.some_inj.1 ht]

theorem get?_keepYoung : (keepYoung m nowMs ms).get? peer = some t ↔
    m.get? peer = some t ∧ nowMs - t < ms := by
  rw [keepYoung, get?_filterMap, Option.bind_eq_some_iff]
  constructor
  · rintro ⟨atMs, hget, hif⟩
    by_cases hold : ms ≤ nowMs - atMs
    · rw [if_pos hold] at hif
      cases hif
    · rw [if_neg hold, Option.some_inj] at hif
      rw [← hif]
      exact ⟨hget, by omega⟩
  · rintro ⟨hget, hyoung⟩
    exact ⟨t, hget, if_neg (by omega)⟩

theorem get?_of_get?_pruneStaleMap (h : (pruneStaleMap m nowMs ms).get? peer = some t) :
    m.get? peer = some t ∧ nowMs - t < ms := by
  rw [pruneStaleMap] at h
  split_ifs at h
  · exact get?_keepYoung.1 (get?_of_get?_drop h)
  · exact get?_keepYoung.1 h

/-- A map that is not over the cap is pruned by age alone. -/
theorem pruneStaleMap_of_size (h : (keepYoung m nowMs ms).size ≤ recoveryMapMaxEntries) :
    pruneStaleMap m nowMs ms = keepYoung m nowMs ms := by
  rw [pruneStaleMap]
  exact if_neg (Nat.not_lt.2 h)

end Times

namespace Recovery

attribute [local irreducible] recently

variable {I : Recovery → Prop} {self : String} {nowMs : Int} {ready : Bool} {s : Recovery}

/-- A mint goes through in this state. -/
structure Mintable (nowMs : Int) (swept : Bool) (remote : String) (s : Recovery) : Prop where
  spaced : recently s.recoveryInviteAtMsByPeer nowMs recoveryInviteTriggerCooldownMs remote = false
  below : s.recoveryInviteTimestamps.length < recoveryInviteGlobalMax
  silent : swept = true →
    recently s.lastInboundDecryptAtMsByPeer nowMs senderRecoveryHealthyGuardMs remote = false

/-- What triggers do to the state, one thing at a time, keeps `I`. -/
structure Triggered (nowMs : Int) (I : Recovery → Prop) : Prop where
  markers : ∀ s, I s → I (s.pruneMarkers nowMs)
  timestamps : ∀ s, I s → I (s.pruneTimestamps nowMs)
  outstanding : ∀ s m, I s → I { s with outstandingGroupSendsByPeer := m }
  mint : ∀ s swept remote peerInboxId, I s → Mintable nowMs swept remote s →
    I (s.mint nowMs swept remote peerInboxId)

theorem Triggered.trigger (h : Triggered nowMs I) {swept : Bool}
    {peerAccountId peerInboxId : String} (hs : I s)
    (hsilent : swept = true → recently s.lastInboundDecryptAtMsByPeer nowMs
      senderRecoveryHealthyGuardMs (trim peerAccountId) = false) :
    I (s.triggerRecoveryInvite self nowMs ready swept peerAccountId peerInboxId) := by
  rw [triggerRecoveryInvite]
  dsimp only
  have hmarkers := h.markers s hs
  have htimes := h.timestamps _ hmarkers
  split_ifs with hself hcool hmax hready
  · exact hs
  · exact hmarkers
  · exact htimes
  · exact htimes
  · have hmint : Mintable nowMs swept (trim peerAccountId)
        ((s.pruneMarkers nowMs).pruneTimestamps nowMs) :=
      { spaced := eq_false_iff.2 hcool
        below := Nat.not_le.1 hmax
        silent := hsilent }
    exact h.mint _ swept _ _ htimes hmint

theorem Triggered.sweepEntry (h : Triggered nowMs I) {e : String × OutstandingSends} (hs : I s)
    (he : trim e.1 = e.1) : I (s.sweepEntry self nowMs ready e) := by
  rw [Recovery.sweepEntry]
  have hreset := h.outstanding s (s.outstandingGroupSendsByPeer.set e.1 ⟨0, nowMs⟩) hs
  dsimp only
  split_ifs with hfew hearly halive
  · exact hs
  · exact hs
  · exact hreset
  · refine h.trigger hreset fun _ => ?_
    rw [he]
    exact eq_false_iff.2 halive

/-- **Sweeps.** What is kept by all that a trigger does is kept by a sweep. -/
theorem Triggered.sweep (h : Triggered nowMs I) (hs : I (s.pruneDecrypts nowMs))
    (hkeys : ∀ e ∈ s.outstandingGroupSendsByPeer.entries, trim e.1 = e.1) :
    I (s.sweepStaleDeliveries self nowMs ready) := by
  have hfold : ∀ (es : List (String × OutstandingSends)) (s : Recovery),
      (∀ e ∈ es, trim e.1 = e.1) → I s → I (es.foldl (Recovery.sweepEntry self nowMs ready) s) := by
    intro es
    induction es with
    | nil => exact fun _ _ hs => hs
    | cons e es ih =>
      intro s hes hs
      refine ih _ (fun e' he' => hes e' (mem_cons_of_mem e he')) ?_
      exact h.sweepEntry hs (hes e mem_cons_self)
  exact hfold _ _ hkeys hs

/-! ## What a step does -/

/-- An event of a send that is under way. -/
def ofSend : Event → Bool
  | .marked _ _ | .dispatched _ _ _ _ | .aborted _ _ => true
  | _ => false

/-- A send that goes on changes the sends, and notes what it did. -/
theorem sendStep_eq (s : Recovery) (nowMs : Int) (n : Nat) (reply : SendReply) : ∃ sends news,
    s.sendStep nowMs n reply = { s with sends := sends, log := news ++ s.log } ∧
      ∀ e ∈ news, ofSend e = true := by
  rw [sendStep]
  split
  · exact ⟨s.sends, [], rfl, fun e he => by cases he⟩
  · next send _ =>
    split
    · next stage _ =>
      refine ⟨s.sends.set n { send with stage := stage }, send.stage.marks reply, rfl, ?_⟩
      unfold SendStage.marks
      split
      · intro e he
        rw [mem_singleton.1 he]
        rfl
      · intro e he
        cases he
    · next inviteId _ =>
      refine ⟨_, [.dispatched send.remote inviteId send.mintedAtMs nowMs], rfl, fun e he => ?_⟩
      rw [mem_singleton.1 he]
      rfl
    · refine ⟨_, [.aborted send.remote send.mintedAtMs], rfl, fun e he => ?_⟩
      rw [mem_singleton.1 he]
      rfl

/-- What an invite that comes in may lead to. -/
theorem handleIncoming_cases (self : String) (nowMs : Int) (ready : Bool) (inv : RecoveryInvite)
    (s : Recovery) :
    s.handling.isSome = true ∧ s.handleIncoming self nowMs ready inv = s ∨
    (∃ v, s.handling = none ∧ (v = .unready ∨ inv.flaw self = some v) ∧
      s.handleIncoming self nowMs ready inv = s.note (.answered inv nowMs v)) ∨
    s.takesUp self ready inv = true ∧
      (recently (s.pruneInbound nowMs).inboundRecoveryAtMsByPeer nowMs
          recoveryInviteTriggerCooldownMs inv.sender = true ∧
        s.handleIncoming self nowMs ready inv =
          (s.pruneInbound nowMs).note (.answered inv nowMs .throttled) ∨
      recently (s.pruneInbound nowMs).inboundRecoveryAtMsByPeer nowMs
          recoveryInviteTriggerCooldownMs inv.sender = false ∧
        (s.haveOutstanding self nowMs inv.sender = true ∧
          s.handleIncoming self nowMs ready inv =
            (s.pruneInbound nowMs).note (.answered inv nowMs .glareDeferred) ∨
        s.haveOutstanding self nowMs inv.sender = false ∧
          s.handleIncoming self nowMs ready inv =
            { s.pruneInbound nowMs with handling := some ⟨inv, nowMs, .authorizing⟩ })) := by
  unfold handleIncoming takesUp
  cases hhandling : s.handling with
  | some handling => exact .inl ⟨rfl, if_pos rfl⟩
  | none =>
    rw [if_neg (by simp)]
    cases ready with
    | false => exact .inr (.inl ⟨.unready, rfl, .inl rfl, if_pos rfl⟩)
    | true =>
      rw [if_neg (by simp)]
      cases hflaw : inv.flaw self with
      | some v => exact .inr (.inl ⟨v, rfl, .inr rfl, rfl⟩)
      | none =>
        refine .inr (.inr ⟨rfl, ?_⟩)
        dsimp only
        by_cases hcool : recently (s.pruneInbound nowMs).inboundRecoveryAtMsByPeer nowMs
            recoveryInviteTriggerCooldownMs inv.sender = true
        · exact .inl ⟨hcool, if_pos hcool⟩
        · rw [if_neg hcool]
          refine .inr ⟨eq_false_iff.2 hcool, ?_⟩
          by_cases hours : (s.pruneInbound nowMs).haveOutstanding self nowMs inv.sender = true
          · exact .inl ⟨hours, if_pos hours⟩
          · exact .inr ⟨eq_false_iff.2 hours, if_neg hours⟩

/-- What the handler that goes on may do. -/
theorem handlingStep_cases (reply : HandlingReply) (s : Recovery) :
    s.handlingStep reply = s ∨
    (∃ inv nowMs, s.handling = some ⟨inv, nowMs, .authorizing⟩ ∧
      (s.handlingStep reply = { s with
          inboundRecoveryAtMsByPeer := s.inboundRecoveryAtMsByPeer.set inv.sender nowMs
          handling := some ⟨inv, nowMs, .accepting⟩
          log := .attempted inv.sender inv.inviteId nowMs :: s.log } ∨
        ∃ v, (v = .unauthorized ∨ v = .authorizationThrew) ∧
          s.handlingStep reply =
            { s with handling := none, log := .answered inv nowMs v :: s.log })) ∨
    ∃ inv nowMs, s.handling = some ⟨inv, nowMs, .accepting⟩ ∧
      s.handlingStep reply =
        { s with handling := none, log := .answered inv nowMs reply.verdict :: s.log } := by
  rw [handlingStep]
  split
  · exact .inl rfl
  · next inv nowMs hhandling =>
    refine .inr (.inl ⟨inv, nowMs, hhandling, ?_⟩)
    split
    · exact .inl rfl
    · exact .inr ⟨_, .inl rfl, rfl⟩
    · exact .inr ⟨_, .inr rfl, rfl⟩
  · next inv nowMs hhandling => exact .inr (.inr ⟨inv, nowMs, hhandling, rfl⟩)

/-! ## The tally -/

/-- The accounts that are tallied are written without blanks around them. -/
def TrimmedKeys (s : Recovery) : Prop :=
  ∀ e ∈ s.outstandingGroupSendsByPeer.entries, trim e.1 = e.1

theorem TrimmedKeys.iff : s.TrimmedKeys ↔
    ∀ peer entry, s.outstandingGroupSendsByPeer.get? peer = some entry → trim peer = peer := by
  constructor
  · exact fun h peer entry hget => h (peer, entry) (mem_entries_iff.2 hget)
  · exact fun h e he => h e.1 e.2 (mem_entries_iff.1 he)

theorem trimmedKeys_set {m : OrdMap String OutstandingSends} {peer : String}
    {entry : OutstandingSends} (h : ∀ k a, m.get? k = some a → trim k = k)
    (hpeer : trim peer = peer) (k : String) (a : OutstandingSends)
    (hget : (m.set peer entry).get? k = some a) : trim k = k := by
  rw [get?_set] at hget
  by_cases hk : k = peer
  · rw [hk, hpeer]
  · rw [if_neg hk] at hget
    exact h k a hget

theorem triggerRecoveryInvite_outstanding {swept : Bool} {peerAccountId peerInboxId : String} :
    (s.triggerRecoveryInvite self nowMs ready swept peerAccountId
      peerInboxId).outstandingGroupSendsByPeer = s.outstandingGroupSendsByPeer := by
  rw [triggerRecoveryInvite]
  dsimp only
  split_ifs <;> rfl

theorem TrimmedKeys.sweep (hs : s.TrimmedKeys) :
    (s.sweepStaleDeliveries self nowMs ready).TrimmedKeys := by
  have hfold : ∀ (es : List (String × OutstandingSends)) (s : Recovery),
      (∀ e ∈ es, trim e.1 = e.1) → s.TrimmedKeys →
        (es.foldl (Recovery.sweepEntry self nowMs ready) s).TrimmedKeys := by
    intro es
    induction es with
    | nil => exact fun _ _ hs => hs
    | cons e es ih =>
      intro s hes hs
      refine ih _ (fun e' he' => hes e' (mem_cons_of_mem e he')) ?_
      have hset : ({ s with
          outstandingGroupSendsByPeer := s.outstandingGroupSendsByPeer.set e.1 ⟨0, nowMs⟩ } :
          Recovery).TrimmedKeys :=
        TrimmedKeys.iff.2 (trimmedKeys_set (TrimmedKeys.iff.1 hs) (hes e mem_cons_self))
      rw [Recovery.sweepEntry]
      dsimp only
      split_ifs with hfew hearly halive
      · exact hs
      · exact hs
      · exact hset
      · rw [TrimmedKeys, triggerRecoveryInvite_outstanding]
        exact hset
  exact hfold _ _ hs hs

theorem TrimmedKeys.countOutbound (hs : s.TrimmedKeys) (peerAccountId : String) :
    (s.countOutbound nowMs (trim peerAccountId)).TrimmedKeys :=
  TrimmedKeys.iff.2 (trimmedKeys_set (TrimmedKeys.iff.1 hs) (RezChat.Inbox.trim_trim peerAccountId))

theorem TrimmedKeys.delete (hs : s.TrimmedKeys) (peer : String) :
    ({ s with
      outstandingGroupSendsByPeer := s.outstandingGroupSendsByPeer.delete peer } :
      Recovery).TrimmedKeys :=
  fun e he => hs e (mem_filter.1 he).1

theorem sendStep_outstanding {n : Nat} {reply : SendReply} :
    (s.sendStep nowMs n reply).outstandingGroupSendsByPeer = s.outstandingGroupSendsByPeer := by
  obtain ⟨sends, news, heq, -⟩ := sendStep_eq s nowMs n reply
  rw [heq]

theorem handleIncoming_outstanding {inv : RecoveryInvite} :
    (s.handleIncoming self nowMs ready inv).outstandingGroupSendsByPeer =
      s.outstandingGroupSendsByPeer := by
  rcases handleIncoming_cases self nowMs ready inv s with
    ⟨-, heq⟩ | ⟨v, -, -, heq⟩ | ⟨-, ⟨-, heq⟩ | ⟨-, ⟨-, heq⟩ | ⟨-, heq⟩⟩⟩ <;> rw [heq] <;> rfl

theorem handlingStep_outstanding {reply : HandlingReply} :
    (s.handlingStep reply).outstandingGroupSendsByPeer = s.outstandingGroupSendsByPeer := by
  rcases handlingStep_cases reply s with
    heq | ⟨inv, nowMs, -, heq | ⟨v, -, heq⟩⟩ | ⟨inv, nowMs, -, heq⟩ <;> rw [heq]

theorem TrimmedKeys.act (hs : s.TrimmedKeys) (input : Input) :
    (s.act self nowMs ready input).TrimmedKeys := by
  cases input with
  | trigger peerAccountId peerInboxId =>
    rw [TrimmedKeys, Recovery.act, triggerRecoveryInvite_outstanding]
    exact hs
  | sentGroupMessage peerAccountId =>
    rw [Recovery.act, recordOutboundGroupMessage]
    split_ifs
    · exact hs
    · exact (hs.countOutbound peerAccountId).sweep
  | ackReceived peerAccountId =>
    rw [Recovery.act, noteDeliveryAckReceived]
    split_ifs
    · exact hs
    · exact (hs.delete _).sweep
  | sweep => exact hs.sweep
  | decrypted peerAccountId =>
    rw [Recovery.act, noteDecrypted]
    split_ifs <;> exact hs
  | sendStep n reply =>
    rw [TrimmedKeys, Recovery.act, sendStep_outstanding]
    exact hs
  | incoming inv =>
    rw [TrimmedKeys, Recovery.act, handleIncoming_outstanding]
    exact hs
  | handlingStep reply =>
    rw [TrimmedKeys, Recovery.act, handlingStep_outstanding]
    exact hs

/-! ## Steps -/

/-- **Steps.** What is kept by all that a trigger does is kept by every step, if it is kept by the
synchronous parts of the rest. -/
theorem Triggered.act (h : Triggered nowMs I) {input : Input} (hs : I s) (hkeys : s.TrimmedKeys)
    (hprune : input.sweeps self = true → I (s.pruneDecrypts nowMs))
    (hdecrypted : ∀ peerAccountId, I (s.noteDecrypted nowMs peerAccountId))
    (hsend : ∀ n reply, I (s.sendStep nowMs n reply))
    (hincoming : ∀ inv, input = .incoming inv → I (s.handleIncoming self nowMs ready inv))
    (hhandling : ∀ reply, I (s.handlingStep reply)) : I (s.act self nowMs ready input) := by
  cases input with
  | trigger peerAccountId peerInboxId => exact h.trigger hs fun hswept => absurd hswept false_ne_true
  | sentGroupMessage peerAccountId =>
    rw [Recovery.act, recordOutboundGroupMessage]
    split_ifs with hself
    · exact hs
    · refine h.sweep ?_ (hkeys.countOutbound peerAccountId)
      exact h.outstanding _ _ (hprune (decide_eq_true hself))
  | ackReceived peerAccountId =>
    rw [Recovery.act, noteDeliveryAckReceived]
    split_ifs with hempty
    · exact hs
    · refine h.sweep ?_ (hkeys.delete _)
      exact h.outstanding _ _ (hprune (decide_eq_true hempty))
  | sweep => exact h.sweep (hprune rfl) hkeys
  | decrypted peerAccountId => exact hdecrypted peerAccountId
  | sendStep n reply => exact hsend n reply
  | incoming inv => exact hincoming inv rfl
  | handlingStep reply => exact hhandling reply

theorem triggered_clock {n : Int} : Triggered nowMs fun s => s.clockMs = n where
  markers _ hs := hs
  timestamps _ hs := hs
  outstanding _ _ hs := hs
  mint _ _ _ _ hs _ := hs

theorem act_clockMs (hkeys : s.TrimmedKeys) (input : Input) :
    (s.act self nowMs ready input).clockMs = s.clockMs := by
  refine triggered_clock.act rfl hkeys (fun _ => rfl) (fun peer => ?_) (fun k reply => ?_)
    (fun inv _ => ?_) fun reply => ?_
  · rw [noteDecrypted]
    split_ifs <;> rfl
  · obtain ⟨sends, news, heq, -⟩ := sendStep_eq s nowMs k reply
    rw [heq]
  · rcases handleIncoming_cases self nowMs ready inv s with
      ⟨-, heq⟩ | ⟨v, -, -, heq⟩ | ⟨-, ⟨-, heq⟩ | ⟨-, ⟨-, heq⟩ | ⟨-, heq⟩⟩⟩ <;> rw [heq] <;> rfl
  · rcases handlingStep_cases reply s with
      heq | ⟨inv, nowMs, -, heq | ⟨v, -, heq⟩⟩ | ⟨inv, nowMs, -, heq⟩ <;> rw [heq]

theorem trimmedKeys_fresh (start : Int) : (fresh start).TrimmedKeys := fun _ he => by cases he

end Recovery

end RezChat.PeerLinks
