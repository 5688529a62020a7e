/-
Where the actions of the event service come from.

Each action in the journal of the event service was taken for one deposit, and
what can be said about it follows from the deposit and from the checks it went
through before. `Allowed` says it once for every action: which payload, which
thread and which signature it rests on. Three claims about attribution are read
off it below, so the handler is gone through only here.

The thread is what needs care. It is found by the thread id in the payload, or
by the sender in the payload, and neither is authenticated; what ties it to the
envelope is the one check `foreignDirectThread`, and only if the envelope has a
sender.
-/
import RezChat.Lib.Runs
import RezChat.Events.Service

set_option autoImplicit false

namespace RezChat.Events

open Inbox (Frame trim trimmed trim_trim trim_trimmed)
open Service Bool OrdMap List
open Option Proc

variable {σ α : Type}

/-! ## What an action rests on -/

/-- How the thread of a deposit was found, and that the binding of a direct
thread to its peer did not refuse it. -/
structure Placed (svc : Services σ) (d : Deposit) (r : Resolved) : Prop where
  found : r.thread = none ∨
    (d.payloadThreadId ≠ "" ∧ ∃ w, svc.getThread w d.payloadThreadId = r.thread) ∨
    (∃ t, r.thread = some t ∧ t.threadType = .direct ∧ Thread.peer r.thread = d.payloadSender)
  own : foreignDirectThread d r.thread = false

/-- A deposit whose payload is an original with a whole signature. -/
def Deposit.signed (d : Deposit) : Bool := (d.payload.map Payload.signedOriginal).getD false

/-- The signature of a deposit holds at some reading of the clock. -/
def Verifies (svc : Services σ) (d : Deposit) : Prop :=
  svc.cryptoProvider = true ∧ ∃ p nowMs fingerprint, d.payload = some p ∧
    verifyOriginalMessageForAdmission svc p nowMs = some fingerprint

/-- What `verified` says about an admitted deposit: a signature that could be
verified was, and one that is said to be verified holds. -/
structure Admitted (svc : Services σ) (d : Deposit) (verified : Bool) : Prop where
  handled : handled d = true
  all : d.signed = true → svc.cryptoProvider = true → verified = true
  holds : verified = true → d.signed = true ∧ Verifies svc d

/-- What has to be so for the service to take an action on behalf of a deposit. -/
def Allowed (svc : Services σ) (d : Deposit) : Action → Prop
  | .appending _ => Admitted svc d true
  | .flagging _ => Admitted svc d true
  | .dispatching k account verified => Admitted svc d verified ∧
      d.kind = some k ∧ ∃ p r, d.payload = some p ∧ svc.recordClass k p = true ∧
        Placed svc d r ∧ account = extractPayloadSender svc (dispatchCtx d r) k p
  | .persisting account verified => Admitted svc d verified ∧
      ∃ r, Placed svc d r ∧ account = rowSender d r
  | .observing account verified => Admitted svc d verified ∧
      ∃ r, Placed svc d r ∧ account = rowSender d r
  | .acking _ => ∃ verified, Admitted svc d verified
  | .settled _ => True

/-- An invariant that the handling of `d` keeps if it only does what is
allowed. -/
structure Keeper (svc : Services σ) (d : Deposit) (I : State σ → Prop) : Prop where
  world : ∀ s w, I s → I { s with world := w }
  noted : ∀ s a, I s → Allowed svc d a → I { s with journal := (d, a) :: s.journal }
  deferred : ∀ s groupId, I s →
    I { s with deferred := defer groupId d.envelopeSender d s.deferred }

/-- An invariant that the handling of `d` keeps as long as it only looks for the
thread of `d`, holds `d` back, and appends the fact in it. -/
structure Gatekeeper (svc : Services σ) (d : Deposit) (I : State σ → Prop) : Prop where
  world : ∀ s w, I s → I { s with world := w }
  deferred : ∀ s groupId, I s →
    I { s with deferred := defer groupId d.envelopeSender d s.deferred }
  appended : ∀ s fingerprint, I s → Admitted svc d true →
    I { s with journal := (d, .appending fingerprint) :: s.journal }
  flagged : ∀ s messageId, I s → Admitted svc d true →
    I { s with journal := (d, .flagging messageId) :: s.journal }

/-! ## Invariants and calls

What a call does to an invariant of the world is a matter of the services behind it.
The calls are grouped by when they are made: in the search for the thread, at the
admission, for content, and for the ops and events that concern the server as a whole. -/

/-- The search for the thread keeps an invariant of the world. -/
structure LookupCalls (svc : Services σ) (W : σ → Prop) : Prop where
  accept : ∀ a, Holds W (svc.acceptOutgoingConnectRequest a)
  ensure : ∀ t a i n, Holds W (svc.ensureDirectThread t a i n)

/-- The admission of the fact `p` to the log of the thread `threadId` keeps an invariant of
the world. -/
structure AdmitCalls (svc : Services σ) (threadId : String) (p : Payload) (W : σ → Prop) :
    Prop where
  append : ∀ f n, Holds W (svc.appendOriginalFact threadId f p n)
  mark : ∀ m, Holds W (svc.markMessageConflicted threadId m)

/-- The handlers of content keep an invariant of the world when they are handed `p`, of
the kind `k`, for the thread `threadId`. -/
structure ContentCalls (svc : Services σ) (k : PayloadKind) (threadId : String) (p : Payload)
    (W : σ → Prop) : Prop where
  reaction : ∀ a, Holds W (svc.handleIncomingReaction p a threadId)
  edit : ∀ a, Holds W (svc.handleIncomingEdit p a threadId)
  tombstone : ∀ a, Holds W (svc.handleIncomingTombstone p a threadId)
  connectRequest : k = .connectRequest →
    ∀ a, Holds W (svc.handleIncomingConnectRequest p a)
  commitAck : ∀ a, Holds W (svc.handleCommitAck p a threadId)
  connectAccepted : ∀ a,
    Holds W (svc.handleIncomingConnectAccepted p a threadId)
  file : ∀ a c, Holds W (svc.handleIncomingPayload p a threadId c)
  store : Holds W (svc.storeFile p)
  profile : ∀ a, Holds W (svc.handleIncomingProfile p a)

/-- What follows the filing of a row keeps an invariant of the world. -/
structure FilingCalls (svc : Services σ) (W : σ → Prop) : Prop where
  index : ∀ t m n x, Holds W (svc.upsertFromMessage t m n x)
  observe : ∀ g c a, Holds W (svc.ensureFromObservedMessage g c a)
  ack : ∀ a w, W w → W (svc.sendAck a w)

/-- The handler of group ops keeps an invariant of the world, up to the deposits that a
join brings back. -/
structure GroupOpCalls (svc : Services σ) (W : σ → Prop) : Prop where
  groupOp : ∀ p a, Holds W (svc.handleIncomingGroupOp p a)
  forward : ∀ p, Holds W (svc.forwardMemberJoin p)

/-- The handlers of account-state events and of sibling syncs keep an invariant of the
world when they are handed a payload of the kind `k`, up to the facts they apply. -/
structure SyncCalls (svc : Services σ) (k : PayloadKind) (W : σ → Prop) : Prop where
  accountState : k = .accountStateEvent →
    ∀ p, Holds W (svc.applyInbound p)
  openSync : ∀ p, Holds W (svc.openSiblingSync p)
  admitFact : ∀ p, Holds W (svc.admitFact p)
  closeSync : ∀ p, Holds W (svc.closeSiblingSync p)

/-- The journal knows of `d`. -/
def Noted (d : Deposit) (s : State σ) : Prop := ∃ a, (d, a) ∈ s.journal

/-- An invariant that the admission of `d` to the thread `threadId` keeps. -/
structure KeepsAdmission (svc : Services σ) (d : Deposit) (threadId : String)
    (I : State σ → Prop) : Prop where
  admits : ∀ p, d.payload = some p → ∀ s : State σ, Noted d s →
    AdmitCalls svc threadId p fun w => I { s with world := w }
  appended : ∀ s fingerprint, I s → Admitted svc d true →
    I { s with journal := (d, .appending fingerprint) :: s.journal }
  flagged : ∀ s messageId, I s → Admitted svc d true →
    I { s with journal := (d, .flagging messageId) :: s.journal }

/-- An invariant that the handling of `d` as content of its thread keeps. -/
structure KeepsContent (svc : Services σ) (d : Deposit) (r : Resolved) (I : State σ → Prop) :
    Prop where
  handler : ∀ k p, d.kind = some k → d.payload = some p → ∀ s : State σ, Noted d s →
    ContentCalls svc k r.threadId p fun w => I { s with world := w }
  filed : ∀ nowMs, ∀ s : State σ, Noted d s →
    Holds (fun w => I { s with world := w })
      (svc.upsertDepositedMessage (rowOf d r nowMs))
  follow : ∀ s : State σ, FilingCalls svc fun w => I { s with world := w }
  noted : ∀ s a, I s → Allowed svc d a → I { s with journal := (d, a) :: s.journal }

/-- An invariant that the handling of `d` keeps. -/
structure KeepsHandling (svc : Services σ) (d : Deposit) (I : State σ → Prop) : Prop where
  lookup : ∀ s : State σ, LookupCalls svc fun w => I { s with world := w }
  deferred : ∀ s groupId, I s →
    I { s with deferred := defer groupId d.envelopeSender d s.deferred }
  admission : ∀ threadId, KeepsAdmission svc d threadId I
  content : ∀ r, KeepsContent svc d r I
  groupOps : ∀ s : State σ, GroupOpCalls svc fun w => I { s with world := w }
  syncs : ∀ k, d.kind = some k → ∀ s : State σ, SyncCalls svc k fun w => I { s with world := w }

section Blind

variable {svc : Services σ} {W : σ → Prop} (h : ∀ w w', W w → W w')
include h

theorem keeps_of_blind (p : Proc σ α) : Holds W p :=
  keeps_of_wp fun w hw => wp_any (fun _ w' => ⟨h w w' hw, trivial⟩)
    (fun w' => h w w' hw) (fun w' => h w w' hw)

/-- What does not look at the world is kept by every call. -/
theorem lookupCalls_of_blind : LookupCalls svc W := by
  constructor <;> intros <;> exact keeps_of_blind h _

theorem admitCalls_of_blind {threadId : String} {p : Payload} : AdmitCalls svc threadId p W := by
  constructor <;> intros <;> exact keeps_of_blind h _

theorem contentCalls_of_blind {k : PayloadKind} {threadId : String} {p : Payload} :
    ContentCalls svc k threadId p W := by
  constructor <;> intros <;> exact keeps_of_blind h _

theorem filingCalls_of_blind : FilingCalls svc W where
  index _ _ _ _ := keeps_of_blind h _
  observe _ _ _ := keeps_of_blind h _
  ack _ w hw := h w _ hw

theorem groupOpCalls_of_blind : GroupOpCalls svc W := by
  constructor <;> intros <;> exact keeps_of_blind h _

theorem syncCalls_of_blind {k : PayloadKind} : SyncCalls svc k W := by
  constructor <;> intros <;> exact keeps_of_blind h _

end Blind

theorem Gatekeeper.lookup {svc : Services σ} {d : Deposit} {I : State σ → Prop}
    (hI : Gatekeeper svc d I) (s : State σ) : LookupCalls svc fun w => I { s with world := w } :=
  lookupCalls_of_blind fun w w' hw => hI.world { s with world := w } w' hw

theorem Gatekeeper.admission {svc : Services σ} {d : Deposit} {I : State σ → Prop}
    (hI : Gatekeeper svc d I) (threadId : String) : KeepsAdmission svc d threadId I where
  admits _ _ s _ := admitCalls_of_blind fun w w' hw => hI.world { s with world := w } w' hw
  appended := hI.appended
  flagged := hI.flagged

theorem Keeper.handling {svc : Services σ} {d : Deposit} {I : State σ → Prop}
    (hI : Keeper svc d I) : KeepsHandling svc d I where
  lookup s := lookupCalls_of_blind fun w w' hw => hI.world { s with world := w } w' hw
  deferred := hI.deferred
  admission _ :=
    { admits := fun _ _ s _ =>
        admitCalls_of_blind fun w w' hw => hI.world { s with world := w } w' hw
      appended := fun s _ hs ha => hI.noted s _ hs ha
      flagged := fun s _ hs ha => hI.noted s _ hs ha }
  content _ :=
    { handler := fun _ _ _ _ s _ =>
        contentCalls_of_blind fun w w' hw => hI.world { s with world := w } w' hw
      filed := fun _ s _ => keeps_of_blind (fun w w' hw => hI.world { s with world := w } w' hw) _
      follow := fun s =>
        filingCalls_of_blind fun w w' hw => hI.world { s with world := w } w' hw
      noted := hI.noted }
  groupOps s := groupOpCalls_of_blind fun w w' hw => hI.world { s with world := w } w' hw
  syncs _ _ s := syncCalls_of_blind fun w w' hw => hI.world { s with world := w } w' hw

/-! ## Calls -/

section Calls

variable {svc : Services σ} {d : Deposit} {I : State σ → Prop}

omit d in
theorem keeps_note {d : Deposit} {r : Resolved} (hI : KeepsContent svc d r I) {a : Action}
    (ha : Allowed svc d a) : Holds I (note d a) :=
  keeps_modify fun s hs => hI.noted s a hs ha

/-- What is noted is known from then on. -/
theorem keeps_noting {a : Action} {p : Proc (State σ) α} {Q : α → Prop}
    (hn : ∀ s, I s → I { s with journal := (d, a) :: s.journal })
    (hp : ∀ s, I s → Noted d s → wp p (fun b s' => I s' ∧ Q b) I I s) :
    Keeps I (do
      note d a
      p) Q :=
  keeps_of_wp fun s hs =>
    wp_bind (wp_modify (hp _ (hn s hs) ⟨a, mem_cons_self⟩))

/-- A call that is noted before it is made. -/
theorem keeps_notedCall {β : Type} {a : Action} {p : Proc σ β} {k : β → Proc (State σ) α}
    {Q : α → Prop} (hn : ∀ s, I s → I { s with journal := (d, a) :: s.journal })
    (hp : ∀ s : State σ, Noted d s →
      Holds (fun w => I { s with world := w }) p)
    (hk : ∀ b, Keeps I (k b) Q) :
    Keeps I (do
      note d a
      let b ← inWorld p
      k b) Q := by
  refine keeps_noting hn fun s hs hnoted => wp_bind ?_
  unfold inWorld
  refine wp_zoom (wp_imp ((hp s hnoted).wp hs) ?_)
  exact fun b w hw => (hk b).wp hw.1

omit d in
/-- A call that keeps the invariant of the world that `I` is, keeps `I`. -/
theorem keeps_inWorld {p : Proc σ α}
    (h : ∀ s : State σ, Holds (fun w => I { s with world := w }) p) :
    Holds I (inWorld p) := by
  refine keeps_of_wp fun s hs => ?_
  unfold inWorld
  exact wp_zoom ((h s).wp hs)

/-- What looks at no part of the world is kept by every call. -/
theorem Keeper.keeps_inWorld (hI : Keeper svc d I) (p : Proc σ α) :
    Holds I (inWorld p) :=
  RezChat.Events.keeps_inWorld fun s => keeps_of_blind
    (fun w w' hw => hI.world { s with world := w } w' hw) p

omit d in
/-- A read returns what the world holds in a state with the invariant. -/
theorem keeps_readHeld (f : σ → α) :
    Keeps I (readWorld f) (fun a => ∃ s : State σ, I s ∧ f s.world = a) := by
  refine keeps_of_wp fun s hs => ?_
  unfold readWorld inWorld
  exact wp_zoom (wp_await ⟨hs, s, hs, rfl⟩ hs hs hs)

omit d in
/-- A read returns what some world holds. -/
theorem keeps_read (f : σ → α) : Keeps I (readWorld f) (fun a => ∃ w, f w = a) := by
  refine (keeps_readHeld f).mono ?_
  rintro a ⟨s, -, h⟩
  exact ⟨s.world, h⟩

omit d in
theorem keeps_readOr (fallback : α) (f : σ → α) :
    Keeps I (readOr fallback f) (fun a => a = fallback ∨ ∃ w, f w = a) := by
  unfold readOr
  exact keeps_tryCatch ((keeps_read f).mono fun _ h => .inr h)
    (keeps_pure (.inl rfl))

omit d in
theorem keeps_attempt {p : Proc σ Unit} (hp : Holds I (inWorld p)) :
    Holds I (attempt p) := by
  unfold attempt
  exact keeps_tryCatch (keeps_last hp)
    (holds_pure)

omit d in
theorem keeps_now : Holds I (now svc) := by
  unfold now
  exact keeps_last keeps_get

end Calls

/-! ## The thread -/

section Resolution

variable {svc : Services σ} {d : Deposit} {I : State σ → Prop}

/-- An id of a direct thread: one is stored under it, or it belongs to a link. -/
def DirectId (svc : Services σ) (threadId : String) : Prop :=
  (∃ w t, svc.getThread w threadId = some t ∧ t.threadType = .direct) ∨
    ∃ peerLinkId peerAccountId, threadId = svc.directThreadIdForPeerLink peerLinkId peerAccountId

/-- A thread that was found is a direct thread with the peer it was looked for; if
making one failed, there is none. -/
structure Found.IsFor (svc : Services σ) (peerAccountId : String) (found : Found) : Prop where
  peer : ∀ t ∈ found.thread, t.2.threadType = .direct ∧ trim t.2.peerAccountId = peerAccountId
  seat : ∀ t ∈ found.thread, DirectId svc t.1
  failed : found.failed = true → found.thread = none

theorem repairThreadId_direct {threadId peerAccountId : String} (link : PeerLink)
    (hid : threadId ≠ "" → DirectId svc threadId)
    (hrepair : repairThreadId svc threadId peerAccountId link ≠ "") :
    DirectId svc (repairThreadId svc threadId peerAccountId link) := by
  unfold repairThreadId at hrepair ⊢
  split
  · rename_i hne
    exact hid hne
  · rename_i hempty
    rw [if_neg hempty] at hrepair
    split
    · exact .inr ⟨_, _, rfl⟩
    · rename_i hlink
      rw [if_neg hlink] at hrepair
      exact absurd rfl hrepair

section Search

variable {peerAccountId : String}
  (hE : ∀ t i n, Holds I (inWorld (svc.ensureDirectThread t peerAccountId i n)))
  (hp : trim peerAccountId = peerAccountId)
include hE hp

omit d in
theorem keeps_repairDirectThreadFromPeerLink (threadId : String)
    (hid : threadId ≠ "" → DirectId svc threadId) :
    Keeps I (repairDirectThreadFromPeerLink svc threadId peerAccountId)
      (Found.IsFor svc peerAccountId) := by
  have nothing : ∀ failed, Found.IsFor svc peerAccountId ⟨none, failed⟩ := by
    exact fun failed => ⟨fun t ht => absurd ht (by simp), fun t ht => absurd ht (by simp),
      fun _ => rfl⟩
  unfold repairDirectThreadFromPeerLink
  refine keeps_seq (keeps_readOr [] svc.listPeerLinks) fun peerLinks => ?_
  split
  · exact keeps_pure (nothing false)
  · rename_i link _
    dsimp only
    split
    · exact keeps_pure (nothing false)
    · rename_i hrepair
      refine keeps_seq keeps_now fun createdAtMs => ?_
      refine keeps_tryCatch ?_ (keeps_pure (nothing true))
      unfold ensureThread
      refine keeps_seq (hE _ _ _) fun inboxId => keeps_pure ?_
      -- the thread that was ensured is the one of the peer it was ensured for
      refine ⟨fun t ht => ?_, fun t ht => ?_, fun h => absurd h false_ne_true⟩
      · obtain ⟨inbox, -, rfl⟩ := mem_map.1 ht
        exact ⟨rfl, hp⟩
      · obtain ⟨inbox, -, rfl⟩ := mem_map.1 ht
        exact repairThreadId_direct link hid hrepair

omit d in
theorem keeps_findDirectThread (ids : List String) :
    Keeps I (findDirectThread svc peerAccountId ids) (Found.IsFor svc peerAccountId) := by
  induction ids with
  | nil => exact keeps_repairDirectThreadFromPeerLink hE hp "" (absurd rfl)
  | cons id ids ih =>
    rw [findDirectThread]
    split
    · exact ih
    · refine keeps_bind (keeps_readOr _ _) fun candidate hcandidate => ?_
      split
      · exact ih
      · split
        · rename_i thread hmatch
          have hid : DirectId svc (trim id) := by
            rcases hcandidate with hnone | ⟨w, hw⟩
            · exact absurd hnone (by simp)
            · exact .inl ⟨w, thread, hw, hmatch.1⟩
          split
          · refine keeps_pure ⟨fun t ht => ?_, fun t ht => ?_,
              fun h => absurd h false_ne_true⟩
            · rw [mem_some_iff] at ht
              rw [← ht]
              exact hmatch
            · rw [mem_some_iff] at ht
              rw [← ht]
              exact hid
          · exact keeps_repairDirectThreadFromPeerLink hE hp _ fun _ => hid
        · exact ih

omit d in
theorem keeps_resolveDirectThreadForSender :
    Keeps I (resolveDirectThreadForSender svc peerAccountId)
      (Found.IsFor svc peerAccountId) := by
  unfold resolveDirectThreadForSender
  exact keeps_seq (keeps_readOr _ _) fun ids => keeps_findDirectThread hE hp ids

end Search

omit d in
theorem keeps_senderAllowed
    (hI : ∀ s : State σ, LookupCalls svc fun w => I { s with world := w })
    (accountId : String) :
    Holds I (senderAllowed svc accountId) := by
  unfold senderAllowed
  refine keeps_seq (keeps_read _) fun active => ?_
  split
  · exact holds_pure
  · exact keeps_inWorld fun s => (hI s).accept _

/-- What is known of the thread of a deposit: it is the one the payload names, or a
direct thread with the sender the payload declares; if it could not be made, there
is none. -/
structure Located (svc : Services σ) (d : Deposit) (r : Resolved) : Prop where
  found : r.thread = none ∨
    (d.payloadThreadId ≠ "" ∧ ∃ w, svc.getThread w d.payloadThreadId = r.thread) ∨
    (∃ t, r.thread = some t ∧ t.threadType = .direct ∧ Thread.peer r.thread = d.payloadSender)
  seat : ∀ t, r.thread = some t →
    (r.threadId = d.payloadThreadId ∧ ∃ w, svc.getThread w r.threadId = some t) ∨
      (t.threadType = .direct ∧ DirectId svc r.threadId)
  nowhere : r.thread = none → r.threadId = ""
  failed : r.failed = true → r.threadId = ""

/-- **Where the thread comes from.** -/
theorem keeps_resolveThread
    (hI : ∀ s : State σ, LookupCalls svc fun w => I { s with world := w }) :
    Keeps I (resolveThread svc d) (Located svc d) := by
  have nowhere : ∀ refused, Located svc d ⟨"", none, refused, false⟩ :=
    fun refused => ⟨.inl rfl, fun _ h => absurd h (by simp), fun _ => rfl, fun _ => rfl⟩
  have named : Keeps I (namedThread svc d) (fun named => ∀ t ∈ named,
      d.payloadThreadId ≠ "" ∧ ∃ w, svc.getThread w d.payloadThreadId = some t) := by
    unfold namedThread
    split
    · exact keeps_pure (by simp)
    · rename_i hne
      refine (keeps_readOr none _).mono fun a ha t ht => ⟨hne, ?_⟩
      rw [mem_def] at ht
      rcases ha with rfl | ⟨w, hw⟩
      · exact absurd ht (by simp)
      · exact ⟨w, hw.trans ht⟩
  unfold resolveThread
  refine keeps_bind named fun thread hthread => ?_
  split
  · rename_i thread
    obtain ⟨hne, w, hw⟩ := hthread thread rfl
    refine keeps_pure ⟨.inr (.inl ⟨hne, w, hw⟩), fun t ht => ?_,
      fun h => absurd h (by simp), fun h => absurd h false_ne_true⟩
    rw [← ht]
    exact .inl ⟨rfl, w, hw⟩
  · split
    · exact keeps_pure (nowhere false)
    · refine keeps_seq (keeps_senderAllowed hI _) fun allowed => ?_
      split
      · -- the sender is let in: look for its direct thread
        have hp : trim d.payloadSender = d.payloadSender := trim_trimmed _
        refine keeps_bind (keeps_resolveDirectThreadForSender
          (fun t i n => keeps_inWorld fun s => (hI s).ensure t _ i n) hp) fun found hfound => ?_
        split
        · rename_i threadId thread hthread
          obtain ⟨hdirect, hpeer⟩ := hfound.peer (threadId, thread) hthread
          refine keeps_pure ⟨.inr (.inr ⟨thread, rfl, hdirect, hpeer⟩), fun t ht => ?_,
            fun h => absurd h (by simp), fun h => ?_⟩
          · obtain rfl : thread = t := some_inj.1 ht
            exact .inr ⟨hdirect, hfound.seat (threadId, thread) hthread⟩
          · rw [hfound.failed h] at hthread
            exact absurd hthread (by simp)
        · exact keeps_pure ⟨.inl rfl, fun _ h => absurd h (by simp), fun _ => rfl,
            fun _ => rfl⟩
      · exact keeps_pure (nowhere true)

theorem keeps_evaluateGroupGate (redelivering : Bool) (thread : Option Thread) :
    Holds I (evaluateGroupGate svc redelivering d thread) := by
  unfold evaluateGroupGate
  split
  · split
    · have membership : ∀ groupId, Holds I (senderMembership svc d groupId) := by
        intro groupId
        unfold senderMembership
        split
        · exact (keeps_readOr none _).mono fun _ _ => trivial
        · exact holds_pure
      refine keeps_seq (membership _) fun state => ?_
      split <;> exact holds_pure
    · exact holds_pure
  · exact holds_pure

/-- The group gate holds a deposit back only if it was sent to a group by somebody. -/
def Deferrable (d : Deposit) (thread : Option Thread) : Prop :=
  d.envelopeSender ≠ "" ∧ ∃ t, thread = some t ∧ t.threadType = .group

theorem keeps_gateDefers (redelivering : Bool) (thread : Option Thread) :
    Keeps I (evaluateGroupGate svc redelivering d thread)
      (fun gate => ∀ groupId, gate = .defer groupId → Deferrable d thread) := by
  unfold evaluateGroupGate
  split
  · rename_i t
    split
    · rename_i hgated
      have membership : ∀ groupId, Holds I (senderMembership svc d groupId) := by
        intro groupId
        unfold senderMembership
        split
        · exact (keeps_readOr none _).mono fun _ _ => trivial
        · exact holds_pure
      refine keeps_seq (membership _) fun state => ?_
      split
      · refine keeps_pure fun groupId hdefer => ?_
        split at hdefer <;> exact absurd hdefer (by simp)
      · refine keeps_pure fun groupId hdefer => ?_
        split at hdefer
        · rename_i hsent
          exact ⟨hsent.1, t, rfl, hgated.1⟩
        · exact absurd hdefer (by simp)
    · exact keeps_pure (by simp)
  · exact keeps_pure (by simp)

end Resolution

/-! ## The signature -/

section Admission

variable {svc : Services σ} {d : Deposit} {I : State σ → Prop}

theorem keeps_appendFact {threadId : String} (hI : KeepsAdmission svc d threadId I)
    (ha : Admitted svc d true) (fingerprint : String) {p : Payload} (hp : d.payload = some p) :
    Holds I (appendFact svc d threadId fingerprint p) := by
  unfold appendFact
  refine keeps_seq keeps_now fun receivedAtMs => ?_
  refine keeps_notedCall (fun s hs => hI.appended s fingerprint hs ha)
    (fun s hs => (hI.admits p hp s hs).append _ _) fun conflict => ?_
  split
  · exact holds_pure
  · rename_i messageId
    refine keeps_noting (fun s hs => hI.flagged s messageId hs ha) fun s hs hnoted => ?_
    unfold inWorld
    exact wp_zoom (((hI.admits p hp s hnoted).mark _).wp hs)

/-- What an unverified admission says: there was no whole signature to verify, or
no means to verify it. -/
theorem admitted_false {svc : Services σ} {d : Deposit} (hh : handled d = true)
    (h : d.signed = true → svc.cryptoProvider = false) : Admitted svc d false where
  handled := hh
  all hs hc := absurd (h hs) (by rw [hc]; exact Bool.noConfusion)
  holds hf := absurd hf false_ne_true

/-- **The admission.** A deposit passes with the signature it carries verified,
or because there is none, or because nothing here can verify it. -/
theorem keeps_admitOriginal {threadId : String} (hI : KeepsAdmission svc d threadId I)
    (hh : handled d = true) :
    Keeps I (admitOriginal svc d threadId)
      (fun admission => ∀ a ∈ admission, Admitted svc d a.verified) := by
  unfold admitOriginal
  split
  · rename_i hp
    refine keeps_pure fun a ha => ?_
    rw [mem_some_iff] at ha
    rw [← ha]
    exact admitted_false hh (by simp [Deposit.signed, hp])
  · rename_i p hp
    have unsigned : (originalMessageAuthPresence p = .absent ∨
        isOriginalMessageKind p.kind = false ∨ svc.cryptoProvider = false) →
        Keeps I (pure (some (⟨false, ""⟩ : Admission)))
          (fun admission => ∀ a ∈ admission, Admitted svc d a.verified) := by
      intro h
      refine keeps_pure fun a ha => ?_
      rw [mem_some_iff] at ha
      rw [← ha]
      refine admitted_false hh fun hs => ?_
      rw [Deposit.signed, hp, map_some, getD_some, Payload.signedOriginal,
        and_eq_true, decide_eq_true_eq] at hs
      rcases h with h | h | h
      · exact absurd (h.symm.trans hs.2) (by simp)
      · exact absurd (h.symm.trans hs.1) false_ne_true
      · exact h
    split
    · rename_i hkind
      cases hpres : originalMessageAuthPresence p with
      | mixed => exact keeps_pure (by simp)
      | absent => exact unsigned (.inl hpres)
      | full =>
        have hs : d.signed = true := by
          rw [Deposit.signed, hp, map_some, getD_some, Payload.signedOriginal,
            hkind, hpres]
          rfl
        dsimp only
        split
        · rename_i hcrypto
          refine keeps_bind (keeps_read _) fun verified hverified => ?_
          split
          · exact keeps_pure (by simp)
          · rename_i fingerprint
            obtain ⟨w, hw⟩ := hverified
            have hv : Verifies svc d := ⟨hcrypto, p, svc.clock w, fingerprint, hp, hw⟩
            have admitted : Admitted svc d true :=
              ⟨hh, fun _ _ => rfl, fun _ => ⟨hs, hv⟩⟩
            split
            · refine keeps_pure fun a ha => ?_
              rw [mem_some_iff] at ha
              rw [← ha]
              exact admitted
            · refine keeps_seq (keeps_appendFact hI admitted _ hp) fun _ => ?_
              refine keeps_pure fun a ha => ?_
              rw [mem_some_iff] at ha
              rw [← ha]
              exact admitted
        · rename_i hcrypto
          exact unsigned (.inr (.inr (eq_false_of_not_eq_true hcrypto)))
    · rename_i hkind
      exact unsigned (.inr (.inl (eq_false_of_not_eq_true hkind)))

end Admission

/-! ## Dispatch and filing -/

/-- A re-entrance that keeps an invariant, for the facts it may be handed. -/
structure Service.Reentry.KeepsInv (svc : Services σ) (I : State σ → Prop) (re : Reentry σ) : Prop where
  flush : ∀ groupId joiner,
    Holds I (re.flushDeferredGroupMessages groupId joiner)
  fact : ∀ p, admissibleFact svc p = true → Holds I (re.applyFact p)

section Dispatch

variable {svc : Services σ} {d : Deposit} {I : State σ → Prop} {re : Reentry σ}

omit d in
theorem keeps_dispatchGroupOp
    (hc : ∀ s : State σ, GroupOpCalls svc fun w => I { s with world := w })
    (hflush : ∀ groupId joiner,
      Holds I (re.flushDeferredGroupMessages groupId joiner))
    (p : Payload) (sender : String) :
    Holds I (dispatchGroupOp svc re p sender) := by
  unfold dispatchGroupOp
  refine keeps_seq (keeps_inWorld fun s => (hc s).groupOp _ _) fun turn => ?_
  split
  · exact holds_pure
  · refine keeps_seq (keeps_tryCatch (hflush _ _) (holds_pure))
      fun _ => ?_
    split
    · exact keeps_last (keeps_inWorld fun s => (hc s).forward _)
    · exact holds_pure

omit d in
/-- A transfer applies facts that its payload brings. -/
theorem keeps_dispatchSiblingSync_of {F : Payload → Prop} {p : Payload}
    (hopen : Keeps I (inWorld (svc.openSiblingSync p)) (fun facts => ∀ f ∈ facts, F f))
    (hadmits : ∀ fact, Holds I (inWorld (svc.admitFact fact)))
    (hclose : Holds I (inWorld (svc.closeSiblingSync p)))
    (hfact : ∀ fact, F fact → admissibleFact svc fact = true →
      Holds I (re.applyFact fact)) :
    Holds I (dispatchSiblingSync svc re p) := by
  have htransfer : ∀ failed fact, F fact →
      Holds I (transferFact svc re failed fact) := by
    intro failed fact hF
    unfold transferFact
    split
    · rename_i hadmissible
      refine keeps_seq (hadmits fact) fun admitted => ?_
      split
      · exact keeps_last (hfact fact hF hadmissible)
      · exact holds_pure
    · exact holds_pure
  unfold dispatchSiblingSync
  refine keeps_bind hopen fun facts hfacts => ?_
  refine keeps_seq (keeps_foldlM (fun failed fact hmem =>
    htransfer failed fact (hfacts fact hmem)) false) fun _ => ?_
  exact keeps_last hclose

section Syncs

variable {k : PayloadKind} (hc : ∀ s : State σ, SyncCalls svc k fun w => I { s with world := w })
  (hre : re.KeepsInv svc I)
include hc hre

omit d in
theorem keeps_dispatchSiblingSync (p : Payload) :
    Holds I (dispatchSiblingSync svc re p) :=
  keeps_dispatchSiblingSync_of (F := fun _ => True)
    ((keeps_inWorld fun s => (hc s).openSync p).mono fun _ _ _ _ => trivial)
    (fun _ => keeps_inWorld fun s => (hc s).admitFact _) (keeps_inWorld fun s => (hc s).closeSync p)
    fun fact _ hadmissible => hre.fact fact hadmissible

end Syncs

/-- Kinds whose handlers reach beyond content. -/
def PayloadKind.controls : PayloadKind → Bool
  | .groupOp | .accountStateEvent | .siblingSync => true
  | _ => false

theorem keeps_always {q : Proc (State σ) Bool} (hq : Holds I q) :
    Holds I (always q) := by
  unfold always
  exact keeps_last hq

omit d in
/-- The handler of content. -/
theorem keeps_dispatchEntry_content {k : PayloadKind} {p : Payload} {ctx : DispatchCtx}
    (hc : ∀ s : State σ, ContentCalls svc k ctx.threadId p fun w => I { s with world := w })
    (hk : k.controls = false) :
    Holds I (dispatchEntry svc re k p ctx) := by
  have mutation : ∀ q : Proc σ Answer, Holds I (inWorld q) →
      Holds I
        (if ctx.threadId = "" then (pure ⟨false, false⟩ : Proc (State σ) Answer)
          else inWorld q) := by
    intro q hq
    split
    · exact holds_pure
    · exact hq
  cases k with
  | message => exact holds_pure
  | reaction => exact mutation _ (keeps_inWorld fun s => (hc s).reaction _)
  | messageEdit => exact mutation _ (keeps_inWorld fun s => (hc s).edit _)
  | messageTombstone => exact mutation _ (keeps_inWorld fun s => (hc s).tombstone _)
  | groupOp | accountStateEvent | siblingSync => cases hk
  | messageCommitAck => exact keeps_always (keeps_inWorld fun s => (hc s).commitAck _)
  | avatar =>
    refine keeps_bind (keeps_attempt (keeps_inWorld fun s => (hc s).store)) ?_
    exact fun _ _ => holds_pure
  | connectRequest => exact keeps_inWorld fun s => (hc s).connectRequest rfl _
  | connectAccepted => exact keeps_inWorld fun s => (hc s).connectAccepted _
  | fileManifest => exact keeps_inWorld fun s => (hc s).file _ _
  | fileChunk => exact keeps_inWorld fun s => (hc s).file _ _
  | profile => exact keeps_inWorld fun s => (hc s).profile _

/-- The handler of content, of a deposit that is noted. -/
theorem keeps_dispatchEntry_noted {r : Resolved} (hI : KeepsContent svc d r I) {k : PayloadKind}
    {p : Payload} (hdk : d.kind = some k) (hp : d.payload = some p) (hk : k.controls = false)
    {s : State σ} (hs : I s) (hnoted : Noted d s) :
    wp (dispatchEntry svc re k p (dispatchCtx d r)) (fun _ s' => I s' ∧ True) I I s := by
  have hentry : Holds (fun s => I s ∧ Noted d s)
      (dispatchEntry svc re k p (dispatchCtx d r)) := by
    refine keeps_dispatchEntry_content (fun s => ?_) hk
    by_cases hs : Noted d s
    · have hc := hI.handler k p hdk hp s hs
      have hsame : (fun w => I { s with world := w } ∧ Noted d { s with world := w }) =
          fun w => I { s with world := w } := funext fun w => propext (and_iff_left hs)
      rw [hsame]
      exact hc
    · -- no state at hand is noted
      have hsame : (fun w => I { s with world := w } ∧ Noted d { s with world := w }) =
          fun _ => False := funext fun w => propext (iff_false_intro fun h => hs h.2)
      rw [hsame]
      exact contentCalls_of_blind fun _ _ h => h
  exact wp_mono (hentry.wp ⟨hs, hnoted⟩) (fun _ _ h => ⟨h.1.1, h.2⟩) (fun _ h => h.1)
    (fun _ h => h.1)

omit d in
/-- The handler of account-state events, or of sibling syncs. -/
theorem keeps_dispatchEntry_sync {k : PayloadKind}
    (hc : ∀ s : State σ, SyncCalls svc k fun w => I { s with world := w })
    (hre : re.KeepsInv svc I) (hk : k.controls = true) (hop : k ≠ .groupOp) (p : Payload)
    (ctx : DispatchCtx) :
    Holds I (dispatchEntry svc re k p ctx) := by
  cases k with
  | groupOp => exact absurd rfl hop
  | accountStateEvent => exact keeps_always (keeps_inWorld fun s => (hc s).accountState rfl _)
  | siblingSync => exact keeps_always (keeps_dispatchSiblingSync hc hre p)
  | _ => cases hk

theorem keeps_dispatchEntry (hI : KeepsHandling svc d I) (hre : re.KeepsInv svc I)
    {k : PayloadKind} {p : Payload} (hdk : d.kind = some k) (hp : d.payload = some p)
    (r : Resolved) {s : State σ} (hs : I s) (hnoted : Noted d s) :
    wp (dispatchEntry svc re k p (dispatchCtx d r)) (fun _ s' => I s' ∧ True) I I s := by
  cases hk : k.controls with
  | false => exact keeps_dispatchEntry_noted (hI.content r) hdk hp hk hs hnoted
  | true =>
    refine Keeps.wp ?_ hs
    by_cases hop : k = .groupOp
    · rw [hop]
      exact keeps_dispatchGroupOp hI.groupOps hre.flush p _
    · exact keeps_dispatchEntry_sync (hI.syncs k hdk) hre hk hop p _

/-- The dispatch of a payload whose handler keeps an invariant. -/
theorem keeps_dispatch {r : Resolved} (hI : KeepsContent svc d r I) {verified : Bool}
    {k : PayloadKind} {p : Payload} (ha : Admitted svc d verified) (hr : Placed svc d r)
    (hk : d.kind = some k) (hp : d.payload = some p) (hrec : svc.recordClass k p = true)
    (hentry : ∀ s, I s → Noted d s →
      wp (dispatchEntry svc re k p (dispatchCtx d r)) (fun _ s' => I s' ∧ True) I I s) :
    Holds I (dispatch svc re d r verified k p) := by
  unfold dispatch
  refine keeps_noting (fun s hs => hI.noted s _ hs ⟨ha, hk, p, r, hp, hrec, hr, rfl⟩) ?_
  intro s hs hnoted
  refine wp_tryCatch (wp_mono (hentry s hs hnoted) (fun _ _ h => h) ?_ (fun _ h => h))
  exact fun s' hs' => wp_pure ⟨hs', trivial⟩

theorem keeps_acknowledge {r : Resolved} (hI : KeepsContent svc d r I) {admission : Admission}
    (ha : Admitted svc d admission.verified) (nowMs : Int) :
    Holds I (acknowledge svc d r admission nowMs) := by
  have address : Holds I (ackAddress svc d r) := by
    unfold ackAddress
    split
    · exact holds_pure
    · split
      · exact holds_pure
      · split
        · refine keeps_seq (keeps_readOr _ _) fun peerLinks => ?_
          split <;> exact holds_pure
        · exact holds_pure
  unfold acknowledge
  dsimp only
  split
  · refine keeps_seq address fun address => ?_
    split
    · exact holds_pure
    · refine keeps_seq (keeps_note hI ⟨_, ha⟩) fun _ => ?_
      exact keeps_modify fun s hs => (hI.follow s).ack _ _ hs
  · exact holds_pure

theorem keeps_observeChannel {r : Resolved} (hI : KeepsContent svc d r I) {verified : Bool}
    (ha : Admitted svc d verified) (hr : Placed svc d r) :
    Holds I (observeChannel svc d r verified) := by
  unfold observeChannel
  split
  · exact holds_pure
  · dsimp only
    split
    · exact keeps_seq (keeps_note hI ⟨ha, r, hr, rfl⟩) fun _ =>
        keeps_attempt (keeps_inWorld fun s => (hI.follow s).observe _ _ _)
    · exact holds_pure

theorem keeps_persist {r : Resolved} (hI : KeepsContent svc d r I) {admission : Admission}
    (ha : Admitted svc d admission.verified) (hr : Placed svc d r)
    (failed : Bool) : Holds I (persist svc d r admission failed) := by
  unfold persist
  split
  · exact holds_pure
  · refine keeps_seq keeps_now fun nowMs => ?_
    refine keeps_notedCall (fun s hs => hI.noted s _ hs ⟨ha, r, hr, rfl⟩) (hI.filed nowMs)
      fun _ => ?_
    refine keeps_seq (keeps_attempt (keeps_inWorld fun s =>
      (hI.follow s).index _ _ _ _)) fun indexed => ?_
    refine keeps_seq (keeps_acknowledge hI ha nowMs) fun _ => ?_
    exact keeps_last (keeps_observeChannel hI ha hr)

end Dispatch

/-! ## The handler -/

section Handler

variable {svc : Services σ} {d : Deposit} {I : State σ → Prop} {re : Reentry σ}

theorem keeps_applyAdmitted {r : Resolved} (hI : KeepsContent svc d r I)
    (hentry : ∀ k p, d.kind = some k → d.payload = some p → ∀ s, I s → Noted d s →
      wp (dispatchEntry svc re k p (dispatchCtx d r)) (fun _ s' => I s' ∧ True) I I s)
    (hr : Placed svc d r) {admission : Admission} (ha : Admitted svc d admission.verified) :
    Holds I (applyAdmitted svc re d r admission) := by
  unfold applyAdmitted
  split
  · rename_i k p hk hp
    split
    · rename_i hrec
      refine keeps_bind (keeps_dispatch hI ha hr hk hp hrec (hentry k p hk hp)) ?_
      intro answer _
      split
      · exact holds_pure
      · exact keeps_persist hI ha hr _
    · exact holds_pure
  · exact keeps_persist hI ha hr _

/-- The gates let a deposit pass with what is known of its signature, and with what the
group gate vouches for. -/
theorem keeps_passGates {r : Resolved} {P : Prop} (redelivering : Bool) (hh : handled d = true)
    (hgate : foreignDirectThread d r.thread = false →
      Keeps I (evaluateGroupGate svc redelivering d r.thread) (fun gate => gate = .pass → P))
    (hdefer : Deferrable d r.thread → ∀ s groupId, I s →
      I { s with deferred := defer groupId d.envelopeSender d s.deferred })
    (hI : P → KeepsAdmission svc d r.threadId I) :
    Keeps I (passGates svc redelivering d r) (fun passed => ∀ admission,
      passed = .ok admission → foreignDirectThread d r.thread = false ∧ P ∧
        Admitted svc d admission.verified) := by
  unfold passGates
  split
  · exact keeps_pure (by simp)
  · rename_i hforeign
    have hown := eq_false_of_not_eq_true hforeign
    have hboth : Keeps I (evaluateGroupGate svc redelivering d r.thread) (fun gate =>
        (gate = .pass → P) ∧ ∀ groupId, gate = .defer groupId → Deferrable d r.thread) :=
      keeps_of_wp fun s hs => wp_mono
        (wp_and ((hgate hown).wp hs) ((keeps_gateDefers redelivering r.thread).wp hs))
        (fun _ _ h => ⟨h.1.1, h.1.2, h.2.2⟩) (fun _ h => h.1) (fun _ h => h.1)
    refine keeps_bind hboth fun gate hgates => ?_
    have hpass := hgates.1
    split
    · refine keeps_seq (keeps_modify fun s hs =>
        hdefer (hgates.2 _ rfl) s _ hs) fun _ => ?_
      exact keeps_pure (by simp)
    · exact keeps_pure (by simp)
    · have hP : P := hpass rfl
      refine keeps_bind (keeps_admitOriginal (hI hP) hh) fun admission hadm => ?_
      split
      · exact keeps_pure (by simp)
      · rename_i a
        refine keeps_pure fun a' ha' => ?_
        rw [Except.ok.injEq] at ha'
        rw [← ha']
        exact ⟨hown, hP, hadm a rfl⟩

/-- What happens to a deposit once its thread is known. -/
theorem keeps_onward {r : Resolved} {P : Prop} (redelivering : Bool) (hh : handled d = true)
    (hr : Located svc d r)
    (hgate : foreignDirectThread d r.thread = false →
      Keeps I (evaluateGroupGate svc redelivering d r.thread) (fun gate => gate = .pass → P))
    (hdefer : Deferrable d r.thread → ∀ s groupId, I s →
      I { s with deferred := defer groupId d.envelopeSender d s.deferred })
    (hadm : P → KeepsAdmission svc d r.threadId I) (hcontent : P → KeepsContent svc d r I)
    (hentry : P → ∀ k p, d.kind = some k → d.payload = some p → ∀ s, I s → Noted d s →
      wp (dispatchEntry svc re k p (dispatchCtx d r)) (fun _ s' => I s' ∧ True) I I s) :
    Holds I (do
      let passed ← passGates svc redelivering d r
      match passed with
      | .error disposition => pure ⟨disposition, r.failed⟩
      | .ok admission => applyAdmitted svc re d r admission) := by
  refine keeps_bind (keeps_passGates redelivering hh hgate hdefer hadm) ?_
  intro passed hpassed
  split
  · exact holds_pure
  · rename_i admission
    obtain ⟨hown, hP, hadmitted⟩ := hpassed admission rfl
    exact keeps_applyAdmitted (hcontent hP) (hentry hP) ⟨hr.found, hown⟩ hadmitted

/-- The verdict is noted at the end. -/
theorem keeps_handleWith_of {redelivering : Bool}
    (hbody : Holds I (applyDeposit svc re redelivering d))
    (hsettled : ∀ s v, I s → I { s with journal := (d, .settled v) :: s.journal }) :
    Holds I (handleWith svc re redelivering d) := by
  unfold handleWith
  refine keeps_seq hbody fun verdict => ?_
  exact keeps_last (keeps_modify fun s hs => hsettled s verdict hs)

/-- **The handling of a deposit does only what is allowed.** -/
theorem keeps_handleWith (hI : KeepsHandling svc d I) (hre : re.KeepsInv svc I)
    (redelivering : Bool) :
    Holds I (handleWith svc re redelivering d) := by
  refine keeps_handleWith_of ?_ fun s v hs =>
    (hI.content ⟨"", none, false, false⟩).noted s _ hs trivial
  unfold applyDeposit
  split
  · rename_i hh
    refine keeps_bind (keeps_resolveThread hI.lookup) fun r hr => ?_
    refine keeps_onward (P := True) redelivering hh hr ?_ (fun _ => hI.deferred)
      (fun _ => hI.admission r.threadId) (fun _ => hI.content r) ?_
    · exact fun _ => (keeps_evaluateGroupGate redelivering _).mono fun _ _ _ => trivial
    · exact fun _ k p hk hp s hs hnoted => keeps_dispatchEntry hI hre hk hp r hs hnoted
  · exact holds_pure

end Handler

/-! ## The whole service -/

/-- An invariant of the whole service, for deposits that satisfy `C`: handling
one of them keeps it, and so does taking held deposits out of the buffer; and
what is held, or transferred by a sibling, satisfies `C` as well. -/
structure Ledger (svc : Services σ) (C : Deposit → Prop) (I : State σ → Prop) : Prop where
  keeper : ∀ d, C d → Keeper svc d I
  held : ∀ s key bucket, I s → s.deferred.get? key = some bucket → ∀ d ∈ bucket, C d
  flushed : ∀ s key, I s → I { s with deferred := s.deferred.delete key }
  fact : ∀ p, admissibleFact svc p = true → C (factDeposit svc p)

/-- An invariant that the handling of a deposit keeps if whatever the deposit makes the
service handle besides keeps it; and of deposits that satisfy `C`, of which the held
ones are and the facts of a sibling. -/
structure KeepsService (svc : Services σ) (C : Deposit → Prop) (I : State σ → Prop) : Prop where
  handled : ∀ d, C d → ∀ (re : Reentry σ) redelivering, re.KeepsInv svc I →
    Holds I (handleWith svc re redelivering d)
  settled : ∀ d s v, C d → I s → I { s with journal := (d, .settled v) :: s.journal }
  held : ∀ s key bucket, I s → s.deferred.get? key = some bucket → ∀ d ∈ bucket, C d
  flushed : ∀ s key, I s → I { s with deferred := s.deferred.delete key }
  fact : ∀ p, admissibleFact svc p = true → C (factDeposit svc p)

theorem Ledger.service {svc : Services σ} {C : Deposit → Prop} {I : State σ → Prop}
    (hI : Ledger svc C I) : KeepsService svc C I where
  handled d hd _ redelivering hre := keeps_handleWith (hI.keeper d hd).handling hre redelivering
  settled d s _ hd hs := (hI.keeper d hd).noted s _ hs trivial
  held := hI.held
  flushed := hI.flushed
  fact := hI.fact

section Ledgers

variable {svc : Services σ} {C : Deposit → Prop} {d : Deposit} {I : State σ → Prop}

theorem keeps_applyFact (hI : KeepsService svc C I) (redelivering : Bool) (p : Payload)
    (hp : admissibleFact svc p = true) :
    Holds I (applyFact svc redelivering p) := by
  unfold applyFact
  have hre : (noReentry : Reentry σ).KeepsInv svc I :=
    { flush := fun _ _ => holds_pure
      fact := fun _ _ => holds_pure }
  exact keeps_last (hI.handled _ (hI.fact p hp) _ redelivering hre)

theorem keeps_reapply (hI : KeepsService svc C I) (hd : C d) :
    Holds I (reapply svc d) := by
  unfold reapply
  have hre : (heldReentry svc).KeepsInv svc I :=
    { flush := fun _ _ => holds_pure
      fact := keeps_applyFact hI true }
  exact keeps_last (hI.handled d hd _ true hre)

/-- A flush applies deposits that were held, so they satisfy what every held
deposit satisfies. -/
theorem keeps_flush_of
    (held : ∀ s key bucket, I s → s.deferred.get? key = some bucket → ∀ d ∈ bucket, C d)
    (flushed : ∀ s key, I s → I { s with deferred := s.deferred.delete key })
    (reapplied : ∀ d, C d → Holds I (reapply svc d))
    (groupId accountId : String) :
    Holds I (flush (reapply svc) groupId accountId) := by
  unfold flush
  refine keeps_bind keeps_get fun s hs => ?_
  split
  · exact holds_pure
  · split
    · exact holds_pure
    · rename_i bucket hbucket
      refine keeps_seq (keeps_modify fun s' hs' => flushed s' _ hs')
        fun _ => ?_
      refine keeps_foldlM (fun failed d hd => ?_) false
      unfold feed
      refine keeps_last (keeps_tryCatch
        (reapplied d (held s _ bucket hs hbucket d hd)) (holds_pure))

section

variable (hI : KeepsService svc C I)
include hI

theorem keeps_flush (groupId accountId : String) :
    Holds I (flush (reapply svc) groupId accountId) :=
  keeps_flush_of hI.held hI.flushed (fun _ hd => keeps_reapply hI hd) groupId accountId

theorem freshReentry_keepsInv :
    (freshReentry svc).KeepsInv svc I where
  flush := keeps_flush hI
  fact := keeps_applyFact hI false

/-- **Handling a deposit keeps the invariant**, with everything it makes the
service handle besides. -/
theorem keeps_handleMailboxDeposited (hd : C d) :
    Holds I (handleMailboxDeposited svc d) := by
  unfold handleMailboxDeposited
  exact hI.handled d hd _ false (freshReentry_keepsInv hI)

theorem keeps_applyUserMessage {m : UserMessage}
    (hm : C (ofUserMessage svc m)) :
    Holds I (applyUserMessage svc m) := by
  unfold applyUserMessage
  split
  · refine keeps_bind (keeps_modify fun s hs => hI.settled _ s _ hm hs) ?_
    exact fun _ _ => holds_pure
  · exact keeps_handleMailboxDeposited hI hm

end

end Ledgers

/-! ## Runs of the service -/

/-- What can happen to the event service: a deposit reaches it, raw or opened;
anything changes in the stores behind it; or its process is restarted. -/
inductive Service.Op (σ : Type) where
  | processDeposit (frame : Frame) (fates : List Fate)
  | applyUserMessage (m : UserMessage) (fates : List Fate)
  | elsewhere (change : σ → σ)
  | restart

/-- A new process: the deferred messages are gone. -/
def Service.restart (s : State σ) : State σ := { s with deferred := empty }

/-- The state a call leaves; if the process died in it, that of the next one. -/
def Service.finish (e : Ending (State σ) α) : State σ :=
  match e.outcome with
  | .died => restart e.state
  | _ => e.state

def Service.step (svc : Services σ) (s : State σ) : Op σ → State σ
  | .processDeposit frame fates => finish (processDeposit svc frame fates s)
  | .applyUserMessage m fates => finish (applyUserMessage svc m fates s)
  | .elsewhere change => { s with world := change s.world }
  | .restart => restart s

/-- The deposit an operation hands to the service satisfies `C`. -/
def Service.Op.Brings (svc : Services σ) (C : Deposit → Prop) : Op σ → Prop
  | .processDeposit frame _ => C (ofFrame svc frame)
  | .applyUserMessage m _ => C (ofUserMessage svc m)
  | _ => True

/-- Every action was allowed for its deposit, and every deposit the service
handled or holds satisfies `C`. -/
structure Accounted (svc : Services σ) (C : Deposit → Prop) (s : State σ) : Prop where
  journal : ∀ d a, (d, a) ∈ s.journal → C d ∧ Allowed svc d a
  deferred : ∀ key bucket, s.deferred.get? key = some bucket → ∀ d ∈ bucket, C d

section Runs

variable {svc : Services σ} {C : Deposit → Prop} {d : Deposit} {s : State σ}

theorem accounted_fresh (world : σ) : Accounted svc C (fresh world) where
  journal _ _ h := absurd h not_mem_nil
  deferred _ _ h := by simp [fresh] at h

/-- Holding one more deposit drops others, and adds none but itself. -/
theorem mem_defer {groupId accountId key : String} {d : Deposit}
    {held : OrdMap String (List Deposit)} {bucket : List Deposit}
    (h : (defer groupId accountId d held).get? key = some bucket) {e : Deposit}
    (he : e ∈ bucket) : e = d ∨ ∃ bucket', held.get? key = some bucket' ∧ e ∈ bucket' := by
  unfold defer at h
  dsimp only at h
  split at h
  · rename_i old hold
    rw [get?_set] at h
    split at h
    · rename_i hkey
      rw [some_inj] at h
      rw [← h, mem_append, mem_singleton] at he
      refine he.symm.imp id fun hmem => ⟨old, by rw [hkey]; exact hold, ?_⟩
      split at hmem
      · exact mem_of_mem_tail hmem
      · exact hmem
    · exact .inr ⟨bucket, h, he⟩
  · rw [get?_set] at h
    split at h
    · rw [some_inj] at h
      rw [← h, mem_singleton] at he
      exact .inl he
    · refine .inr ⟨bucket, ?_, he⟩
      -- the oldest key may have gone to make room
      split at h
      · split at h
        · split at h
          · exact h
          · rw [get?_delete] at h
            split at h
            · exact absurd h (by simp)
            · exact h
        · exact h
      · exact h

theorem accounted_keeper (hd : C d) : Keeper svc d (Accounted svc C) where
  world _ _ hs := ⟨hs.journal, hs.deferred⟩
  noted s a hs ha := by
    refine ⟨fun d' a' h => ?_, hs.deferred⟩
    rcases mem_cons.1 h with heq | hmem
    · obtain ⟨rfl, rfl⟩ := Prod.mk.inj heq
      exact ⟨hd, ha⟩
    · exact hs.journal d' a' hmem
  deferred s groupId hs := by
    refine ⟨hs.journal, fun key bucket hb e he => ?_⟩
    rcases mem_defer hb he with rfl | ⟨bucket', hb', he'⟩
    · exact hd
    · exact hs.deferred key bucket' hb' e he'

variable (hfact : ∀ p, admissibleFact svc p = true → C (factDeposit svc p))

include hfact

/-- The books are an invariant of the whole service. -/
theorem accounted_ledger : Ledger svc C (Accounted svc C) where
  keeper _ hd := accounted_keeper hd
  held _ key bucket hs hb := hs.deferred key bucket hb
  flushed s key hs := by
    refine ⟨hs.journal, fun key' b hb => ?_⟩
    rw [get?_delete] at hb
    split at hb
    · exact absurd hb (by simp)
    · exact hs.deferred key' b hb
  fact := hfact

/-- **One step** of the service keeps the books, if the deposit it brings
satisfies `C`. -/
theorem Accounted.step (h : Accounted svc C s) {op : Op σ} (hop : op.Brings svc C) :
    Accounted svc C (step svc s op) := by
  have restarted : ∀ {s' : State σ}, Accounted svc C s' → Accounted svc C (restart s') :=
    fun hs' => ⟨hs'.journal, fun _ _ hb => by simp [restart] at hb⟩
  have finished : ∀ {p : Proc (State σ) Verdict}, Holds (Accounted svc C) p →
      ∀ fates, Accounted svc C (finish (p fates s)) := by
    intro p hp fates
    have he := hp.ending h fates
    unfold finish
    split
    · exact restarted he
    · exact he
  cases op with
  | processDeposit frame fates =>
    exact finished (keeps_handleMailboxDeposited (accounted_ledger hfact).service hop) fates
  | applyUserMessage m fates =>
    exact finished (keeps_applyUserMessage (accounted_ledger hfact).service hop) fates
  | elsewhere change => exact ⟨h.journal, h.deferred⟩
  | restart => exact restarted h

/-- **Every run keeps the books**: if every deposit brought to the service
satisfies `C`, and so does every fact a sibling may transfer, then so does every
deposit an action was taken for, and the action was allowed. -/
theorem run_booked (world : σ) (ops : List (Op σ))
    (hops : Runs.Meets (step svc) (fun _ op => op.Brings svc C) (fresh world) ops) :
    Accounted svc C (Runs.run (step svc) (fresh world) ops) :=
  Runs.invariant (step svc) (fun _ _ h hop => h.step hfact hop) ops (fresh world)
    (accounted_fresh world) hops

end Runs

end RezChat.Events
