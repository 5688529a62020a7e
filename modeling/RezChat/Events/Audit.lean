/-
The stores behind the event service, seen from the outside.

Two things are done to a `Services` here. It is put over a part of a bigger world,
so that some of its calls can be replaced by ones that know the rest (`over`). And
it is audited: whenever something is written to a thread, or a direct thread is made,
the audit notes it together with the world as it is at that moment (`audited`). Nothing
reads the audit. It is what "at the moment it is persisted" means in the laws about
consent and membership.
-/
import RezChat.Events.Attribution

set_option autoImplicit false

namespace RezChat.Events

open Inbox (Frame trim)
open Service Deposit
open Option Proc

variable {σ τ α : Type}

/-! ## Services over a part of the world -/

/-- The same services, over the part of the world that `view` shows. -/
def Services.over (view : τ → σ) (put : σ → τ → τ) (svc : Services σ) : Services τ where
  clock w := svc.clock (view w)
  decode := svc.decode
  encode := svc.encode
  recordClass := svc.recordClass
  sdkRecordNamesSender := svc.sdkRecordNamesSender
  cryptoProvider := svc.cryptoProvider
  messageFingerprint := svc.messageFingerprint
  verifySignedAccountClaim := svc.verifySignedAccountClaim
  getThread w := svc.getThread (view w)
  listThreadIds w := svc.listThreadIds (view w)
  isActiveContact w := svc.isActiveContact (view w)
  acceptOutgoingConnectRequest a := zoom view put (svc.acceptOutgoingConnectRequest a)
  listPeerLinks w := svc.listPeerLinks (view w)
  directThreadIdForPeerLink := svc.directThreadIdForPeerLink
  ensureDirectThread t a i n := zoom view put (svc.ensureDirectThread t a i n)
  getMembership w := svc.getMembership (view w)
  appendOriginalFact t f p n := zoom view put (svc.appendOriginalFact t f p n)
  markMessageConflicted t m := zoom view put (svc.markMessageConflicted t m)
  upsertDepositedMessage row := zoom view put (svc.upsertDepositedMessage row)
  upsertFromMessage t m n x := zoom view put (svc.upsertFromMessage t m n x)
  ensureFromObservedMessage g c a := zoom view put (svc.ensureFromObservedMessage g c a)
  sendAck a w := put (svc.sendAck a (view w)) w
  handleIncomingReaction p a t := zoom view put (svc.handleIncomingReaction p a t)
  handleIncomingEdit p a t := zoom view put (svc.handleIncomingEdit p a t)
  handleIncomingTombstone p a t := zoom view put (svc.handleIncomingTombstone p a t)
  handleIncomingGroupOp p a := zoom view put (svc.handleIncomingGroupOp p a)
  forwardMemberJoin p := zoom view put (svc.forwardMemberJoin p)
  handleIncomingConnectRequest p a := zoom view put (svc.handleIncomingConnectRequest p a)
  applyInbound p := zoom view put (svc.applyInbound p)
  openSiblingSync p := zoom view put (svc.openSiblingSync p)
  admitFact p := zoom view put (svc.admitFact p)
  closeSiblingSync p := zoom view put (svc.closeSiblingSync p)
  handleCommitAck p a t := zoom view put (svc.handleCommitAck p a t)
  handleIncomingConnectAccepted p a t :=
    zoom view put (svc.handleIncomingConnectAccepted p a t)
  handleIncomingPayload p a t c := zoom view put (svc.handleIncomingPayload p a t c)
  storeFile p := zoom view put (svc.storeFile p)
  handleIncomingProfile p a := zoom view put (svc.handleIncomingProfile p a)

section Over

variable {view : τ → σ} {put : σ → τ → τ} {svc : Services σ} {W : τ → Prop}

/-- A call over a part of the world keeps what it keeps there. -/
theorem keeps_over {p : Proc σ α}
    (h : ∀ t, W t → wp p (fun _ w => W (put w t)) (fun w => W (put w t))
      (fun w => W (put w t)) (view t)) :
    Holds W (zoom view put p) :=
  keeps_of_wp fun t ht => wp_zoom (wp_imp (h t ht) (fun _ _ hw => ⟨hw, trivial⟩))

/-- The invariant does not look at the part of the world that `put` writes. -/
def Overlooks (put : σ → τ → τ) (W : τ → Prop) : Prop := ∀ t w, W t → W (put w t)

section

variable (h : Overlooks put W)
include h

theorem keeps_overlooked (p : Proc σ α) :
    Holds W (zoom view put p) :=
  keeps_zoom fun t w ht => h t w ht

theorem lookupCalls_over : LookupCalls (svc.over view put) W := by
  constructor <;> intros <;> exact keeps_overlooked h _

theorem admitCalls_over {threadId : String} {p : Payload} :
    AdmitCalls (svc.over view put) threadId p W := by
  constructor <;> intros <;> exact keeps_overlooked h _

theorem contentCalls_over {k : PayloadKind} {threadId : String}
    {p : Payload} : ContentCalls (svc.over view put) k threadId p W := by
  constructor <;> intros <;> exact keeps_overlooked h _

theorem filingCalls_over : FilingCalls (svc.over view put) W where
  index _ _ _ _ := keeps_overlooked h _
  observe _ _ _ := keeps_overlooked h _
  ack _ w hw := h w _ hw

theorem syncCalls_over {k : PayloadKind} :
    SyncCalls (svc.over view put) k W := by
  constructor <;> intros <;> exact keeps_overlooked h _

end

end Over

section Through

variable {view : τ → σ} {put : σ → τ → τ} {svc : Services σ} {W : σ → Prop}
  (hview : ∀ w t, view (put w t) = w)
include hview

/-- What a call keeps, it keeps as a call over a part of a bigger world. -/
theorem keeps_through {p : Proc σ α} (h : Holds W p) :
    Holds (fun t => W (view t)) (zoom view put p) := by
  refine keeps_over fun t ht => wp_mono (h.wp ht) ?_ ?_ ?_
  · intro _ w hw
    rw [hview]
    exact hw.1
  · intro w hw
    rw [hview]
    exact hw
  · intro w hw
    rw [hview]
    exact hw

theorem lookupCalls_through (h : LookupCalls svc W) :
    LookupCalls (svc.over view put) fun t => W (view t) where
  accept a := keeps_through hview (h.accept a)
  ensure t a i n := keeps_through hview (h.ensure t a i n)

theorem admitCalls_through {threadId : String} {p : Payload} (h : AdmitCalls svc threadId p W) :
    AdmitCalls (svc.over view put) threadId p fun t => W (view t) where
  append f n := keeps_through hview (h.append f n)
  mark m := keeps_through hview (h.mark m)

theorem contentCalls_through {k : PayloadKind} {threadId : String} {p : Payload}
    (h : ContentCalls svc k threadId p W) :
    ContentCalls (svc.over view put) k threadId p fun t => W (view t) where
  reaction a := keeps_through hview (h.reaction a)
  edit a := keeps_through hview (h.edit a)
  tombstone a := keeps_through hview (h.tombstone a)
  connectRequest hk a := keeps_through hview (h.connectRequest hk a)
  commitAck a := keeps_through hview (h.commitAck a)
  connectAccepted a := keeps_through hview (h.connectAccepted a)
  file a c := keeps_through hview (h.file a c)
  store := keeps_through hview h.store
  profile a := keeps_through hview (h.profile a)

theorem filingCalls_through (h : FilingCalls svc W) :
    FilingCalls (svc.over view put) fun t => W (view t) where
  index t m n x := keeps_through hview (h.index t m n x)
  observe g c a := keeps_through hview (h.observe g c a)
  ack a w hw := by
    show W (view (put (svc.sendAck a (view w)) w))
    rw [hview]
    exact h.ack a _ hw

theorem syncCalls_through {k : PayloadKind} (h : SyncCalls svc k W) :
    SyncCalls (svc.over view put) k fun t => W (view t) where
  accountState hk p := keeps_through hview (h.accountState hk p)
  openSync p := keeps_through hview (h.openSync p)
  admitFact p := keeps_through hview (h.admitFact p)
  closeSync p := keeps_through hview (h.closeSync p)

end Through

/-! ## The audit -/

/-- What is written to a thread: a row, a fact in its log, or what a handler makes of a
reaction, an edit, a tombstone, a file or the acceptance of a request. -/
inductive Content where
  | row (row : Row)
  | fact (threadId : String) (p : Payload)
  | handed (threadId : String) (p : Payload)

/-- The thread it is written to. -/
def Content.threadId : Content → String
  | .row filed => filed.threadId
  | .fact threadId _ => threadId
  | .handed threadId _ => threadId

/-- It is written for this deposit. -/
def Content.IsFor (d : Deposit) : Content → Prop
  | .row filed => ∃ r nowMs, filed = rowOf d r nowMs
  | .fact _ p => d.payload = some p
  | .handed _ p => d.payload = some p

/-- A world with its audit: what was written to threads and the direct threads that were
made, each with the world at the moment of it. -/
structure Audited (σ : Type) where
  world : σ
  content : List (Content × σ)
  made : List (String × σ)

namespace Audited

def put (w : σ) (t : Audited σ) : Audited σ := { t with world := w }

/-- A call, after what it writes has been noted. -/
def writing (c : Content) (p : Proc σ α) : Proc (Audited σ) α := do
  modify fun t => { t with content := (c, t.world) :: t.content }
  zoom world put p

/-- A call, after the peer of the thread it makes has been noted. -/
def making (peerAccountId : String) (p : Proc σ α) : Proc (Audited σ) α := do
  modify fun t => { t with made := (peerAccountId, t.world) :: t.made }
  zoom world put p

end Audited

open Audited (writing making)

/-- The services, audited. -/
def audited (svc : Services σ) : Services (Audited σ) :=
  { svc.over Audited.world Audited.put with
    ensureDirectThread := fun t a i n => making a (svc.ensureDirectThread t a i n)
    appendOriginalFact := fun t f p n => writing (.fact t p) (svc.appendOriginalFact t f p n)
    upsertDepositedMessage := fun row => writing (.row row) (svc.upsertDepositedMessage row)
    handleIncomingReaction := fun p a t =>
      writing (.handed t p) (svc.handleIncomingReaction p a t)
    handleIncomingEdit := fun p a t => writing (.handed t p) (svc.handleIncomingEdit p a t)
    handleIncomingTombstone := fun p a t =>
      writing (.handed t p) (svc.handleIncomingTombstone p a t)
    handleIncomingConnectAccepted := fun p a t =>
      writing (.handed t p) (svc.handleIncomingConnectAccepted p a t)
    handleIncomingPayload := fun p a t c =>
      writing (.handed t p) (svc.handleIncomingPayload p a t c) }

/-- What happens to an audited server happens to its world. -/
def Service.Op.audited : Op σ → Op (Audited σ)
  | .processDeposit frame fates => .processDeposit frame fates
  | .applyUserMessage m fates => .applyUserMessage m fates
  | .elsewhere change => .elsewhere fun t => t.put (change t.world)
  | .restart => .restart

/-- One step of an audited server. -/
def auditedStep (svc : Services σ) (s : State (Audited σ)) (op : Op σ) :
    State (Audited σ) :=
  step (audited svc) s op.audited

/-- An audited server at its start. -/
def unaudited (w : σ) : State (Audited σ) := fresh ⟨w, [], []⟩

/-! ## Threads and senders -/

/-- The group that a thread belongs to. -/
def Thread.group (t : Thread) : Option String :=
  if t.threadType = .group then some (trim t.groupId) else none

/-- What the ids of threads say. An id is the digest of what its thread is for, so the
group that a thread belongs to is a matter of its id, and a direct thread belongs to
none. -/
structure ThreadIds (svc : Services σ) where
  groupOf : String → Option String
  stored : ∀ w id t, svc.getThread w id = some t → groupOf id = t.group
  linked : ∀ peerLinkId peerAccountId,
    groupOf (svc.directThreadIdForPeerLink peerLinkId peerAccountId) = none
  nowhere : groupOf "" = none

theorem group_stored {id : String} {t : Thread}
    (h : (if id = "th_room" then some groupThread
      else if id = "th_alice" then some (Thread.withPeer "alice" "inbox_alice") else none) = some t) :
    (if id = "th_room" then some "room" else none) = t.group := by
  split at h
  · rename_i hid
    rw [if_pos hid, ← some_inj.1 h]
    decide
  · rename_i hid
    rw [if_neg hid]
    split at h
    · rw [← some_inj.1 h]
      decide
    · exact absurd h (by simp)

theorem group_nowhere : (if "" = "th_room" then some "room" else none) = none := rfl

/-- The group of the thread a deposit was resolved to. -/
theorem ThreadIds.groupOf_located {svc : Services σ} (ids : ThreadIds svc) {d : Deposit}
    {r : Resolved} (hr : Located svc d r) :
    ids.groupOf r.threadId = r.thread.bind Thread.group := by
  have direct : ∀ t : Thread, t.threadType = .direct → t.group = none := by
    intro t ht
    rw [Thread.group, if_neg (by rw [ht]; decide)]
  cases ht : r.thread with
  | none =>
    rw [hr.nowhere ht]
    exact ids.nowhere
  | some t =>
    rw [bind_some]
    rcases hr.seat t ht with ⟨-, w, hw⟩ | ⟨hdirect, ⟨w, t', hw, ht'⟩ | ⟨l, a, hid⟩⟩
    · exact ids.stored w _ t hw
    · rw [ids.stored w _ t' hw, direct t' ht', direct t hdirect]
    · rw [hid, ids.linked, direct t hdirect]

def ThreadIds.audited {svc : Services σ} (ids : ThreadIds svc) :
    ThreadIds (RezChat.Events.audited svc) where
  groupOf := ids.groupOf
  stored w := ids.stored w.world
  linked := ids.linked
  nowhere := ids.nowhere

/-- Only the thread that a deposit names can be a group's. -/
theorem ThreadIds.named {svc : Services σ} (ids : ThreadIds svc) {d : Deposit} {r : Resolved}
    (hr : Located svc d r) {g : String} (hg : ids.groupOf r.threadId = some g) :
    r.threadId = d.payloadThreadId := by
  have hgroup := (ids.groupOf_located hr).symm.trans hg
  obtain ⟨t, ht, htg⟩ := bind_eq_some_iff.1 hgroup
  rcases hr.seat t ht with ⟨hid, -⟩ | ⟨hdirect, -⟩
  · exact hid
  · rw [Thread.group, if_neg (by rw [hdirect]; decide)] at htg
    exact absurd htg (by simp)

/-- The account that is known to have sent a deposit: the one its peer link
authenticated, or the author of a fact that a sibling transferred. -/
def Deposit.vouchedSender (d : Deposit) : String :=
  match d.origin with
  | .peerLink accountId => trim accountId
  | .siblingTransfer => d.payloadSender
  | .plaintext | .accountStateKey => ""

/-- An envelope that names a sender names the one that is vouched for, unless it is no
envelope at all. -/
theorem Framed.vouched {svc : Services σ} {d : Deposit} (h : Framed svc d)
    (ho : d.origin ≠ .plaintext) : d.vouchedSender = d.envelopeSender := by
  unfold Framed at h
  unfold vouchedSender
  cases horigin : d.origin with
  | plaintext => exact absurd horigin ho
  | peerLink accountId =>
    rw [horigin] at h
    exact h.symm
  | accountStateKey =>
    rw [horigin] at h
    exact h.symm
  | siblingTransfer =>
    rw [horigin] at h
    exact h.2.2.1.symm

/-! ## Laws -/

/-- A law about what is written to a thread: the deposit it is written for, the thread,
and the world at that moment. -/
abbrev WritingLaw (σ : Type) : Type := Deposit → String → σ → Prop

/-- Whatever was written to a thread was written for a deposit in the journal, in
accordance with the law. -/
def Filings (law : WritingLaw σ) (s : State (Audited σ)) : Prop :=
  ∀ e ∈ s.world.content, ∃ d, Noted d s ∧ e.1.IsFor d ∧ law d e.1.threadId e.2

/-- Every direct thread was made in accordance with the law. -/
def Makings (law : String → σ → Prop) (s : State (Audited σ)) : Prop :=
  ∀ e ∈ s.world.made, law e.1 e.2

/-- The books are in order; besides, `J` holds of the world, and `H` of every deposit
that is held. -/
structure Booked (law : WritingLaw σ) (made : String → σ → Prop) (J : σ → Prop)
    (H : Deposit → Prop) (s : State (Audited σ)) : Prop where
  filings : Filings law s
  makings : Makings made s
  world : J s.world.world
  held : ∀ key bucket, s.deferred.get? key = some bucket → ∀ d ∈ bucket, H d

section Books

variable {svc : Services σ} {law : WritingLaw σ} {made : String → σ → Prop} {J : σ → Prop}
  {H : Deposit → Prop} {d : Deposit} {s : State (Audited σ)}

theorem booked_unaudited {w : σ} (hw : J w) : Booked law made J H (unaudited w) where
  filings _ h := absurd h List.not_mem_nil
  makings _ h := absurd h List.not_mem_nil
  world := hw
  held _ _ h := by simp [unaudited, fresh] at h

section

variable (h : Booked law made J H s)
include h

theorem Booked.noted (e : Deposit × Action) :
    Booked law made J H { s with journal := e :: s.journal } where
  filings f hf := by
    obtain ⟨d, ⟨a, ha⟩, hfor, hlaw⟩ := h.filings f hf
    exact ⟨d, ⟨a, List.mem_cons_of_mem _ ha⟩, hfor, hlaw⟩
  makings := h.makings
  world := h.world
  held := h.held

theorem Booked.deferred (hd : H d) (groupId accountId : String) :
    Booked law made J H { s with deferred := defer groupId accountId d s.deferred } where
  filings := h.filings
  makings := h.makings
  world := h.world
  held key bucket hb e he := by
    rcases mem_defer hb he with rfl | ⟨bucket', hb', he'⟩
    · exact hd
    · exact h.held key bucket' hb' e he'

theorem Booked.flushed (key : String) :
    Booked law made J H { s with deferred := s.deferred.delete key } where
  filings := h.filings
  makings := h.makings
  world := h.world
  held key' bucket hb := by
    rw [OrdMap.get?_delete] at hb
    split at hb
    · exact absurd hb (by simp)
    · exact h.held key' bucket hb

theorem Booked.restarted : Booked law made J H (restart s) where
  filings := h.filings
  makings := h.makings
  world := h.world
  held _ _ hb := by simp [restart] at hb

theorem Booked.mono {J' : σ → Prop} (hJ : ∀ w, J w → J' w) :
    Booked law made J' H s :=
  ⟨h.filings, h.makings, hJ _ h.world, h.held⟩

end

/-- A call that keeps `J` keeps the books. -/
theorem keeps_audited {p : Proc σ α} (hp : Holds J p)
    (s : State (Audited σ)) :
    Holds (fun w => Booked law made J H { s with world := w })
      (zoom Audited.world Audited.put p) := by
  refine keeps_over fun t ht => ?_
  have hbooked : ∀ w, J w → Booked law made J H { s with world := Audited.put w t } :=
    fun w hw => ⟨ht.filings, ht.makings, hw, ht.held⟩
  exact wp_mono (hp.wp ht.world) (fun _ w hw => hbooked w hw.1) hbooked hbooked

/-- A thread is made where the law allows it. -/
theorem keeps_making {a : String} {p : Proc σ α} (hp : Holds J p)
    (hmade : ∀ w, J w → made a w) (s : State (Audited σ)) :
    Holds (fun w => Booked law made J H { s with world := w }) (making a p) := by
  refine keeps_seq (keeps_modify fun w hw => ?_) fun _ => keeps_audited hp s
  refine ⟨hw.filings, ?_, hw.world, hw.held⟩
  intro e he
  rcases List.mem_cons.1 he with rfl | hmem
  · exact hmade _ hw.world
  · exact hw.makings e hmem

/-- Something is written for a deposit in the journal, where the law allows it. -/
theorem keeps_writing {c : Content} {p : Proc σ α} (hp : Holds J p)
    (hfor : c.IsFor d) (hlaw : ∀ w, J w → law d c.threadId w) {s : State (Audited σ)}
    (hnoted : Noted d s) :
    Holds (fun w => Booked law made J H { s with world := w }) (writing c p) := by
  refine keeps_seq (keeps_modify fun w hw => ?_) fun _ => keeps_audited hp s
  refine ⟨?_, hw.makings, hw.world, hw.held⟩
  intro e he
  rcases List.mem_cons.1 he with rfl | hmem
  · exact ⟨d, hnoted, hfor, hlaw _ hw.world⟩
  · exact hw.filings e hmem

/-! ### The calls of the handler -/

theorem groupOpCalls_audited (h : GroupOpCalls svc J) (s : State (Audited σ)) :
    GroupOpCalls (audited svc) fun w => Booked law made J H { s with world := w } where
  groupOp p a := keeps_audited (h.groupOp p a) s
  forward p := keeps_audited (h.forward p) s

theorem syncCalls_audited {k : PayloadKind} (h : SyncCalls svc k J) (s : State (Audited σ)) :
    SyncCalls (audited svc) k fun w => Booked law made J H { s with world := w } where
  accountState hk p := keeps_audited (h.accountState hk p) s
  openSync p := keeps_audited (h.openSync p) s
  admitFact p := keeps_audited (h.admitFact p) s
  closeSync p := keeps_audited (h.closeSync p) s

/-- A thread that may be made for anyone. -/
theorem lookupCalls_audited (h : LookupCalls svc J) (hmade : ∀ a w, J w → made a w)
    (s : State (Audited σ)) :
    LookupCalls (audited svc) fun w => Booked law made J H { s with world := w } where
  accept a := keeps_audited (h.accept a) s
  ensure t a i n := keeps_making (h.ensure t a i n) (hmade a) s

variable {r : Resolved}

/-- The calls that write to the thread `threadId` keep an invariant of the world. -/
structure KeptByContent (svc : Services σ) (threadId : String) (J : σ → Prop) : Prop where
  admits : ∀ p, AdmitCalls svc threadId p J
  handler : ∀ k p, ContentCalls svc k threadId p J
  filed : ∀ row, Holds J (svc.upsertDepositedMessage row)
  follow : FilingCalls svc J

/-- **The admission of a deposit** to a thread where the law allows it. -/
theorem keepsAdmission_of {threadId : String} (hadmits : ∀ p, AdmitCalls svc threadId p J)
    (hlaw : ∀ w, J w → law d threadId w) :
    KeepsAdmission (audited svc) d threadId (Booked law made J H) where
  admits p hp s hnoted :=
    { append := fun f n =>
        keeps_writing (c := .fact threadId p) ((hadmits p).append f n) hp hlaw hnoted
      mark := fun m => keeps_audited ((hadmits p).mark m) s }
  appended _ _ hs _ := hs.noted _
  flagged _ _ hs _ := hs.noted _

theorem keepsAdmission_audited {threadId : String} (hc : KeptByContent svc threadId J)
    (hlaw : ∀ w, J w → law d threadId w) :
    KeepsAdmission (audited svc) d threadId (Booked law made J H) :=
  keepsAdmission_of hc.admits hlaw

/-- **The handling of a deposit as content** of a thread where the law allows it. -/
theorem keepsContent_of
    (hhandler : ∀ k p, d.kind = some k → ContentCalls svc k r.threadId p J)
    (hfiled : ∀ row, Holds J (svc.upsertDepositedMessage row))
    (hfollow : FilingCalls svc J) (hlaw : ∀ w, J w → law d r.threadId w) :
    KeepsContent (audited svc) d r (Booked law made J H) where
  handler k p hk hp s hnoted :=
    have hc : ContentCalls svc k r.threadId p J := hhandler k p hk
    have handed : ∀ {q : Proc σ Answer}, Holds J q →
        Holds (fun w => Booked law made J H { s with world := w })
          (writing (.handed r.threadId p) q) :=
      fun hq => keeps_writing (c := .handed r.threadId p) hq hp hlaw hnoted
    { reaction := fun a => handed (hc.reaction a)
      edit := fun a => handed (hc.edit a)
      tombstone := fun a => handed (hc.tombstone a)
      connectRequest := fun hk a => keeps_audited (hc.connectRequest hk a) s
      commitAck := fun a => keeps_audited (hc.commitAck a) s
      connectAccepted := fun a => handed (hc.connectAccepted a)
      file := fun a c => handed (hc.file a c)
      store := keeps_audited hc.store s
      profile := fun a => keeps_audited (hc.profile a) s }
  filed nowMs _ hnoted :=
    keeps_writing (c := .row (rowOf d r nowMs)) (hfiled _) ⟨r, nowMs, rfl⟩ hlaw hnoted
  follow s :=
    { index := fun t m n x => keeps_audited (hfollow.index t m n x) s
      observe := fun g c a => keeps_audited (hfollow.observe g c a) s
      ack := fun a _ ht => ⟨ht.filings, ht.makings, hfollow.ack a _ ht.world, ht.held⟩ }
  noted _ _ hs _ := hs.noted _

theorem keepsContent_audited (hc : KeptByContent svc r.threadId J)
    (hlaw : ∀ w, J w → law d r.threadId w) :
    KeepsContent (audited svc) d r (Booked law made J H) :=
  keepsContent_of (fun k p _ => hc.handler k p) hc.filed hc.follow hlaw

/-! ### Group ops

The gates let every group op pass; it is its handler that looks at the sender. A group op
that its handler does not consume, or that makes it throw, is filed as a message. -/

/-- A group op passes the gates, unless its thread is foreign. -/
theorem passGates_groupOp {svc : Services σ} (hk : d.kind = some .groupOp)
    (hown : foreignDirectThread d r.thread = false) (redelivering : Bool) :
    passGates svc redelivering d r = pure (.ok ⟨false, ""⟩) := by
  have hgate : evaluateGroupGate svc redelivering d r.thread = pure .pass := by
    unfold evaluateGroupGate
    split
    · exact if_neg fun h => h.2 hk
    · rfl
  have hadm : admitOriginal svc d r.threadId = pure (some ⟨false, ""⟩) := by
    unfold admitOriginal
    split
    · rfl
    · rename_i p hp
      rw [kind, hp, bind_some, getPayloadEntry_eq_some] at hk
      rw [hk, if_neg (by decide)]
  rw [passGates, if_neg (by rw [hown]; exact Bool.false_ne_true), hgate]
  show (admitOriginal svc d r.threadId >>= _) = _
  rw [hadm]
  rfl

/-- The handler of a group op consumes it, unless the law lets it be filed as a message. -/
def OpSettled (svc : Services σ) (law : WritingLaw σ) (d : Deposit) :
    Moment (State (Audited σ)) := fun fates s =>
  handled d = true → d.kind = some .groupOp →
    After (resolveThread (audited svc) d) (fun r f s' =>
      foreignDirectThread d r.thread = false → ∀ p, d.payload = some p →
      svc.recordClass .groupOp p = true →
      After (dispatch (audited svc) (freshReentry (audited svc)) d r false .groupOp p)
        (fun answer _ s'' => answer.consumed = false → r.threadId ≠ "" →
          law d r.threadId s''.world.world) f s') fates s

theorem keeps_dispatch_groupOp (hc : GroupOpCalls svc J) {re : Reentry (Audited σ)}
    (hflush : ∀ groupId joiner, Holds (Booked law made J H)
      (re.flushDeferredGroupMessages groupId joiner)) (p : Payload) :
    Holds (Booked law made J H) (dispatch (audited svc) re d r false .groupOp p) := by
  unfold dispatch
  refine keeps_seq (keeps_modify fun s hs => hs.noted _) fun _ => ?_
  refine keeps_tryCatch ?_ (holds_pure)
  exact keeps_dispatchGroupOp (groupOpCalls_audited hc) hflush p _

section Settled

variable {K : String → σ → Prop} (hK : ∀ threadId, KeptByContent svc threadId (K threadId))
  (hlaw : ∀ threadId w, K threadId w ↔ law d threadId w)
  (hflush : ∀ groupId joiner, Holds (Booked law made (fun _ => True) H)
    ((freshReentry (audited svc)).flushDeferredGroupMessages groupId joiner))
include hK hlaw

/-- What the handler of a group op did not consume is filed, if the law allows it. -/
theorem wp_persist_lawful {admission : Admission}
    (ha : Admitted (audited svc) d admission.verified) (hr : Placed (audited svc) d r)
    (failed : Bool) (hs : Booked law made (fun _ => True) H s)
    (hl : r.threadId ≠ "" → law d r.threadId s.world.world) :
    wp (persist (audited svc) d r admission failed)
      (fun _ => Booked law made (fun _ => True) H) (Booked law made (fun _ => True) H)
      (Booked law made (fun _ => True) H) s := by
  by_cases ht : r.threadId = ""
  · unfold persist
    rw [if_pos ht]
    exact wp_pure hs
  · have hI : KeepsContent (audited svc) d r (Booked law made (K r.threadId) H) :=
      keepsContent_audited (hK r.threadId) fun w hw => (hlaw r.threadId w).1 hw
    have hkept := keeps_persist hI ha hr failed
    have hstart : Booked law made (K r.threadId) H s :=
      ⟨hs.filings, hs.makings, (hlaw r.threadId _).2 (hl ht), hs.held⟩
    exact wp_mono (hkept.wp hstart) (fun _ _ h => h.1.mono fun _ _ => trivial)
      (fun _ h => h.mono fun _ _ => trivial) (fun _ h => h.mono fun _ _ => trivial)

include hflush

/-- A group op that passed the gates. -/
theorem ends_applyAdmitted_groupOp (hk : d.kind = some .groupOp) {fates : List Fate}
    (hr : Placed (audited svc) d r) (ha : Admitted (audited svc) d false)
    (hok : ∀ p, d.payload = some p → svc.recordClass .groupOp p = true →
      After (dispatch (audited svc) (freshReentry (audited svc)) d r false .groupOp p)
        (fun answer _ s' => answer.consumed = false → r.threadId ≠ "" →
          law d r.threadId s'.world.world) fates s)
    (hc : GroupOpCalls svc fun _ => True) (hs : Booked law made (fun _ => True) H s) :
    Ends (applyAdmitted (audited svc) (freshReentry (audited svc)) d r ⟨false, ""⟩)
      (fun _ _ => Booked law made (fun _ => True) H)
      (fun _ => Booked law made (fun _ => True) H)
      (fun _ => Booked law made (fun _ => True) H) fates s := by
  unfold applyAdmitted
  split
  · rename_i k p hk' hp
    obtain rfl : k = .groupOp := some_inj.1 (hk'.symm.trans hk)
    split
    · rename_i hrec
      rw [ends_bind]
      have hbooked : Ends _ _ _ _ fates s :=
        ends_of_wp ((keeps_dispatch_groupOp (r := r) (d := d) hc hflush p).wp hs)
      refine ends_and hbooked (hok p hp hrec) ?_ (fun _ _ h _ => h) (fun _ _ h _ => h)
      intro answer f s' hs' hl
      split
      · rw [ends_pure]
        exact hs'.1
      · rename_i hconsumed
        exact ends_of_wp (wp_persist_lawful hK hlaw ha hr _ hs'.1
          (hl (Bool.eq_false_of_not_eq_true hconsumed)))
    · exact hs
  · rename_i hnot
    -- a group op has a payload
    rw [kind] at hk
    obtain ⟨wire, hwire, -⟩ := bind_eq_some_iff.1 hk
    obtain ⟨p, hp, -⟩ := bind_eq_some_iff.1 hwire
    exact absurd hp (hnot .groupOp p hk)

/-- **The handling of a group op that is settled.** -/
theorem ends_handleMailboxDeposited_groupOp (hk : d.kind = some .groupOp) {fates : List Fate}
    (hresolve : wp (resolveThread (audited svc) d)
      (fun r s' => Booked law made (fun _ => True) H s' ∧ Located (audited svc) d r)
      (Booked law made (fun _ => True) H) (Booked law made (fun _ => True) H) s)
    (hc : GroupOpCalls svc fun _ => True) (hok : OpSettled svc law d fates s)
    (hs : Booked law made (fun _ => True) H s) :
    Ends (handleMailboxDeposited (audited svc) d)
      (fun _ _ => Booked law made (fun _ => True) H)
      (fun _ => Booked law made (fun _ => True) H)
      (fun _ => Booked law made (fun _ => True) H) fates s := by
  unfold handleMailboxDeposited handleWith
  rw [ends_bind]
  have hsettle : ∀ (v : Verdict) (f : List Fate) (s' : State (Audited σ)),
      Booked law made (fun _ => True) H s' →
      Ends (do
        note d (.settled v)
        pure v) (fun _ _ => Booked law made (fun _ => True) H)
        (fun _ => Booked law made (fun _ => True) H)
        (fun _ => Booked law made (fun _ => True) H) f s' := by
    intro v f s' hs'
    rw [ends_bind]
    exact hs'.noted _
  refine Ends.mono (R := fun _ _ => Booked law made (fun _ => True) H) ?_ hsettle
    (fun _ _ h => h) (fun _ _ h => h)
  unfold applyDeposit
  split
  · rename_i hh
    rw [ends_bind]
    have hnot : d.signed = false := by
      rw [signed]
      cases hp : d.payload with
      | none => rfl
      | some p =>
        rw [kind, hp, bind_some, getPayloadEntry_eq_some] at hk
        rw [map_some, getD_some, Payload.signedOriginal, hk]
        rfl
    have ha : Admitted (audited svc) d false :=
      admitted_false hh fun h => absurd (hnot.symm.trans h) Bool.false_ne_true
    have hlocated : Ends _ _ _ _ fates s := ends_of_wp hresolve
    refine ends_and hlocated (hok hh hk) ?_ (fun _ _ h _ => h) (fun _ _ h _ => h)
    intro r f s' hs' hsettled
    by_cases hown : foreignDirectThread d r.thread = false
    · rw [passGates_groupOp hk hown]
      exact ends_applyAdmitted_groupOp hK hlaw hflush hk ⟨hs'.2.found, hown⟩ ha (hsettled hown) hc
        hs'.1
    · rw [passGates, if_pos (Bool.eq_true_of_not_eq_false hown)]
      exact hs'.1
  · exact hs

end Settled

end Books

/-! ## Runs of an audited server -/

/-- The deposit that an operation brings meets the condition, in the run it makes. -/
def Service.Op.Meets (svc : Services σ) (C : Deposit → Moment (State (Audited σ)))
    (s : State (Audited σ)) : Op σ → Prop
  | .processDeposit frame fates => C (ofFrame svc frame) fates s
  | .applyUserMessage m fates => C (ofUserMessage svc m) fates s
  | _ => True

section Runs

variable {svc : Services σ} {C : Deposit → Moment (State (Audited σ))}
  {s : State (Audited σ)} {op : Op σ}

/-- The deposit that an operation brings is framed as it was opened. -/
theorem Service.Op.Meets.brings {C' : Deposit → Prop} (h : op.Meets svc C s)
    (hC : ∀ d fates, C d fates s → C' d) :
    op.audited.Brings (RezChat.Events.audited svc)
      (fun d => Framed (RezChat.Events.audited svc) d ∧ C' d) := by
  cases op with
  | processDeposit frame fates => exact ⟨framed_ofFrame frame, hC _ _ h⟩
  | applyUserMessage m fates => exact ⟨framed_ofUserMessage m, hC _ _ h⟩
  | elsewhere change => exact trivial
  | restart => exact trivial

/-- **One step** of an audited server keeps an invariant that the handling of a deposit
keeps. -/
theorem auditedStep_keeps {I : State (Audited σ) → Prop} (hs : I s)
    (handled : ∀ d fates, C d fates s → I (handleMailboxDeposited (audited svc) d fates s).state)
    (noted : ∀ e, I { s with journal := e :: s.journal })
    (elsewhere : ∀ f : σ → σ, I { s with world := s.world.put (f s.world.world) })
    (restarted : ∀ s, I s → I (restart s)) (hop : op.Meets svc C s) :
    I (auditedStep svc s op) := by
  have finished : ∀ {p : Proc (State (Audited σ)) Verdict} {fates : List Fate},
      I (p fates s).state → I (finish (p fates s)) := by
    intro p fates h
    unfold finish
    split
    · exact restarted _ h
    · exact h
  cases op with
  | processDeposit frame fates => exact finished (handled _ _ hop)
  | applyUserMessage m fates =>
    refine finished ?_
    unfold applyUserMessage
    split
    · exact noted _
    · exact handled _ _ hop
  | elsewhere change => exact elsewhere change
  | restart => exact restarted s hs

end Runs

end RezChat.Events
