/-
Consent to direct content.

What is written to a direct thread should be written for an active contact, or be the
acceptance of a request of ours: the gate asks the contacts service before it looks for
the thread of a sender. It does not ask when the deposit names a thread that exists; then
only the binding of the thread to its peer is checked, and a peer that was blocked still is
the peer (`blocked_writes`). And what it asks about is the sender of the envelope, while
the thread that is looked for, or made, is the one of the sender that the payload declares.
`run_consentKept` is the law for all other deposits, over whole runs in which anything may
happen to the contacts between two deposits.
-/
import RezChat.Contacts.Server

set_option autoImplicit false

namespace RezChat.Contacts

open Inbox (Frame trim trimmed trim_trim trim_trimmed)
open Events World Thread
open Events.Service
open Groups (Behind)
open ContactsService ContactStore
open Proc

variable {ω α : Type}

/-! ## Active contacts -/

/-- An account is an active contact of the owner. -/
def ActiveContact (a : String) (w : World ω) : Prop :=
  trim a ≠ "" ∧ w.standing a = some .active

/-- The gate lets an account in: it is an active contact, or we have asked it to connect. -/
def MayWrite (a : String) (w : World ω) : Prop := ActiveContact a w ∨ w.PendingOutgoing a

section Active

variable {a : String} {w : World ω}

theorem isActive_iff : isActive w a = true ↔ ActiveContact a w := by
  rw [isActive, Bool.and_eq_true, decide_eq_true_eq, decide_eq_true_eq]
  rfl

theorem ActiveContact.withContact {b : String} {c : ChatContact} (h : ActiveContact a w)
    (hb : trim a = trim b → c.relationshipState = .active) :
    ActiveContact a (w.withContact b c) := by
  refine ⟨h.1, ?_⟩
  rw [standing_withContact]
  by_cases hab : trim a = trim b
  · rw [if_pos hab, hb hab]
  · rw [if_neg hab]
    exact h.2

/-- No move of an inbound event takes an active contact away. -/
theorem active_moves : KeptByMoves (fun _ => True) (ActiveContact a : World ω → Prop) where
  rest _ _ h := h
  accepted _ _ _ h hc _ := h.withContact fun _ => hc
  activated _ _ _ h hc _ := h.withContact fun _ => hc
  invited s b c h _ hb _ := by
    refine h.withContact fun hab => absurd ?_ hb
    rw [← standing_congr s hab]
    exact h.2
  touched s b c h hc := by
    refine h.withContact fun hab => ?_
    have hactive := h.2
    rw [standing_congr s hab, hc] at hactive
    exact Option.some_inj.1 hactive
  requested _ _ _ h _ := h
  resolved _ _ h := h

/-- Answers to our requests take nobody away that the gate lets in. -/
theorem mayWrite_answers : KeptByAnswers (MayWrite a : World ω → Prop) where
  rest _ _ h := h
  activated s b c h hc hb := h.imp_left fun hactive => active_moves.activated s b c hactive hc hb
  touched s b c h hc := h.imp_left fun hactive => active_moves.touched s b c hactive hc
  answered s b h hb hactive := by
    by_cases hab : trim a = trim b
    · -- the account that answers is an active contact
      refine .inl ⟨by rw [hab]; exact hb, ?_⟩
      rw [standing_withoutRequest, standing_congr s hab]
      exact hactive
    · rcases h with hactive' | ⟨r, hr, hpending⟩
      · exact .inl hactive'
      · refine .inr ⟨r, ?_, hpending⟩
        rw [request_withoutRequest, if_neg hab]
        exact hr

/-- The acceptance of a request of ours makes its account an active contact. -/
theorem acceptOutgoingConnectRequest_spec {L : Links ω} {displayName : String} :
    wp (acceptOutgoingConnectRequest L a displayName)
      (fun accepted w' => accepted = true → ActiveContact a w' ∧ w.PendingOutgoing a)
      (fun _ => True) (fun _ => True) w := by
  unfold acceptOutgoingConnectRequest
  by_cases ha : trim a = ""
  · rw [if_pos ha]
    exact wp_pure fun h => absurd h Bool.false_ne_true
  rw [if_neg ha]
  refine wp_bind (getRequest_spec ?_ trivial trivial)
  split
  · exact wp_pure fun h => absurd h Bool.false_ne_true
  · rename_i r hr
    by_cases hpending : r.direction = .outgoing ∧ r.state = .pending
    · rw [if_pos hpending]
      have hasked : w.PendingOutgoing a := ⟨r, hr, hpending⟩
      unfold ensureActiveContact
      rw [if_neg ha]
      refine wp_bind (wp_bind (wp_now fun nowMs =>
        upsert_spec (fun c hc => ⟨?_, trivial⟩) trivial trivial))
      have hactive : ActiveContact a (w.withContact a c) := by
        refine ⟨ha, ?_⟩
        rw [standing_withContact, if_pos rfl, hc]
        rfl
      refine wp_bind (deleteRequest_spec (fun _ => ⟨?_, trivial⟩) trivial trivial)
      exact wp_pure fun _ => ⟨hactive, hasked⟩
    · rw [if_neg hpending]
      exact wp_pure fun h => absurd h Bool.false_ne_true

end Active

/-- Whoever was an active contact in `w₀` is one. -/
def StillActive (w₀ w : World ω) : Prop := ∀ a, ActiveContact a w₀ → ActiveContact a w

theorem stillActive_moves (w₀ : World ω) : KeptByMoves (fun _ => True) (StillActive w₀) :=
  KeptByMoves.forall fun a => KeptByMoves.forall
    (W := fun (_ : ActiveContact a w₀) w => ActiveContact a w) fun _ => active_moves

/-! ## The law -/

/-- The owner consents to a deposit: its sender is an active contact, or the deposit is the
acceptance of a request that is pending towards its sender. -/
def Consents (d : Deposit) (w : World ω) : Prop :=
  ActiveContact d.vouchedSender w ∨
    (d.kind = some .connectAccepted ∧ w.PendingOutgoing d.vouchedSender)

/-- What is written to a direct thread is written with consent. -/
def ConsentLaw (groupOf : String → Option String) : WritingLaw (Groups.World (World ω)) :=
  fun d threadId w => threadId ≠ "" → groupOf threadId = none → Consents d w.rest

/-- Whatever was written to a direct thread was written for a deposit that the owner
consented to at that moment; and everybody that a direct thread was made for was an active
contact then. -/
def ConsentKept (groupOf : String → Option String) (s : State (Audited (Groups.World (World ω)))) :
    Prop :=
  (∀ e ∈ s.world.content, e.1.threadId ≠ "" → groupOf e.1.threadId = none →
    ∃ d, Noted d s ∧ e.1.IsFor d ∧ Consents d e.2.rest) ∧
  ∀ e ∈ s.world.made, ActiveContact e.1 e.2.rest

/-- The account that the gate asks about. -/
def gatedSender (d : Deposit) : String :=
  if d.envelopeSender ≠ "" then d.envelopeSender else d.payloadSender

/-- The payload declares the sender that the deposit has, or none. -/
def Sincere (d : Deposit) : Prop := d.payloadSender = "" ∨ d.payloadSender = d.vouchedSender

/-- What is known of the deposits that are held back. -/
structure Holdable (B : Backend ω) (groupOf : String → Option String) (d : Deposit) : Prop where
  framed : Framed (audited (server B)) d
  content : ∀ k, d.kind = some k → k.controls = false
  sincere : Sincere d
  named : (groupOf d.payloadThreadId).isSome = true

/-- The books of a server whose contacts satisfy `W`. -/
abbrev ConsentBooks (B : Backend ω) (groupOf : String → Option String) (W : World ω → Prop) :
    State (Audited (Groups.World (World ω))) → Prop :=
  Booked (ConsentLaw groupOf) (fun a w => ActiveContact a w.rest) (Behind W) (Holdable B groupOf)

section Books

variable {B : Backend ω} {groupOf : String → Option String} {W V : World ω → Prop}
  {s : State (Audited (Groups.World (World ω)))}

theorem ConsentBooks.and (h : ConsentBooks B groupOf W s) (hV : V s.world.world.rest) :
    ConsentBooks B groupOf (fun w => W w ∧ V w) s :=
  ⟨h.filings, h.makings, ⟨h.world, hV⟩, h.held⟩

theorem ConsentBooks.left (h : ConsentBooks B groupOf (fun w => W w ∧ V w) s) :
    ConsentBooks B groupOf W s := Booked.mono h fun _ hw => hw.1

end Books

/-! ## The gate -/

/-- The payload declares an active contact that is not the sender of the envelope. Its
thread is foreign to the deposit. -/
def Misnames (d : Deposit) (w : World ω) : Prop :=
  d.envelopeSender ≠ "" ∧ d.payloadSender ≠ d.envelopeSender ∧ ActiveContact d.payloadSender w

/-- The search for a thread does no harm: the payload declares its sender, or the gate
refuses it, or the thread that is found is foreign. -/
def SafelySought (d : Deposit) (w : World ω) : Prop :=
  Sincere d ∨ ¬ MayWrite (gatedSender d) w ∨ Misnames d w

section Gate

variable {B : Backend ω} {groupOf : String → Option String} {A W : World ω → Prop}
  {d : Deposit} {r : Resolved} {s : State (Audited (Groups.World (World ω)))}

/-- The gate lets in whom it asked about and found active, or asked to connect. -/
theorem wp_senderAllowed (hW : KeptByAnswers W) (hs : ConsentBooks B groupOf W s) (a : String) :
    wp (senderAllowed (audited (server B)) a)
      (fun allowed s' => ConsentBooks B groupOf W s' ∧
        (allowed = true → ActiveContact a s'.world.world.rest ∧ MayWrite a s.world.world.rest))
      (ConsentBooks B groupOf W) (ConsentBooks B groupOf W) s := by
  unfold senderAllowed readWorld inWorld
  refine wp_bind (wp_zoom (wp_await_read ?_ hs hs))
  split
  · rename_i hactive
    have ha : ActiveContact a s.world.world.rest := isActive_iff.1 hactive
    exact wp_pure ⟨hs, fun _ => ⟨ha, .inl ha⟩⟩
  · refine wp_zoom (wp_zoom (wp_zoom ?_))
    have hbooks : ∀ w, W w → ConsentBooks B groupOf W
        { s with world := Audited.put (Groups.putRest w s.world.world) s.world } :=
      fun w hw => ⟨hs.filings, hs.makings, hw, hs.held⟩
    have hkept : Holds W (acceptOutgoingConnectRequest B.links a "") :=
      keeps_acceptOutgoingConnectRequest hW ""
    refine wp_mono (wp_and (hkept.wp hs.world) acceptOutgoingConnectRequest_spec) ?_
      (fun w hw => hbooks w hw.1) (fun w hw => hbooks w hw.1)
    intro accepted w hw
    exact ⟨hbooks w hw.1.1, fun h => ⟨(hw.2 h).1, .inr (hw.2 h).2⟩⟩

/-- The thread that a deposit names, as it is stored. -/
theorem wp_namedThread {σ : Type} {svc : Services σ} {s : State σ} {E D : State σ → Prop}
    (hD : D s) :
    wp (namedThread svc d) (fun named s' => s' = s ∧ ∀ t, named = some t →
      d.payloadThreadId ≠ "" ∧ svc.getThread s.world d.payloadThreadId = some t) E D s := by
  unfold namedThread
  split
  · exact wp_pure ⟨rfl, fun t ht => absurd ht (by simp)⟩
  · rename_i hne
    unfold readOr readWorld inWorld
    refine wp_tryCatch (wp_zoom (wp_await_read ⟨rfl, fun t ht => ⟨hne, ht⟩⟩ ?_ hD))
    exact wp_pure ⟨rfl, fun t ht => absurd ht (by simp)⟩

/-- A sincere deposit that declares its sender was sent by whom the gate asks about. -/
theorem Sincere.gated (hd : Sincere d) (hframed : Framed (audited (server B)) d)
    (hne : d.payloadSender ≠ "") :
    d.vouchedSender = d.payloadSender ∧ gatedSender d = d.payloadSender := by
  have hvouched : d.payloadSender = d.vouchedSender := hd.resolve_left hne
  have horigin : d.origin ≠ .plaintext := by
    intro ho
    rw [Deposit.vouchedSender, ho] at hvouched
    exact hne hvouched
  have henvelope : d.envelopeSender = d.payloadSender :=
    (hframed.vouched horigin).symm.trans hvouched.symm
  refine ⟨hvouched.symm, ?_⟩
  rw [gatedSender, if_pos (by rw [henvelope]; exact hne), henvelope]

/-- If the thread of a deposit is its own and a direct one, it was resolved with `A`. -/
def ResolvedWith (A : World ω → Prop) (groupOf : String → Option String) (d : Deposit)
    (r : Resolved) (w : World ω) : Prop :=
  foreignDirectThread d r.thread = false → r.threadId ≠ "" → groupOf r.threadId = none → A w

/-- The thread of the sender that the payload declares is foreign to the deposit, unless it
is the sender of the envelope. -/
theorem foreign_of_misnamed {t : Thread} (hne : d.payloadSender ≠ "")
    (hsent : d.envelopeSender ≠ "" ∧ d.payloadSender ≠ d.envelopeSender)
    (hdirect : t.threadType = .direct) (hpeer : peer (some t) = d.payloadSender) :
    foreignDirectThread d (some t) = true := by
  rw [foreignDirectThread, decide_eq_true_eq, hpeer]
  exact ⟨hdirect, hsent.1, hne, hsent.2⟩

/-- The search for the direct thread of the declared sender, who is an active contact. -/
theorem wp_soughtThread (hW : KeptByAnswers W)
    (hs : ConsentBooks B groupOf (fun w => W w ∧ ActiveContact d.payloadSender w) s)
    (hA : ∀ w, ActiveContact d.payloadSender w → ∀ t : Thread, t.threadType = .direct →
      peer (some t) = d.payloadSender → foreignDirectThread d (some t) = false → A w) :
    wp (do
        let found ← resolveDirectThreadForSender (audited (server B)) d.payloadSender
        match found.thread with
        | some (threadId, thread) => pure ⟨threadId, some thread, false, found.failed⟩
        | none => pure ⟨"", none, false, found.failed⟩)
      (fun r => ConsentBooks B groupOf fun w => W w ∧ ResolvedWith A groupOf d r w)
      (ConsentBooks B groupOf W) (ConsentBooks B groupOf W) s := by
  have hkept : KeptByAnswers fun w => W w ∧ ActiveContact d.payloadSender w :=
    hW.and active_moves.answers
  have hensure : ∀ t i n, Keeps
      (ConsentBooks B groupOf fun w => W w ∧ ActiveContact d.payloadSender w)
      (inWorld ((audited (server B)).ensureDirectThread t d.payloadSender i n))
      (fun _ => True) :=
    fun t i n => keeps_inWorld fun s => keeps_making
      ((lookupCalls_server hkept).ensure t d.payloadSender i n) (fun _ hw => hw.2) s
  have hfind : Keeps _ (resolveDirectThreadForSender (audited (server B)) d.payloadSender) _ :=
    keeps_resolveDirectThreadForSender hensure (trim_trimmed _)
  refine wp_bind (wp_mono (hfind.wp hs) ?_
    (fun _ h => ConsentBooks.left h) (fun _ h => ConsentBooks.left h))
  rintro found s' ⟨hs', hfound⟩
  split
  · rename_i threadId t ht
    obtain ⟨hdirect, hpeer⟩ := hfound.peer (threadId, t) ht
    refine wp_pure (Booked.mono hs' fun w hw => ⟨hw.1, fun hown _ _ => ?_⟩)
    exact hA w.rest hw.2 t hdirect hpeer hown
  · exact wp_pure (Booked.mono hs' fun w hw => ⟨hw.1, fun _ hne => absurd rfl hne⟩)

/-- **The thread of a deposit.** If `A` holds in case the deposit names a direct thread, and
the search for any other thread does no harm, then `A` holds in case the deposit was
resolved to a direct thread of its own. -/
theorem wp_resolveThread (ids : ThreadIds (audited (server B))) (hW : KeptByAnswers W)
    (hs : ConsentBooks B ids.groupOf W s) (hframed : Framed (audited (server B)) d)
    (hactive : d.payloadSender ≠ "" → ∀ w, ActiveContact d.vouchedSender w → A w)
    (hsafe : SafelySought d s.world.world.rest)
    (hnamed : d.payloadThreadId ≠ "" → ∀ t,
      (server B).getThread s.world.world d.payloadThreadId = some t → t.threadType = .direct →
      foreignDirectThread d (some t) = false → A s.world.world.rest) :
    wp (resolveThread (audited (server B)) d)
      (fun r s' => ConsentBooks B ids.groupOf (fun w => W w ∧ ResolvedWith A ids.groupOf d r w) s' ∧
        Located (audited (server B)) d r)
      (ConsentBooks B ids.groupOf W) (ConsentBooks B ids.groupOf W) s := by
  have hlocated : Keeps (fun _ => True) (resolveThread (audited (server B)) d)
      (Located (audited (server B)) d) :=
    keeps_resolveThread fun _ => lookupCalls_of_blind fun _ _ h => h
  suffices h : wp (resolveThread (audited (server B)) d)
      (fun r s' => ConsentBooks B ids.groupOf (fun w => W w ∧ ResolvedWith A ids.groupOf d r w) s')
      (ConsentBooks B ids.groupOf W) (ConsentBooks B ids.groupOf W) s from
    wp_mono (wp_and h (hlocated.wp trivial)) (fun _ _ h => ⟨h.1, h.2.2⟩)
      (fun _ h => h.1) (fun _ h => h.1)
  have hnowhere : ∀ s' refused failed, ConsentBooks B ids.groupOf W s' →
      ConsentBooks B ids.groupOf (fun w => W w ∧
        ResolvedWith A ids.groupOf d ⟨"", none, refused, failed⟩ w) s' :=
    fun s' _ _ hs' => ConsentBooks.and hs' fun _ hne => absurd rfl hne
  unfold resolveThread
  refine wp_bind (wp_imp (wp_namedThread hs) ?_)
  rintro named s' ⟨rfl, hstored⟩
  split
  · -- the deposit names a thread that is there
    rename_i t
    have ht : (server B).getThread s'.world.world d.payloadThreadId = some t := (hstored t rfl).2
    have hgroup : ids.groupOf d.payloadThreadId = t.group :=
      ids.stored s'.world d.payloadThreadId t ht
    refine wp_pure (ConsentBooks.and hs fun hown _ hdirect => ?_)
    have hnone : t.group = none := hgroup.symm.trans hdirect
    refine hnamed (hstored t rfl).1 t ht ?_ hown
    cases htype : t.threadType with
    | direct => rfl
    | group =>
      rw [group, if_pos htype] at hnone
      exact absurd hnone (by simp)
  · split
    · exact wp_pure (hnowhere _ _ _ hs)
    · rename_i hne
      by_cases hmisnames : Misnames d s'.world.world.rest
      · -- the thread that will be found is foreign
        refine wp_bind (wp_mono (wp_senderAllowed (hW.and active_moves.answers)
          (ConsentBooks.and hs hmisnames.2.2) _) ?_
          (fun _ h => ConsentBooks.left h) (fun _ h => ConsentBooks.left h))
        rintro allowed s₁ ⟨hs₁, -⟩
        by_cases ha : allowed = true
        · rw [if_pos ha]
          refine wp_soughtThread hW hs₁ fun w _ t hdirect hpeer hown => ?_
          have hforeign := foreign_of_misnamed hne ⟨hmisnames.1, hmisnames.2.1⟩ hdirect hpeer
          exact absurd (hown.symm.trans hforeign) Bool.false_ne_true
        · rw [if_neg ha]
          exact wp_pure (hnowhere _ _ _ (ConsentBooks.left hs₁))
      · refine wp_bind (wp_imp (wp_senderAllowed hW hs _) ?_)
        rintro allowed s₁ ⟨hs₁, hallowed⟩
        by_cases ha : allowed = true
        · -- the gate let the sender in, so it is the one that the payload declares
          obtain ⟨hin, hmay⟩ := hallowed ha
          have hsincere : Sincere d :=
            hsafe.resolve_right fun h => h.elim (fun hrefused => hrefused hmay) hmisnames
          obtain ⟨hvouched, hgated⟩ := hsincere.gated hframed hne
          rw [show (if d.envelopeSender ≠ "" then d.envelopeSender else d.payloadSender) =
            d.payloadSender from hgated] at hin
          rw [if_pos ha]
          refine wp_soughtThread hW (ConsentBooks.and hs₁ hin) fun w hw _ _ _ _ => hactive hne w ?_
          rw [hvouched]
          exact hw
        · rw [if_neg ha]
          exact wp_pure (hnowhere _ _ _ hs₁)

end Gate

/-! ## Content -/

/-- An invariant that the handling of a deposit as content keeps. -/
structure KeptByHandling (B : Backend ω) (d : Deposit) (W : World ω → Prop) : Prop where
  answers : KeptByAnswers W
  request : d.kind = some .connectRequest → ∀ p a, Holds W
    (handleIncomingConnectRequest B.links (B.connectRequest p) a)

section Content

variable {B : Backend ω} {A W : World ω → Prop} {d : Deposit} {r : Resolved}
  {s : State (Audited (Groups.World (World ω)))} {re : Reentry (Audited (Groups.World (World ω)))}

theorem KeptByMoves.handling (hW : KeptByMoves (fun _ => True) W) : KeptByHandling B d W :=
  ⟨hW.answers, fun _ _ a => keeps_handleIncomingConnectRequest hW trivial a⟩

theorem KeptByHandling.and (hW : KeptByHandling B d W) (hA : KeptByHandling B d A) :
    KeptByHandling B d fun w => W w ∧ A w where
  answers := hW.answers.and hA.answers
  request hk p a := by
    refine keeps_of_wp fun w hw => ?_
    exact wp_imp (wp_and ((hW.request hk p a).wp hw.1) ((hA.request hk p a).wp hw.2))
      (fun _ _ h => ⟨⟨h.1.1, h.2.1⟩, trivial⟩)

/-- The acceptance of a request leaves its sender somebody that the gate lets in. -/
theorem mayWrite_handling {a : String} (hk : d.kind = some .connectAccepted) :
    KeptByHandling B d (MayWrite a) :=
  ⟨mayWrite_answers, fun hk' => absurd (hk.symm.trans hk') (by decide)⟩

variable (ids : ThreadIds (audited (server B)))

/-- What is held back was sent to a group. -/
theorem named_of_deferrable (hr : Located (audited (server B)) d r)
    (hdefer : Deferrable d r.thread) : (ids.groupOf d.payloadThreadId).isSome = true := by
  obtain ⟨-, t, ht, htype⟩ := hdefer
  have hgroup : ids.groupOf r.threadId = some (trim t.groupId) := by
    rw [ids.groupOf_located hr, ht, Option.bind_some, group, if_pos htype]
  rw [← ids.named hr hgroup, hgroup]
  rfl

theorem holdable_of_deferrable (hframed : Framed (audited (server B)) d)
    (hk : ∀ k, d.kind = some k → k.controls = false)
    (hsincere : Sincere d ∨ ids.groupOf d.payloadThreadId = none)
    (hr : Located (audited (server B)) d r) (hdefer : Deferrable d r.thread) :
    Holdable B ids.groupOf d := by
  have hnamed := named_of_deferrable ids hr hdefer
  refine ⟨hframed, hk, hsincere.resolve_right fun hnone => ?_, hnamed⟩
  rw [hnone] at hnamed
  exact absurd hnamed (by decide)

theorem keepsContent_consent (hW : KeptByHandling B d W)
    (hlaw : ∀ w : Groups.World (World ω), W w.rest → ConsentLaw ids.groupOf d r.threadId w) :
    KeepsContent (audited (server B)) d r (ConsentBooks B ids.groupOf W) :=
  keepsContent_of
    (fun k p hdk => contentCalls_server hW.answers fun hreq a =>
      hW.request (hdk.trans (by rw [hreq])) p a)
    (fun row => filed_server hW.answers.rest row) (filingCalls_server hW.answers.rest) hlaw

/-- What is done for a deposit once its thread is known is in accordance with the law if `W`
says so. -/
theorem keeps_onward_consent (hW : KeptByHandling B d W) (redelivering : Bool)
    (hh : handled d = true) (hr : Located (audited (server B)) d r)
    (hhold : Deferrable d r.thread → Holdable B ids.groupOf d)
    (hlaw : foreignDirectThread d r.thread = false → ∀ w : Groups.World (World ω), W w.rest →
      ConsentLaw ids.groupOf d r.threadId w)
    (hentry : foreignDirectThread d r.thread = false → ∀ k p, d.kind = some k →
      d.payload = some p → ∀ s, ConsentBooks B ids.groupOf W s → Noted d s →
      wp (dispatchEntry (audited (server B)) re k p (dispatchCtx d r))
        (fun _ s' => ConsentBooks B ids.groupOf W s' ∧ True) (ConsentBooks B ids.groupOf W)
        (ConsentBooks B ids.groupOf W) s) :
    Holds (ConsentBooks B ids.groupOf W) (do
      let passed ← passGates (audited (server B)) redelivering d r
      match passed with
      | .error disposition => pure ⟨disposition, r.failed⟩
      | .ok admission => applyAdmitted (audited (server B)) re d r admission) := by
  refine keeps_onward redelivering hh hr ?_ (fun hdefer s g hs => hs.deferred (hhold hdefer) g _)
    (fun hown => keepsAdmission_of (fun _ => admitCalls_server hW.answers.rest) (hlaw hown))
    (fun hown => keepsContent_consent ids hW (hlaw hown)) hentry
  exact fun hown => (keeps_evaluateGroupGate redelivering _).mono fun _ _ _ => hown

/-- **The handling of a deposit**, if it is in order once its thread is known. -/
theorem wp_handleWith_consent (hW : KeptByAnswers W) (hs : ConsentBooks B ids.groupOf W s)
    (hframed : Framed (audited (server B)) d)
    (hactive : d.payloadSender ≠ "" → ∀ w, ActiveContact d.vouchedSender w → A w)
    (hsafe : SafelySought d s.world.world.rest)
    (hnamed : d.payloadThreadId ≠ "" → ∀ t,
      (server B).getThread s.world.world d.payloadThreadId = some t → t.threadType = .direct →
      foreignDirectThread d (some t) = false → A s.world.world.rest)
    (redelivering : Bool)
    (honward : handled d = true → ∀ r s', Located (audited (server B)) d r →
      ConsentBooks B ids.groupOf (fun w => W w ∧ ResolvedWith A ids.groupOf d r w) s' →
      wp (do
          let passed ← passGates (audited (server B)) redelivering d r
          match passed with
          | .error disposition => pure ⟨disposition, r.failed⟩
          | .ok admission => applyAdmitted (audited (server B)) re d r admission)
        (fun _ => ConsentBooks B ids.groupOf W) (ConsentBooks B ids.groupOf W)
        (ConsentBooks B ids.groupOf W) s') :
    wp (handleWith (audited (server B)) re redelivering d)
      (fun _ => ConsentBooks B ids.groupOf W) (ConsentBooks B ids.groupOf W)
      (ConsentBooks B ids.groupOf W) s := by
  unfold handleWith
  suffices h : wp (applyDeposit (audited (server B)) re redelivering d)
      (fun _ => ConsentBooks B ids.groupOf W) (ConsentBooks B ids.groupOf W)
      (ConsentBooks B ids.groupOf W) s by
    refine wp_bind (wp_imp h (fun verdict s' hs' => ?_))
    exact wp_bind (wp_modify (wp_pure (hs'.noted _)))
  unfold applyDeposit
  by_cases hh : handled d = true
  · rw [if_pos hh]
    refine wp_bind (wp_imp
      (wp_resolveThread ids hW hs hframed hactive hsafe hnamed) ?_)
    rintro r s' ⟨hs', hr⟩
    exact honward hh r s' hr hs'
  · rw [if_neg hh]
    exact wp_pure hs

/-- **The thread is direct, or the law says nothing of it.** In the first case `A` may be
used. -/
theorem wp_onward_consent (hW : KeptByHandling B d W) (hA : KeptByHandling B d A)
    (hmay : ∀ w, A w → Consents d w) (redelivering : Bool) (hh : handled d = true)
    (hr : Located (audited (server B)) d r)
    (hhold : Deferrable d r.thread → Holdable B ids.groupOf d)
    (hentry : ∀ V : World ω → Prop, KeptByHandling B d V → (∀ w, V w → W w) →
      (foreignDirectThread d r.thread = false → ∀ w : Groups.World (World ω), V w.rest →
        ConsentLaw ids.groupOf d r.threadId w) →
      foreignDirectThread d r.thread = false → ∀ k p, d.kind = some k → d.payload = some p →
      ∀ s, ConsentBooks B ids.groupOf V s → Noted d s →
      wp (dispatchEntry (audited (server B)) re k p (dispatchCtx d r))
        (fun _ s' => ConsentBooks B ids.groupOf V s' ∧ True) (ConsentBooks B ids.groupOf V)
        (ConsentBooks B ids.groupOf V) s)
    (hs : ConsentBooks B ids.groupOf (fun w => W w ∧ ResolvedWith A ids.groupOf d r w) s) :
    wp (do
        let passed ← passGates (audited (server B)) redelivering d r
        match passed with
        | .error disposition => pure ⟨disposition, r.failed⟩
        | .ok admission => applyAdmitted (audited (server B)) re d r admission)
      (fun _ => ConsentBooks B ids.groupOf W) (ConsentBooks B ids.groupOf W)
      (ConsentBooks B ids.groupOf W) s := by
  by_cases hdirect : foreignDirectThread d r.thread = false ∧ r.threadId ≠ "" ∧
      ids.groupOf r.threadId = none
  · have hstart : ConsentBooks B ids.groupOf (fun w => W w ∧ A w) s :=
      Booked.mono hs fun w hw => ⟨hw.1, hw.2 hdirect.1 hdirect.2.1 hdirect.2.2⟩
    have hlaw : foreignDirectThread d r.thread = false → ∀ w : Groups.World (World ω),
        W w.rest ∧ A w.rest → ConsentLaw ids.groupOf d r.threadId w :=
      fun _ w hw _ _ => hmay w.rest hw.2
    have hkept := keeps_onward_consent ids (hW.and hA) redelivering hh hr hhold hlaw
      (hentry _ (hW.and hA) (fun _ hw => hw.1) hlaw)
    exact wp_mono (hkept.wp hstart) (fun _ _ h => ConsentBooks.left h.1)
      (fun _ h => ConsentBooks.left h) (fun _ h => ConsentBooks.left h)
  · have hlaw : foreignDirectThread d r.thread = false → ∀ w : Groups.World (World ω),
        W w.rest → ConsentLaw ids.groupOf d r.threadId w :=
      fun hown w _ hne hnone => absurd ⟨hown, hne, hnone⟩ hdirect
    have hkept := keeps_onward_consent ids hW redelivering hh hr hhold hlaw
      (hentry W hW (fun _ hw => hw) hlaw)
    exact wp_imp (hkept.wp (ConsentBooks.left hs)) (fun _ _ h => h.1)

/-- **The handling of content.** -/
theorem wp_handleContent (hW : KeptByHandling B d W) (hA : KeptByHandling B d A)
    (hs : ConsentBooks B ids.groupOf W s) (hframed : Framed (audited (server B)) d)
    (hk : ∀ k, d.kind = some k → k.controls = false)
    (hactive : ∀ w, ActiveContact d.vouchedSender w → A w) (hmay : ∀ w, A w → Consents d w)
    (hsincere : Sincere d ∨ ids.groupOf d.payloadThreadId = none)
    (hsafe : SafelySought d s.world.world.rest)
    (hnamed : ∀ t, (server B).getThread s.world.world d.payloadThreadId = some t →
      t.threadType = .direct → foreignDirectThread d (some t) = false → A s.world.world.rest)
    (redelivering : Bool) :
    wp (handleWith (audited (server B)) re redelivering d)
      (fun _ => ConsentBooks B ids.groupOf W) (ConsentBooks B ids.groupOf W)
      (ConsentBooks B ids.groupOf W) s := by
  refine wp_handleWith_consent ids hW.answers hs hframed (fun _ => hactive) hsafe (fun _ => hnamed)
    redelivering ?_
  intro hh r s' hr hs'
  refine wp_onward_consent ids hW hA hmay redelivering hh hr
    (holdable_of_deferrable ids hframed hk hsincere hr) ?_ hs'
  intro V hV _ hlaw hown k p hdk hp s hs hnoted
  exact keeps_dispatchEntry_noted (keepsContent_consent ids hV (hlaw hown)) hdk hp (hk k hdk) hs
    hnoted

/-- A deposit that was held back is applied once more. -/
theorem keeps_reapply_consent (hd : Holdable B ids.groupOf d) :
    Holds (ConsentBooks B ids.groupOf fun _ => True) (reapply (audited (server B)) d) := by
  unfold reapply
  refine keeps_bind (Q := fun _ => True) (keeps_of_wp fun s hs => ?_)
    fun _ _ => holds_pure
  have hnamed : ∀ t, (server B).getThread s.world.world d.payloadThreadId = some t →
      t.threadType = .direct → foreignDirectThread d (some t) = false →
      ActiveContact d.vouchedSender s.world.world.rest := by
    -- it names the thread of a group
    intro t ht htype _
    have hgroup : ids.groupOf d.payloadThreadId = t.group :=
      ids.stored s.world d.payloadThreadId t ht
    rw [group, if_neg (by rw [htype]; decide)] at hgroup
    have hsome := hd.named
    rw [hgroup] at hsome
    exact absurd hsome (by decide)
  refine wp_imp (wp_handleContent ids (keptByMoves_const True).handling active_moves.handling
    hs hd.framed hd.content (fun _ h => h) (fun _ h => .inl h) (.inl hd.sincere)
    (.inl hd.sincere) hnamed true) ?_
  exact fun _ _ h => ⟨h, trivial⟩

theorem keeps_flush_consent (groupId joiner : String) :
    Holds (ConsentBooks B ids.groupOf fun _ => True)
      ((freshReentry (audited (server B))).flushDeferredGroupMessages groupId joiner) :=
  keeps_flush_of (fun _ key bucket hs hb => hs.held key bucket hb) (fun _ key hs => hs.flushed key)
    (fun _ hd => keeps_reapply_consent ids hd) groupId joiner

end Content

end RezChat.Contacts
