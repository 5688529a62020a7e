/-
What inbound events can do to a contact.

Whatever handler an inbound event reaches, there are few things it can do to the
contacts and the requests: make a contact active that was active, or that we had asked to
connect, or whose invite it accepts; show an account as invited that was neither active nor
blocked; change a row and leave its state; store an incoming request; drop a request. An
invariant that these moves keep is kept by every handler (`KeptByMoves`), so what a handler
does in detail is gone through once, here. The name of a co-member is one more move
(`KeptByNames`).
-/
import RezChat.Contacts.Service

set_option autoImplicit false

namespace RezChat.Contacts

open Inbox (trim trim_trim)
open ContactsService ContactStore ChatContact
open Proc

variable {ω α : Type}

/-- An invariant that the acceptance of an invite keeps; `minted` are the accounts whose
invites are accepted. -/
structure KeptByInvites (minted : String → Prop) (W : World ω → Prop) : Prop where
  rest : ∀ s w, W s → W (putRest w s)
  accepted : ∀ s a (c : ChatContact), W s → c.relationshipState = .active → minted a →
    W (s.withContact a c)

/-- An invariant that the moves of inbound events keep. -/
structure KeptByMoves (minted : String → Prop) (W : World ω → Prop) : Prop
    extends KeptByInvites minted W where
  activated : ∀ s a (c : ChatContact), W s → c.relationshipState = .active →
    (s.standing a = some .active ∨ s.PendingOutgoing a) → W (s.withContact a c)
  invited : ∀ s a (c : ChatContact), W s → c.relationshipState = .invited →
    s.standing a ≠ some .active → s.standing a ≠ some .blocked → W (s.withContact a c)
  touched : ∀ s a (c : ChatContact), W s → s.standing a = some c.relationshipState →
    W (s.withContact a c)
  requested : ∀ s a (r : ConnectRequest), W s → r.direction = .incoming → W (s.withRequest a r)
  resolved : ∀ s a, W s → W (s.withoutRequest a)

/-- An invariant that the answers to our own requests keep: the account that answers
becomes an active contact, and only then is the request dropped. -/
structure KeptByAnswers (W : World ω → Prop) : Prop where
  rest : ∀ s w, W s → W (putRest w s)
  activated : ∀ s a (c : ChatContact), W s → c.relationshipState = .active →
    (s.standing a = some .active ∨ s.PendingOutgoing a) → W (s.withContact a c)
  touched : ∀ s a (c : ChatContact), W s → s.standing a = some c.relationshipState →
    W (s.withContact a c)
  answered : ∀ s a, W s → trim a ≠ "" → s.standing a = some .active → W (s.withoutRequest a)

/-- An invariant that the record of a co-member's name keeps. -/
structure KeptByNames (W : World ω → Prop) : Prop where
  misread : ∀ s a, W s → W { s with misread := a :: s.misread }
  named : ∀ s a (c : ChatContact), W s → c.relationshipState = .known →
    (s.standing a = none ∨ s.standing a = some .known ∨ trim a ∈ s.misread) →
    W (s.withContact a c)

section Kept

variable {minted : String → Prop} {V W : World ω → Prop}

theorem KeptByMoves.answers (hW : KeptByMoves minted W) : KeptByAnswers W :=
  ⟨hW.rest, hW.activated, hW.touched, fun s a hs _ _ => hW.resolved s a hs⟩

theorem KeptByMoves.and (hV : KeptByMoves minted V) (hW : KeptByMoves minted W) :
    KeptByMoves minted fun w => V w ∧ W w where
  rest s w h := ⟨hV.rest s w h.1, hW.rest s w h.2⟩
  accepted s b c h hc hb := ⟨hV.accepted s b c h.1 hc hb, hW.accepted s b c h.2 hc hb⟩
  activated s b c h hc hb := ⟨hV.activated s b c h.1 hc hb, hW.activated s b c h.2 hc hb⟩
  invited s b c h hc h₁ h₂ := ⟨hV.invited s b c h.1 hc h₁ h₂, hW.invited s b c h.2 hc h₁ h₂⟩
  touched s b c h hc := ⟨hV.touched s b c h.1 hc, hW.touched s b c h.2 hc⟩
  requested s b r h hr := ⟨hV.requested s b r h.1 hr, hW.requested s b r h.2 hr⟩
  resolved s b h := ⟨hV.resolved s b h.1, hW.resolved s b h.2⟩

/-- A family of invariants that the moves keep. -/
theorem KeptByMoves.forall {ι : Sort*} {W : ι → World ω → Prop}
    (h : ∀ i, KeptByMoves minted (W i)) : KeptByMoves minted fun w => ∀ i, W i w where
  rest s w hs i := (h i).rest s w (hs i)
  accepted s b c hs hc hb i := (h i).accepted s b c (hs i) hc hb
  activated s b c hs hc hb i := (h i).activated s b c (hs i) hc hb
  invited s b c hs hc h₁ h₂ i := (h i).invited s b c (hs i) hc h₁ h₂
  touched s b c hs hc i := (h i).touched s b c (hs i) hc
  requested s b r hs hr i := (h i).requested s b r (hs i) hr
  resolved s b hs i := (h i).resolved s b (hs i)

/-- A fact about nothing that moves. -/
theorem keptByMoves_const (P : Prop) : KeptByMoves minted fun _ : World ω => P := by
  constructor
  · exact ⟨fun _ _ h => h, fun _ _ _ h _ _ => h⟩
  all_goals intros; assumption

theorem KeptByMoves.also (h : KeptByMoves minted W) (P : Prop) :
    KeptByMoves minted fun w => W w ∧ P := h.and (keptByMoves_const P)

theorem KeptByNames.also (h : KeptByNames W) (P : Prop) : KeptByNames fun w => W w ∧ P where
  misread s b hs := ⟨h.misread s b hs.1, hs.2⟩
  named s b c hs hc hb := ⟨h.named s b c hs.1 hc hb, hs.2⟩

theorem KeptByAnswers.and (hV : KeptByAnswers V) (hW : KeptByAnswers W) :
    KeptByAnswers fun w => V w ∧ W w where
  rest s w h := ⟨hV.rest s w h.1, hW.rest s w h.2⟩
  activated s b c h hc hb := ⟨hV.activated s b c h.1 hc hb, hW.activated s b c h.2 hc hb⟩
  touched s b c h hc := ⟨hV.touched s b c h.1 hc, hW.touched s b c h.2 hc⟩
  answered s b h hb ha := ⟨hV.answered s b h.1 hb ha, hW.answered s b h.2 hb ha⟩

end Kept

section Moves

variable {minted : String → Prop} {W : World ω → Prop} {L : Links ω} {s : World ω} {a : String}

theorem wp_now {R : Int → World ω → Prop} {E D : World ω → Prop} (hR : ∀ t, R t s) :
    wp (now L) R E D s :=
  wp_bind (wp_get (wp_pure (hR _)))

theorem keeps_now : Holds W (now L) :=
  keeps_last keeps_get

theorem keeps_passOver {p : Proc (World ω) Unit} (h : Holds W p) :
    Holds W (passOver p) :=
  keeps_tryCatch (keeps_last h)
    (holds_pure)

/-- A call that is passed over ends as it would have ended. -/
theorem wp_passOver {p : Proc (World ω) Unit} {R : World ω → Prop} {D : World ω → Prop}
    (h : wp p (fun _ => R) R D s) {E : World ω → Prop} :
    wp (passOver p) (fun _ => R) E D s := by
  unfold passOver
  refine wp_tryCatch (wp_bind (wp_mono h ?_ ?_ (fun _ hd => hd)))
  · exact fun _ s' hs' => wp_pure hs'
  · exact fun s' hs' => wp_pure hs'

/-- **A contact is made active** where that is a move. -/
theorem wp_ensureActiveContact {displayName : String} (hs : W s)
    (ha : ∀ c : ChatContact, c.relationshipState = .active → W (s.withContact a c)) :
    wp (ensureActiveContact L a displayName) (fun _ => W) W W s := by
  unfold ensureActiveContact
  split
  · exact wp_pure hs
  · refine wp_bind (wp_now fun nowMs => upsert_spec (fun c hc => ?_) hs hs)
    exact ⟨ha c hc, ha c hc⟩

/-- An account that is neither active nor blocked is shown as invited. -/
theorem keeps_upsertInvitedContact
    (hinvited : ∀ s (c : ChatContact), W s → c.relationshipState = .invited →
      s.standing a ≠ some .active → s.standing a ≠ some .blocked → W (s.withContact a c))
    (displayName : String) :
    Holds W (upsertInvitedContact L a displayName) := by
  refine keeps_of_wp fun s hs => ?_
  unfold upsertInvitedContact
  refine wp_bind (get_spec ?_ hs hs)
  by_cases hrow : (s.contact a).map relationshipState = some .active ∨
      (s.contact a).map relationshipState = some .blocked
  · rw [if_pos hrow]
    exact wp_pure ⟨hs, trivial⟩
  · rw [if_neg hrow]
    rw [not_or] at hrow
    refine wp_bind (wp_now fun nowMs => upsert_spec (fun c hc => ?_) hs hs)
    have hkept : W (s.withContact a c) := hinvited s c hs hc hrow.1 hrow.2
    exact ⟨⟨hkept, trivial⟩, hkept⟩

/-! ## Invites -/

section Rest

variable (hrest : ∀ s w, W s → W (putRest w s))
include hrest

theorem keeps_inRest (p : Proc ω α) : Holds W (inRest p) :=
  keeps_zoom hrest

theorem keeps_firstDirectThread :
    Holds W (firstDirectThread L a) := by
  unfold firstDirectThread
  exact keeps_last (keeps_tryCatch (keeps_inRest hrest _) (holds_pure))

end Rest

section Invites

variable (hW : KeptByInvites minted W)
include hW

/-- The account whose invite is accepted becomes an active contact. -/
theorem keeps_ensureActiveContact (ha : minted a) (displayName : String) :
    Holds W (ensureActiveContact L a displayName) :=
  keeps_of_wp fun s hs => wp_imp
    (wp_ensureActiveContact hs fun c hc => hW.accepted s a c hs hc ha)
    (fun _ _ h => ⟨h, trivial⟩)

/-- The acceptance of an invite. -/
theorem keeps_acceptInvite {inviteCode : String} (hminted : minted (L.creatorOf (trim inviteCode)))
    (forceReestablish : Bool) :
    Holds W (acceptInvite L inviteCode forceReestablish) := by
  unfold acceptInvite
  split
  · exact holds_throw
  · refine keeps_seq (keeps_inRest hW.rest _) fun envelope => ?_
    have hensure : Holds W (ensureInviter L (trim inviteCode) envelope) := by
      unfold ensureInviter
      split
      · exact holds_pure
      · exact keeps_passOver (keeps_ensureActiveContact hW hminted _)
    refine keeps_seq hensure fun failed => ?_
    exact keeps_last (keeps_inRest hW.rest _)

theorem keeps_announceConnectAccepted (acceptorDisplayName : String) :
    Holds W (announceConnectAccepted L a acceptorDisplayName) := by
  unfold announceConnectAccepted
  refine keeps_seq keeps_now fun nowMs => ?_
  refine keeps_seq (keeps_firstDirectThread hW.rest) fun threadId => ?_
  have hshown : Holds W (showAccepted L threadId L.ownerAccountId acceptorDisplayName nowMs) := by
    unfold showAccepted
    split
    · exact keeps_inRest hW.rest _
    · exact holds_pure
  exact keeps_seq hshown fun _ => keeps_passOver (keeps_inRest hW.rest _)

end Invites

/-! ## The handlers -/

section Answers

variable (hW : KeptByAnswers W)
include hW

/-- An acceptance of our own request. -/
theorem keeps_acceptOutgoingConnectRequest (displayName : String) :
    Holds W (acceptOutgoingConnectRequest L a displayName) := by
  refine keeps_of_wp fun s hs => ?_
  unfold acceptOutgoingConnectRequest
  by_cases ha : trim a = ""
  · rw [if_pos ha]
    exact wp_pure ⟨hs, trivial⟩
  rw [if_neg ha]
  refine wp_bind (getRequest_spec ?_ hs hs)
  split
  · exact wp_pure ⟨hs, trivial⟩
  · rename_i r hr
    by_cases hpending : r.direction = .outgoing ∧ r.state = .pending
    · rw [if_pos hpending]
      have hasked : s.PendingOutgoing a := ⟨r, hr, hpending⟩
      unfold ensureActiveContact
      rw [if_neg ha]
      refine wp_bind (wp_bind (wp_now fun nowMs => upsert_spec (fun c hc => ?_) hs hs))
      have hkept : W (s.withContact a c) := hW.activated s a c hs hc (.inr hasked)
      refine ⟨?_, hkept⟩
      -- the account is an active contact by now
      have hactive : (s.withContact a c).standing a = some .active := by
        rw [World.standing_withContact, if_pos rfl, hc]
        rfl
      have hdropped : W ((s.withContact a c).withoutRequest a) :=
        hW.answered _ a hkept ha hactive
      exact wp_bind (deleteRequest_spec
        (fun _ => ⟨wp_pure ⟨hdropped, trivial⟩, hdropped⟩) hkept hkept)
    · rw [if_neg hpending]
      exact wp_pure ⟨hs, trivial⟩

/-- **The acceptance of a request of ours**, as its handler sees it. -/
theorem keeps_handleIncomingConnectAccepted (record : ConnectAcceptedRecord)
    (sender threadId : String) :
    Holds W (handleIncomingConnectAccepted L record sender threadId) := by
  have hname : Holds W (recordAcceptorName L (trim sender) record.acceptorDisplayName) := by
    unfold recordAcceptorName
    split
    · exact holds_pure
    · refine keeps_seq (keeps_tryCatch (keeps_acceptOutgoingConnectRequest hW _)
        (holds_pure)) fun named => ?_
      split
      · exact holds_pure
      · -- what is read is what is written back
        refine keeps_of_wp fun s hs => wp_bind (wp_tryCatch (get_spec ?_ ?_ hs))
        · by_cases hactive : (s.contact (trim sender)).map relationshipState =
              some .active
          · rw [if_pos hactive]
            refine wp_passOver (R := fun s => W s ∧ True) ?_
            exact wp_mono (wp_ensureActiveContact hs fun c hc =>
              hW.activated s _ c hs hc (.inl hactive))
              (fun _ _ h => ⟨h, trivial⟩) (fun _ h => ⟨h, trivial⟩) (fun _ h => h)
          · rw [if_neg hactive]
            exact wp_pure ⟨hs, trivial⟩
        · exact wp_pure (wp_pure ⟨hs, trivial⟩)
  unfold handleIncomingConnectAccepted
  dsimp only
  split
  · exact holds_pure
  · have hthread : Holds W (acceptedThread L (trim sender) threadId) := by
      unfold acceptedThread
      split
      · exact holds_pure
      · exact keeps_firstDirectThread hW.rest
    refine keeps_seq hthread fun resolved => ?_
    split
    · exact holds_pure
    · refine keeps_seq hname fun _ => ?_
      exact keeps_last (keeps_inRest hW.rest _)

/-- **A profile** leaves the state of its contact as it is. -/
theorem keeps_handleIncomingProfile (profile : Profile) (sender : String) :
    Holds W (handleIncomingProfile L profile sender) := by
  refine keeps_of_wp fun s hs => ?_
  unfold handleIncomingProfile
  by_cases hsender : trim sender = ""
  · rw [if_pos hsender]
    exact wp_pure ⟨hs, trivial⟩
  rw [if_neg hsender]
  refine wp_bind (get_spec ?_ hs hs)
  split
  · exact wp_pure ⟨hs, trivial⟩
  · rename_i c hc
    have hstanding : s.standing sender = some c.relationshipState := by
      rw [World.standing, hc, Option.map_some]
    split
    · exact wp_pure ⟨hs, trivial⟩
    · refine wp_bind (wp_now fun nowMs => wp_bind (upsert_spec (fun c' hc' => ?_) hs hs))
      have hkept : W (s.withContact sender c') := by
        refine hW.touched s sender c' hs ?_
        rw [hc', hstanding]
        rfl
      exact ⟨wp_pure ⟨hkept, trivial⟩, hkept⟩

end Answers

variable (hW : KeptByMoves minted W)
include hW

/-- **An incoming connect request.** The only account it makes active is the one that its
invite code commits to, and only if its sender is active. -/
theorem keeps_handleIncomingConnectRequest {record : ConnectRequestRecord}
    (hminted : minted (L.creatorOf (trim record.inviteCode))) (sender : String) :
    Holds W (handleIncomingConnectRequest L record sender) := by
  unfold handleIncomingConnectRequest
  dsimp only
  split
  · exact holds_pure
  · refine keeps_bind (Q := fun _ => True) ?_ fun existing _ => ?_
    · exact keeps_of_wp fun s hs => get_spec ⟨hs, trivial⟩ hs hs
    split
    · -- an active contact that asks again
      refine keeps_bind (Q := fun _ => True) ?_ fun _ _ => holds_pure
      unfold autoReconnectActiveRequester
      refine keeps_seq keeps_get fun s' => ?_
      refine keeps_seq (keeps_acceptInvite hW.toKeptByInvites hminted true) fun _ => ?_
      exact keeps_last (keeps_announceConnectAccepted hW.toKeptByInvites _)
    · split
      · exact holds_pure
      · have hallowed : Holds W (requesterAllowed L (trim sender) existing) := by
          unfold requesterAllowed
          split
          · exact holds_pure
          · exact keeps_tryCatch (keeps_inRest hW.rest _) (holds_pure)
        refine keeps_seq hallowed fun allowed => ?_
        split
        · refine keeps_bind (Q := fun _ => True) ?_ fun _ _ => holds_pure
          unfold storeConnectRequest
          refine keeps_seq keeps_now fun nowMs => ?_
          refine keeps_seq (keeps_of_wp (Q := fun _ => True) fun s hs =>
            upsertRequest_spec (fun r hdir _ => ?_) hs hs) fun _ => ?_
          · have hkept : W (s.withRequest (trim sender) r) := hW.requested s _ r hs hdir
            exact ⟨⟨hkept, trivial⟩, hkept⟩
          · exact keeps_upsertInvitedContact (fun s => hW.invited s _) _
        · exact holds_pure

end Moves

section Names

variable {W : World ω → Prop} {L : Links ω}

/-- **The name of a co-member** is recorded in a row of its own only. -/
theorem keeps_ensureKnownAccount (hW : KeptByNames W) (accountId displayName : String) :
    Holds W (ensureKnownAccount L accountId displayName) := by
  refine keeps_of_wp fun s hs => ?_
  unfold ensureKnownAccount
  split
  · exact wp_pure ⟨hs, trivial⟩
  · -- the row is written if it was not there, was a name only, or was not read
    have hwrite : ∀ s' : World ω, W s' → (s'.standing accountId = none ∨
        s'.standing accountId = some .known ∨ trim accountId ∈ s'.misread) →
        wp (do
          let nowMs ← now L
          upsert accountId ⟨some .known, some (trim displayName), none, none⟩ nowMs)
          (fun _ s'' => W s'' ∧ True) W W s' := by
      intro s' hs' hmay
      refine wp_bind (wp_now fun nowMs => upsert_spec (fun c hc => ?_) hs' hs')
      have hkept : W (s'.withContact accountId c) := hW.named s' accountId c hs' hc hmay
      exact ⟨⟨hkept, trivial⟩, hkept⟩
    refine wp_bind (wp_tryCatch (get_spec ?_ ?_ hs))
    · by_cases hkeep : keepsRow (s.contact accountId) (trim displayName) = true
      · rw [if_pos hkeep]
        exact wp_pure ⟨hs, trivial⟩
      · rw [if_neg hkeep]
        refine hwrite s hs ?_
        unfold keepsRow at hkeep
        split at hkeep
        · rename_i c hc
          rw [Bool.or_eq_true, decide_eq_true_eq, decide_eq_true_eq, not_or, not_not] at hkeep
          refine .inr (.inl ?_)
          rw [World.standing, hc, Option.map_some, hkeep.1]
        · rename_i hnone
          exact .inl (by rw [World.standing, hnone, Option.map_none])
    · refine wp_bind (wp_modify (wp_pure ?_))
      rw [if_neg (by simp [keepsRow])]
      exact hwrite _ (hW.misread s _ hs) (.inr (.inr List.mem_cons_self))

end Names

end RezChat.Contacts
