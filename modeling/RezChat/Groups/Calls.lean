/-
The applier of group ops, seen from the services it calls.

An invariant of what is behind the applier is kept by every group op if every call of the
applier keeps it: the group store is no part of it. And the services that the applier
calls can be put over a part of a bigger world.
-/
import RezChat.Groups.Applier

set_option autoImplicit false

namespace RezChat.Groups

open Inbox (trim)
open GroupStore Applier
open Proc

variable {ω τ α : Type}

/-- Every call of the applier keeps an invariant of the world behind it. -/
structure PeerCalls (p : Peers ω) (W : ω → Prop) : Prop where
  authorize : ∀ i a n, Holds W (p.authorizeInviteJoin i a n)
  known : ∀ a n, Holds W (p.ensureKnownAccount a n)
  title : ∀ g t, Holds W (p.ensureThreadTitle g t)
  lock : ∀ g, Holds W (p.lockThread g)
  joined : ∀ j o n, Holds W (p.persistJoinSystemMessage j o n)
  store : ∀ h d, Holds W (p.storeFile h d)
  members : ∀ g, Holds W (p.emitMembersUpdated g)
  group : ∀ g, Holds W (p.emitGroupUpdated g)
  channel : ∀ o a b, Holds W (p.applyChannelOp o a b)
  sync : ∀ o a, Holds W (p.answerSyncRequest o a)
  bootstrap : ∀ a i w, W w → W (p.bootstrapCoMemberLink a i w)

/-- The same services, over the part of the world that `view` shows. -/
def Peers.over (view : τ → ω) (put : ω → τ → τ) (p : Peers ω) : Peers τ where
  ownerAccountId := p.ownerAccountId
  authority := p.authority
  verifyMemberJoinProof := p.verifyMemberJoinProof
  getStoredInviteEnvelope w := p.getStoredInviteEnvelope (view w)
  authorizeInviteJoin i a n := zoom view put (p.authorizeInviteJoin i a n)
  ensureKnownAccount a n := zoom view put (p.ensureKnownAccount a n)
  ensureThreadTitle g t := zoom view put (p.ensureThreadTitle g t)
  lockThread g := zoom view put (p.lockThread g)
  persistJoinSystemMessage j o n := zoom view put (p.persistJoinSystemMessage j o n)
  fileTransfer := p.fileTransfer
  storeFile h d := zoom view put (p.storeFile h d)
  emitMembersUpdated g := zoom view put (p.emitMembersUpdated g)
  emitGroupUpdated g := zoom view put (p.emitGroupUpdated g)
  applyChannelOp o a b := zoom view put (p.applyChannelOp o a b)
  answerSyncRequest o a := zoom view put (p.answerSyncRequest o a)
  bootstrapCoMemberLink a i w := put (p.bootstrapCoMemberLink a i (view w)) w

/-- Calls over a part of the world keep what does not look at that part. -/
theorem peerCalls_over {view : τ → ω} {put : ω → τ → τ} {p : Peers ω} {W : τ → Prop}
    (h : ∀ t w, W t → W (put w t)) : PeerCalls (p.over view put) W where
  authorize _ _ _ := keeps_zoom h
  known _ _ := keeps_zoom h
  title _ _ := keeps_zoom h
  lock _ := keeps_zoom h
  joined _ _ _ := keeps_zoom h
  store _ _ := keeps_zoom h
  members _ := keeps_zoom h
  group _ := keeps_zoom h
  channel _ _ _ := keeps_zoom h
  sync _ _ := keeps_zoom h
  bootstrap _ _ w hw := h w _ hw

section Keeps

variable {W : ω → Prop}

/-- An invariant of what is behind the group store. -/
abbrev Behind (W : ω → Prop) : World ω → Prop := fun s => W s.rest

theorem behind_inRest {q : Proc ω α} (h : Holds W q) :
    Holds (Behind W) (inRest q) :=
  keeps_of_wp fun _ hs => wp_zoom (h.wp hs)

theorem behind_passOver {q : Proc ω Unit} (h : Holds W q) :
    Holds (Behind W) (passOver q) :=
  keeps_tryCatch (keeps_last (behind_inRest h))
    (holds_pure)

theorem behind_orElse {q : Proc (World ω) α} {fallback : α}
    (h : Holds (Behind W) q) :
    Holds (Behind W) (orElse q fallback) :=
  keeps_tryCatch h (holds_pure)

/-! ## The store -/

theorem behind_await {f : World ω → α × World ω} (h : ∀ s, (f s).2.rest = s.rest) :
    Holds (Behind W) (await f) := by
  refine keeps_of_wp fun s hs => ?_
  have hw : W (f s).2.rest := by rwa [h s]
  exact wp_await ⟨hw, trivial⟩ hs hw hs

theorem behind_withIds {g a : String} {q : Proc (World ω) α}
    (h : Holds (Behind W) q) :
    Holds (Behind W) (withIds g a q) := by
  unfold withIds
  split
  · exact holds_throw
  · exact h

theorem behind_readRow (g a : String) :
    Holds (Behind W) (readRow g a) := behind_await fun _ => rfl

theorem behind_writeRow (g a : String) (m : ChatGroupMember) :
    Holds (Behind W) (writeRow g a m) := behind_await fun _ => rfl

theorem behind_getGroup (g : String) :
    Holds (Behind W) (getGroup g) := by
  unfold getGroup
  split
  · exact holds_throw
  · exact behind_await fun _ => rfl

theorem behind_memberOf (g a : String) :
    Holds (Behind W) (memberOf g a) :=
  behind_orElse (behind_withIds (behind_readRow _ _))

theorem behind_ensureMembership (g a : String) (role : GroupRole) (name : String)
    (proof : Option JoinProof) (nowMs : Int) :
    Holds (Behind W) (ensureMembership g a role name proof nowMs) := by
  unfold ensureMembership
  refine behind_withIds (keeps_seq (behind_readRow _ _) fun existing => ?_)
  split
  · split
    · exact keeps_last (behind_writeRow _ _ _)
    · exact holds_pure
  · exact keeps_last (behind_writeRow _ _ _)

theorem behind_reviveMembership (g a : String) (role : GroupRole) (name : String)
    (proof : Option JoinProof) (nowMs : Int) :
    Holds (Behind W) (reviveMembership g a role name proof nowMs) := by
  unfold reviveMembership
  refine behind_withIds (keeps_seq (behind_readRow _ _) fun existing => ?_)
  split
  · split
    · exact keeps_last (behind_writeRow _ _ _)
    · exact holds_pure
  · exact holds_pure

theorem behind_updateRow (g a : String) (f : ChatGroupMember → ChatGroupMember) :
    Holds (Behind W) (updateRow g a f) := by
  unfold updateRow
  refine behind_withIds (keeps_seq (behind_readRow _ _) fun existing => ?_)
  split
  · exact keeps_last (behind_writeRow _ _ _)
  · exact holds_pure

theorem behind_setGroupAvatar (g hash : String) (nowMs : Int) :
    Holds (Behind W) (setGroupAvatar g hash nowMs) := by
  unfold setGroupAvatar updateGroup
  refine keeps_seq (behind_getGroup _) fun existing => ?_
  split
  · exact keeps_last (behind_await fun _ => rfl)
  · exact holds_pure

theorem behind_renameGroup (g title : String) (nowMs : Int) :
    Holds (Behind W) (renameGroup g title nowMs) := by
  unfold renameGroup
  refine keeps_seq (behind_getGroup _) fun existing => ?_
  split
  · split
    · exact holds_throw
    · exact keeps_last (behind_await fun _ => rfl)
  · exact holds_pure

/-! ## The handlers -/

variable {p : Peers ω} (hp : PeerCalls p W)

theorem behind_isCreator (g a : String) :
    Holds (Behind W) (isCreator g a) := by
  unfold isCreator
  split
  · exact holds_pure
  · exact keeps_last (behind_orElse (behind_getGroup _))

theorem behind_verifyConsent (g a name : String) (proof : Option JoinProof) :
    Holds (Behind W) (verifyConsent p g a name proof) := by
  unfold verifyConsent
  split
  · exact behind_await fun _ => rfl
  · exact holds_pure

include hp

theorem behind_emitUpdates (g : String) :
    Holds (Behind W) (emitUpdates p g) := by
  unfold emitUpdates
  refine keeps_seq (behind_inRest (hp.members g)) fun _ => ?_
  exact keeps_last (behind_inRest (hp.group g))

theorem behind_applyIncomingRename (op : GroupOp) (title : String) (nowMs : Int) :
    Holds (Behind W) (applyIncomingRename p op title nowMs) := by
  unfold applyIncomingRename
  refine keeps_seq (behind_orElse (behind_getGroup _)) fun existing => ?_
  split
  · exact holds_pure
  · refine keeps_seq (behind_renameGroup _ _ _) fun renamed => ?_
    split
    · exact behind_passOver (hp.title _ _)
    · exact holds_pure

theorem behind_storeAvatar (hash data : String) :
    Holds (Behind W) (storeAvatar p hash data) := by
  unfold storeAvatar
  split
  · exact holds_pure
  · split
    · exact behind_passOver (hp.store _ _)
    · exact holds_pure

theorem behind_applyIncomingSetAvatar (op : GroupOp) (hash data : String) (nowMs : Int) :
    Holds (Behind W) (applyIncomingSetAvatar p op hash data nowMs) := by
  unfold applyIncomingSetAvatar
  refine keeps_seq (behind_orElse (behind_getGroup _)) fun existing => ?_
  split
  · exact holds_pure
  · refine keeps_seq (behind_storeAvatar hp _ _) fun dropped => ?_
    split
    · exact holds_pure
    · exact keeps_last (behind_setGroupAvatar _ _ _)

theorem behind_applyIncomingGroupState (op : GroupOp) (title hash data : String) (nowMs : Int) :
    Holds (Behind W) (applyIncomingGroupState p op title hash data nowMs) := by
  have htitle : ∀ g, Holds (Behind W) (fillTitle p op g title nowMs) := by
    intro g
    unfold fillTitle
    split
    · refine keeps_seq (behind_renameGroup _ _ _) fun renamed => ?_
      split
      · exact behind_passOver (hp.title _ _)
      · exact holds_pure
    · exact holds_pure
  have havatar : ∀ g, Holds (Behind W) (fillAvatar p op g hash data nowMs) := by
    intro g
    unfold fillAvatar
    split
    · refine keeps_seq (behind_passOver (hp.store _ _)) fun dropped => ?_
      split
      · exact holds_pure
      · exact keeps_last (behind_setGroupAvatar _ _ _)
    · exact holds_pure
  unfold applyIncomingGroupState
  refine keeps_seq (behind_orElse (behind_getGroup _)) fun existing => ?_
  split
  · exact holds_pure
  · refine keeps_seq (htitle _) fun _ => keeps_seq (havatar _) fun _ => ?_
    exact keeps_last (behind_orElse (behind_getGroup _))

theorem behind_applyIncomingKick (op : GroupOp) (a : String) (nowMs : Int) :
    Holds (Behind W) (applyIncomingKick p op a nowMs) := by
  unfold applyIncomingKick
  refine keeps_seq (behind_isCreator _ _) fun founder => ?_
  split
  · exact holds_pure
  · refine keeps_seq (behind_updateRow _ _ _) fun removed => ?_
    split
    · split
      · exact behind_passOver (hp.lock _)
      · exact behind_emitUpdates hp _
    · exact holds_pure

theorem behind_applyIncomingSetRole (op : GroupOp) (a : String) (role : GroupRole) (nowMs : Int) :
    Holds (Behind W) (applyIncomingSetRole p op a role nowMs) := by
  unfold applyIncomingSetRole
  refine keeps_seq (behind_isCreator _ _) fun founder => ?_
  split
  · exact holds_pure
  · refine keeps_seq (behind_updateRow _ _ _) fun updated => ?_
    split
    · exact keeps_last (behind_inRest (hp.members _))
    · exact holds_pure

theorem behind_applyIncomingLeave (op : GroupOp) (a : String) (nowMs : Int) :
    Holds (Behind W) (applyIncomingLeave p op a nowMs) := by
  unfold applyIncomingLeave
  split
  · exact holds_pure
  · refine keeps_seq (behind_updateRow _ _ _) fun removed => ?_
    split
    · exact behind_emitUpdates hp _
    · exact holds_pure

theorem behind_letIn (op : GroupOp) (join : MemberJoin) (joiner sender : String)
    (existing : Option ChatGroupMember) (nowMs : Int) :
    Holds (Behind W) (letIn p op join joiner sender existing nowMs) := by
  unfold letIn
  split
  · unfold selfAnnounced
    refine keeps_bind (Q := fun _ => True) ?_ fun envelope _ => ?_
    · unfold resolveJoinInviteEnvelope
      exact keeps_last (behind_orElse (behind_await fun _ => rfl))
    · split
      · exact holds_pure
      · split
        · exact holds_pure
        · exact behind_orElse (behind_inRest (hp.authorize _ _ _))
  · unfold forwarded
    exact keeps_last (behind_memberOf _ _)

theorem behind_applyIncomingMemberJoin (op : GroupOp) (join : MemberJoin) (sender : String)
    (nowMs : Int) :
    Holds (Behind W) (applyIncomingMemberJoin p op join sender nowMs) := by
  have hadmits : ∀ joiner existing,
      Holds (Behind W) (admitJoiner op join joiner existing nowMs) := by
    intro joiner existing
    unfold admitJoiner
    split
    · exact keeps_tryCatch (keeps_last (behind_reviveMembership _ _ _ _ _ _)) (holds_pure)
    · exact keeps_tryCatch (keeps_last (behind_ensureMembership _ _ _ _ _ _)) (holds_pure)
  unfold applyIncomingMemberJoin
  dsimp only
  split
  · exact holds_pure
  · refine keeps_seq (behind_verifyConsent _ _ _ _) fun consentOk => ?_
    split
    · refine keeps_seq (behind_memberOf _ _) fun existing => ?_
      refine keeps_seq (behind_letIn hp _ _ _ _ _ _) fun admissible => ?_
      split
      · unfold recordJoin
        refine keeps_seq (hadmits _ _) fun ⟨changed, failed⟩ => ?_
        refine keeps_seq (behind_passOver (hp.known _ _)) fun _ => ?_
        refine keeps_bind (Q := fun _ => True) ?_ fun _ _ => holds_pure
        unfold announceJoin
        split
        · exact keeps_seq (behind_inRest (hp.members _)) fun _ =>
            behind_inRest (hp.joined _ _ _)
        · exact holds_pure
      · exact holds_pure
    · exact holds_pure

theorem behind_applyContact (op : GroupOp) (createdBy : String) (nowMs : Int) (acc : ContactTally)
    (contact : MemberContact) :
    Holds (Behind W) (applyContact p op createdBy nowMs acc contact) := by
  have hwarrant : ∀ g a, Holds (Behind W) (warrantOf p g createdBy a contact) := by
    intro g a
    unfold warrantOf
    split
    · split
      · exact keeps_last (behind_verifyConsent _ _ _ _)
      · exact holds_pure
    · exact keeps_last (behind_verifyConsent _ _ _ _)
  unfold applyContact
  dsimp only
  split
  · exact holds_pure
  · refine keeps_seq (hwarrant _ _) fun ⟨verified, proof⟩ => ?_
    dsimp only
    split
    · refine keeps_seq (keeps_tryCatch (Q := fun _ => True)
        (keeps_last (behind_ensureMembership _ _ _ _ _ _))
        (holds_pure)) fun ensured => ?_
      unfold introduce
      refine keeps_bind (Q := fun _ => True) ?_ fun unnamed _ => ?_
      · unfold recordName
        split
        · exact behind_passOver (hp.known _ _)
        · exact holds_pure
      · split
        · refine keeps_last (keeps_modify fun s hs => ?_)
          exact hp.bootstrap _ _ _ hs
        · exact holds_pure
    · exact holds_pure

theorem behind_applyIncomingMemberContact (op : GroupOp) (contacts : List MemberContact)
    (nowMs : Int) :
    Holds (Behind W) (applyIncomingMemberContact p op contacts nowMs) := by
  unfold applyIncomingMemberContact
  split
  · exact holds_pure
  · refine keeps_seq (behind_orElse (behind_getGroup _)) fun group => ?_
    refine keeps_seq (keeps_foldlM (fun acc contact _ =>
      behind_applyContact hp op _ nowMs acc contact) _) fun tally => ?_
    split
    · exact keeps_last (behind_inRest (hp.members _))
    · exact holds_pure

theorem behind_applyMemberOp (op : GroupOp) (sender : String) (isAdmin : Bool) (nowMs : Int) :
    Holds (Behind W) (applyMemberOp p op sender isAdmin nowMs) := by
  unfold applyMemberOp
  split
  · exact behind_applyIncomingRename hp _ _ _
  · exact behind_applyIncomingSetAvatar hp _ _ _ _
  · split
    · exact behind_applyIncomingKick hp _ _ _
    · exact holds_pure
  · split
    · exact behind_applyIncomingSetRole hp _ _ _ _
    · exact holds_pure
  · split
    · exact behind_applyIncomingLeave hp _ _ _
    · exact holds_pure
  · exact behind_inRest (hp.channel _ _ _)
  · exact keeps_last (behind_inRest (hp.sync _ _))
  · exact behind_applyIncomingGroupState hp _ _ _ _ _
  · exact behind_applyIncomingMemberContact hp _ _ _
  · exact holds_pure

/-- **Every group op** keeps an invariant of what is behind the group store, if every call
of the applier does. -/
theorem behind_handle (op : GroupOp) (sender : String) (nowMs : Int) :
    Holds (Behind W) (handle p op sender nowMs) := by
  have hstanding : ∀ a, Holds (Behind W) (standing op a) := by
    intro a
    unfold standing
    refine keeps_seq (behind_memberOf _ _) fun membership => ?_
    split
    · exact holds_pure
    · split
      · refine keeps_bind (Q := fun _ => True) ?_ fun _ _ => holds_pure
        unfold isEffectiveAdmin
        split
        · exact holds_pure
        · exact keeps_last (behind_orElse (behind_getGroup _))
      · exact holds_pure
  have hgated : ∀ a, Holds (Behind W) (applyGatedOp p op a nowMs) := by
    intro a
    unfold applyGatedOp
    refine keeps_seq (hstanding a) fun gate => ?_
    split
    · exact holds_pure
    · exact keeps_last (behind_applyMemberOp hp _ _ _ _)
  unfold handle
  dsimp only
  split
  · exact holds_pure
  · split
    · exact behind_applyIncomingMemberJoin hp _ _ _ _
    · exact hgated _

end Keeps

end RezChat.Groups
