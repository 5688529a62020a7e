/-
What an inbound group op can do to a roster.

The rows of a group are written by the store calls of `Store.lean`, and which of
them an op reaches is decided in `Applier.lean`. This file puts the two together:
whatever way an op ends, thrown and interrupted ones included, what became of
each row is one of the seven things of `Change`, and each of them says what the
op had to show for it. No group changes its founder.
-/
import RezChat.Groups.Applier

set_option autoImplicit false

namespace RezChat.Groups

open Inbox (trim trim_trim)
open Events (GroupOpTurn)
open GroupStore Applier World ChatGroupMember
open Option Proc

variable {ω α : Type}

/-! ## Standing, founders and warrants -/

/-- The founder of a group. -/
def World.founder (s : World ω) (groupId : String) : Option String :=
  (s.group groupId).map ChatGroup.createdBy

/-- The account is the group's `createdBy`. -/
def IsFounder (s : World ω) (groupId accountId : String) : Prop :=
  s.founder groupId = some (trim accountId)

/-- The account is an active member of the group. -/
def ActiveIn (s : World ω) (groupId accountId : String) : Prop :=
  ∃ m, s.row groupId accountId = some m ∧ m.state = .active

/-- The account is an active admin of the group, or its active founder. -/
def AdminIn (s : World ω) (groupId accountId : String) : Prop :=
  ∃ m, s.row groupId accountId = some m ∧ m.state = .active ∧
    (m.role = .admin ∨ m.role = .creator ∨ IsFounder s groupId accountId)

/-- The row carries a proof of consent that verifies for this group and account. -/
def Consented (p : Peers ω) (groupId accountId : String) (m : ChatGroupMember) : Prop :=
  p.authority = true ∧ ∃ name proof, m.proof = some proof ∧
    p.verifyMemberJoinProof (trim groupId) (trim accountId) name proof = true

/-- A consent that was given: its proof is whole and verifies. -/
def Proven (p : Peers ω) (groupId accountId name : String) (joinProof : Option JoinProof) : Prop :=
  p.authority = true ∧ ∃ proof, carried joinProof = some proof ∧
    p.verifyMemberJoinProof groupId (trim accountId) name proof = true

/-- What entitles an account to a row. -/
def Warranted (p : Peers ω) (s : World ω) (groupId accountId : String)
    (m : ChatGroupMember) : Prop :=
  IsFounder s groupId accountId ∨ Consented p groupId accountId m

/-- Nothing but a name and a proof was written, and the proof verifies. -/
structure Reworded (p : Peers ω) (groupId accountId : String) (m m' : ChatGroupMember) :
    Prop where
  role : m'.role = m.role
  state : m'.state = m.state
  updatedAtMs : m'.updatedAtMs = m.updatedAtMs
  proof : m'.proof = m.proof ∨ Consented p groupId accountId m'

/-- A join that its joiner announced itself, with its consent and with a live
invite of ours for the group. -/
structure Rejoin (p : Peers ω) (s : World ω) (op : GroupOp) (sender : String) (nowMs : Int)
    (groupId accountId : String) (join : MemberJoin) (e : InviteEnvelope) : Prop where
  body : op.body = .memberJoin join
  group : op.groupId = trim groupId
  joiner : trim join.accountId = trim accountId
  self : trim sender = trim accountId
  consent : Proven p (trim groupId) accountId join.displayName (some join.joinProof)
  invite : p.getStoredInviteEnvelope s.rest join.inviteId = some e
  kind : e.kind = "group"
  inviteGroup : trim e.groupId = trim groupId
  authorized : ∃ fates, (p.authorizeInviteJoin join.inviteId (trim accountId) nowMs fates
    s.rest).outcome = .returned true

/-- An op that carries members: a join, or contacts that are forwarded. -/
def OpBody.introduces : OpBody → Bool
  | .memberJoin _ => true
  | .memberContact _ => true
  | _ => false

/-! ## What can become of a row -/

/-- What an op can do to one row: `old` is the row before and `new` the row after. -/
inductive Change (p : Peers ω) (s : World ω) (op : GroupOp) (sender : String) (nowMs : Int)
    (g a : String) : Option ChatGroupMember → Option ChatGroupMember → Prop
  | same (old : Option ChatGroupMember) : Change p s op sender nowMs g a old old
  /-- An admin kicked it. -/
  | kicked (m : ChatGroupMember) (target : String) : op.body = .kick target →
      op.groupId = trim g → trim target = trim a → AdminIn s g sender →
      Change p s op sender nowMs g a (some m) (some (removedRow nowMs m))
  /-- An admin gave it a role, but not the founder's. -/
  | roleSet (m : ChatGroupMember) (target : String) (role : GroupRole) :
      op.body = .setRole target role → op.groupId = trim g → trim target = trim a →
      role ≠ .creator → AdminIn s g sender →
      Change p s op sender nowMs g a (some m) (some (roleRow role nowMs m))
  /-- It left. -/
  | left (m : ChatGroupMember) : op.body = .leave (trim sender) → op.groupId = trim g →
      trim sender = trim a → Change p s op sender nowMs g a (some m) (some (removedRow nowMs m))
  /-- It was removed, and joined again. -/
  | revived (m m' : ChatGroupMember) (join : MemberJoin) (e : InviteEnvelope) :
      m.state = .removed → Rejoin p s op sender nowMs g a join e → m.updatedAtMs < e.createdAtMs →
      m'.state = .active → m'.role = .member → Warranted p s g a m' →
      Change p s op sender nowMs g a (some m) (some m')
  /-- It was added. -/
  | added (m : ChatGroupMember) : op.body.introduces = true → op.groupId = trim g →
      m.state = .active → m.role = .member → Warranted p s g a m →
      Change p s op sender nowMs g a none (some m)
  /-- It was given a name and a proof. -/
  | reworded (m m' : ChatGroupMember) : op.body.introduces = true → Reworded p g a m m' →
      Change p s op sender nowMs g a (some m) (some m')

/-- What an op can do to a roster. -/
structure Turned (p : Peers ω) (s : World ω) (op : GroupOp) (sender : String) (nowMs : Int)
    (t : World ω) : Prop where
  rows : ∀ g a, Change p s op sender nowMs g a (s.row g a) (t.row g a)
  founders : ∀ g, t.founder g = s.founder g

/-- The two stores have the same rosters. -/
structure SameRosters (s t : World ω) : Prop where
  rows : ∀ g a, t.row g a = s.row g a
  founders : ∀ g, t.founder g = s.founder g

theorem SameRosters.refl (s : World ω) : SameRosters s s := ⟨fun _ _ => rfl, fun _ => rfl⟩

variable {sender : String} {nowMs : Int}

theorem Turned.of_same {p : Peers ω} {s t : World ω} {op : GroupOp}
    (h : SameRosters s t) : Turned p s op sender nowMs t := by
  constructor
  · intro g a
    rw [h.rows]
    exact .same _
  · exact h.founders

variable {g a : String} {m : ChatGroupMember}

/-- One row was written. -/
theorem Turned.of_withRow {p : Peers ω} {s t : World ω} {op : GroupOp}
    (ht : SameRosters s t)
    (h : ∀ g' a', trim g' = trim g → trim a' = trim a →
      Change p s op sender nowMs g' a' (s.row g' a') (some m)) :
    Turned p s op sender nowMs (t.withRow g a m) := by
  constructor
  · intro g' a'
    rw [row_withRow]
    split
    · rename_i hat
      exact h g' a' hat.1 hat.2
    · rw [ht.rows]
      exact .same _
  · exact ht.founders

variable {g g' a a' : String}

/-- Rows are found by trimmed ids. -/
theorem World.row_congr (s : World ω) (hg : trim g = trim g')
    (ha : trim a = trim a') : s.row g a = s.row g' a' := by
  rw [row, row, hg, ha]

theorem World.founder_congr (s : World ω) {g g' : String} (hg : trim g = trim g') :
    s.founder g = s.founder g' := by
  rw [founder, group, hg]
  rfl

variable {s : World ω}

theorem IsFounder.congr (h : IsFounder s g a)
    (hg : trim g = trim g') (ha : trim a = trim a') : IsFounder s g' a' := by
  unfold IsFounder at h ⊢
  rw [← founder_congr s hg, ← ha]
  exact h

theorem AdminIn.congr (h : AdminIn s g a)
    (hg : trim g = trim g') (ha : trim a = trim a') : AdminIn s g' a' := by
  obtain ⟨m, hm, hactive, hrole⟩ := h
  refine ⟨m, ?_, hactive, ?_⟩
  · rw [← row_congr s hg ha]
    exact hm
  · exact hrole.imp_right (Or.imp_right fun hf => hf.congr hg ha)

/-! ## Introductions

A forwarded contact and a join that revives nobody write their rows through
`ensureMembership`, which adds a row or puts a name and a proof on one. An op
that forwards many contacts may do both to the same row. -/

/-- What `ensureMembership` can do to one row, called as often as one likes. -/
inductive Introduction (p : Peers ω) (s : World ω) (op : GroupOp) (g a : String) :
    Option ChatGroupMember → Option ChatGroupMember → Prop
  | same (old : Option ChatGroupMember) : Introduction p s op g a old old
  | added (m : ChatGroupMember) : op.groupId = trim g → m.state = .active →
      m.role = .member → Warranted p s g a m → Introduction p s op g a none (some m)
  | reworded (m m' : ChatGroupMember) : Reworded p g a m m' →
      Introduction p s op g a (some m) (some m')

/-- What `ensureMembership` can do to a roster. -/
structure Introduced (p : Peers ω) (s : World ω) (op : GroupOp) (t : World ω) : Prop where
  rows : ∀ g a, Introduction p s op g a (s.row g a) (t.row g a)
  founders : ∀ g, t.founder g = s.founder g

variable {p : Peers ω} {s : World ω} {op : GroupOp}

variable {m m' : ChatGroupMember}

theorem Consented.of_proof (h : Consented p g a m)
    (hp : m'.proof = m.proof) : Consented p g a m' := by
  obtain ⟨hauth, name, proof, hproof, hv⟩ := h
  exact ⟨hauth, name, proof, hp.trans hproof, hv⟩

/-- A proof that is put on a row changes nothing else of it but the name. -/
theorem Consented.reworded {g a name : String} {proof : JoinProof}
    (h : Consented p g a (provedRow m name proof)) :
    Reworded p g a m (provedRow m name proof) where
  role := rfl
  state := rfl
  updatedAtMs := rfl
  proof := .inr h

theorem Reworded.warranted (h : Reworded p g a m m')
    (hw : Warranted p s g a m) : Warranted p s g a m' := by
  rcases hw with hf | hc
  · exact .inl hf
  · rcases h.proof with hp | hc'
    · exact .inr (hc.of_proof hp)
    · exact .inr hc'

theorem Reworded.trans {m m' m'' : ChatGroupMember} (h : Reworded p g a m m')
    (h' : Reworded p g a m' m'') : Reworded p g a m m'' where
  role := h'.role.trans h.role
  state := h'.state.trans h.state
  updatedAtMs := h'.updatedAtMs.trans h.updatedAtMs
  proof := by
    rcases h'.proof with hp | hc
    · rcases h.proof with hq | hc
      · exact .inl (hp.trans hq)
      · exact .inr (hc.of_proof hp)
    · exact .inr hc

/-- A row that is there is reworded, whether it was there before or has just been
added. -/
theorem Introduction.then_reworded {old : Option ChatGroupMember}
    (h : Introduction p s op g a old (some m))
    (h' : Reworded p g a m m') : Introduction p s op g a old (some m') := by
  cases h with
  | same => exact .reworded m m' h'
  | added m hg hactive hrole hw =>
    exact .added m' hg (h'.state.trans hactive) (h'.role.trans hrole) (h'.warranted hw)
  | reworded m₀ m h => exact .reworded m₀ m' (h.trans h')

/-- No row goes. -/
theorem Introduction.of_none {old : Option ChatGroupMember}
    (h : Introduction p s op g a old none) : old = none := by
  cases h
  rfl

theorem Introduced.refl : Introduced p s op s := ⟨fun _ _ => .same _, fun _ => rfl⟩

variable {t : World ω}

theorem Introduced.of_same (h : SameRosters s t) : Introduced p s op t := by
  constructor
  · intro g a
    rw [h.rows]
    exact .same _
  · exact h.founders

theorem Introduced.turned
    (h : Introduced p s op t) (hbody : op.body.introduces = true) :
    Turned p s op sender nowMs t := by
  refine ⟨?_, h.founders⟩
  intro g a
  have hrow := h.rows g a
  generalize s.row g a = old at hrow ⊢
  generalize t.row g a = new at hrow ⊢
  cases hrow with
  | same => exact .same _
  | added m hg hactive hrole hw => exact .added m hbody hg hactive hrole hw
  | reworded m m' hm => exact .reworded m m' hbody hm

/-- One row was introduced. -/
theorem Introduced.withRow
    (h : Introduced p s op t)
    (hm : ∀ g' a', trim g' = trim g → trim a' = trim a →
      Introduction p s op g' a' (s.row g' a') (t.row g' a') →
      Introduction p s op g' a' (s.row g' a') (some m)) :
    Introduced p s op (t.withRow g a m) := by
  constructor
  · intro g' a'
    rw [row_withRow]
    split
    · rename_i hat
      exact hm g' a' hat.1 hat.2 (h.rows g' a')
    · exact h.rows g' a'
  · exact h.founders

/-! ## Calls that leave the rosters alone -/

/-- The property does not look beyond the rosters. -/
def OfRosters (I : World ω → Prop) : Prop := ∀ s t, SameRosters s t → I s → I t

theorem turned_ofRosters (p : Peers ω) (s : World ω) (op : GroupOp) (sender : String)
    (nowMs : Int) : OfRosters (Turned p s op sender nowMs) := by
  intro t t' ht h
  constructor
  · intro g a
    rw [ht.rows]
    exact h.rows g a
  · intro g
    rw [ht.founders]
    exact h.founders g

theorem introduced_ofRosters (p : Peers ω) (s : World ω) (op : GroupOp) :
    OfRosters (Introduced p s op) := by
  intro t t' ht h
  constructor
  · intro g a
    rw [ht.rows]
    exact h.rows g a
  · intro g
    rw [ht.founders]
    exact h.founders g

theorem sameRosters_rest (s : World ω) (w : ω) : SameRosters s { s with rest := w } :=
  ⟨fun _ _ => rfl, fun _ => rfl⟩

/-- A group is written with the founder it had. -/
theorem sameRosters_withGroup {groupId : String} {grp grp' : ChatGroup}
    (hgrp : s.group groupId = some grp) (hby : grp'.createdBy = grp.createdBy) :
    SameRosters s (s.withGroup groupId grp') := by
  refine ⟨fun _ _ => rfl, ?_⟩
  intro g
  rw [founder, group_withGroup]
  split
  · rename_i hg
    rw [founder_congr s hg, founder, hgrp, map_some, map_some, hby]
  · rfl

section Frame

variable {I : World ω → Prop} (hI : OfRosters I)
include hI

theorem keeps_inRest (q : Proc ω α) : Holds I (inRest q) :=
  keeps_zoom fun s w hs => hI s _ (sameRosters_rest s w) hs

theorem keeps_passOver (q : Proc ω Unit) :
    Holds I (passOver q) := by
  unfold passOver
  apply keeps_tryCatch
  · refine keeps_bind (keeps_inRest hI q) ?_
    intro _ _
    exact holds_pure
  · exact holds_pure

omit hI in
theorem keeps_orElse {q : Proc (World ω) α} {fallback : α}
    (hq : Holds I q) :
    Holds I (orElse q fallback) :=
  keeps_tryCatch hq (holds_pure)

omit hI in
theorem keeps_getGroup (g : String) : Holds I (getGroup g) :=
  keeps_of_wp fun _ hs => getGroup_spec ⟨hs, trivial⟩ hs hs

theorem keeps_emitUpdates (p : Peers ω) (g : String) :
    Holds I (emitUpdates p g) := by
  unfold emitUpdates
  refine keeps_bind (keeps_inRest hI _) ?_
  intro _ _
  refine keeps_bind (keeps_inRest hI _) ?_
  intro _ _
  exact holds_pure

theorem keeps_renameGroup (g title : String) (nowMs : Int) :
    Holds I (renameGroup g title nowMs) := by
  apply keeps_of_wp
  intro s hs
  refine renameGroup_spec ⟨hs, trivial⟩ ?_ hs hs
  intro grp hgrp
  refine ⟨⟨?_, trivial⟩, ?_⟩ <;> exact hI s _ (sameRosters_withGroup hgrp rfl) hs

theorem keeps_setGroupAvatar (g hash : String) (nowMs : Int) :
    Holds I (setGroupAvatar g hash nowMs) := by
  apply keeps_of_wp
  intro s hs
  refine updateGroup_spec ⟨hs, trivial⟩ ?_ hs hs
  intro grp hgrp
  refine ⟨⟨?_, trivial⟩, ?_⟩ <;> exact hI s _ (sameRosters_withGroup hgrp rfl) hs

theorem keeps_applyIncomingRename (p : Peers ω) (op : GroupOp) (title : String) (nowMs : Int) :
    Holds I (applyIncomingRename p op title nowMs) := by
  unfold applyIncomingRename
  refine keeps_bind (keeps_orElse (keeps_getGroup _)) ?_
  intro _ _
  split
  · exact holds_pure
  · refine keeps_bind (keeps_renameGroup hI _ _ _) ?_
    intro _ _
    split
    · exact keeps_passOver hI _
    · exact holds_pure

theorem keeps_storeAvatar (p : Peers ω) (hash data : String) :
    Holds I (storeAvatar p hash data) := by
  unfold storeAvatar
  split
  · exact holds_pure
  · split
    · exact keeps_passOver hI _
    · exact holds_pure

theorem keeps_applyIncomingSetAvatar (p : Peers ω) (op : GroupOp) (hash data : String)
    (nowMs : Int) :
    Holds I (applyIncomingSetAvatar p op hash data nowMs) := by
  unfold applyIncomingSetAvatar
  refine keeps_bind (keeps_orElse (keeps_getGroup _)) ?_
  intro _ _
  split
  · exact holds_pure
  · refine keeps_bind (keeps_storeAvatar hI _ _ _) ?_
    intro _ _
    split
    · exact holds_pure
    · refine keeps_bind (keeps_setGroupAvatar hI _ _ _) ?_
      intro _ _
      exact holds_pure

theorem keeps_fillTitle (p : Peers ω) (op : GroupOp) (g : ChatGroup) (title : String)
    (nowMs : Int) : Holds I (fillTitle p op g title nowMs) := by
  unfold fillTitle
  split
  · refine keeps_bind (keeps_renameGroup hI _ _ _) ?_
    intro _ _
    split
    · exact keeps_passOver hI _
    · exact holds_pure
  · exact holds_pure

theorem keeps_fillAvatar (p : Peers ω) (op : GroupOp) (g : ChatGroup) (hash data : String)
    (nowMs : Int) : Holds I (fillAvatar p op g hash data nowMs) := by
  unfold fillAvatar
  split
  · refine keeps_bind (keeps_passOver hI _) ?_
    intro _ _
    split
    · exact holds_pure
    · refine keeps_bind (keeps_setGroupAvatar hI _ _ _) ?_
      intro _ _
      exact holds_pure
  · exact holds_pure

/-- A snapshot of a group's state fills in its title and avatar, and touches nobody. -/
theorem keeps_applyIncomingGroupState (p : Peers ω) (op : GroupOp) (title hash data : String)
    (nowMs : Int) : Holds I (applyIncomingGroupState p op title hash data nowMs) := by
  unfold applyIncomingGroupState
  refine keeps_bind (keeps_orElse (keeps_getGroup _)) ?_
  intro _ _
  split
  · exact holds_pure
  · refine keeps_bind (keeps_fillTitle hI _ _ _ _ _) ?_
    intro _ _
    refine keeps_bind (keeps_fillAvatar hI _ _ _ _ _ _) ?_
    intro _ _
    refine keeps_bind (keeps_orElse (keeps_getGroup _)) ?_
    intro _ _
    exact holds_pure

end Frame

/-! ## What the gates ask for -/

section Gates

variable {s : World ω} {g a : String} {E D : World ω → Prop}

/-- A membership is read, or taken for absent. -/
theorem memberOf_spec {R : Option ChatGroupMember → World ω → Prop} (hR : R (s.row g a) s)
    (hnone : R none s) (hD : D s) : wp (memberOf g a) R E D s :=
  wp_tryCatch (getMembership_spec hR (wp_pure hnone) hD)

/-- A founder is recognised for sure only when it is one. -/
theorem isCreator_spec {R : Bool → World ω → Prop}
    (hR : ∀ b, (b = true → IsFounder s g a) → R b s) (hD : D s) :
    wp (isCreator g a) R E D s := by
  unfold isCreator
  split
  · exact wp_pure (hR false nofun)
  · refine wp_bind (wp_tryCatch (getGroup_spec (wp_pure ?_)
      (wp_pure (wp_pure (hR false nofun))) hD))
    refine hR _ ?_
    intro hb
    split at hb
    · rename_i grp hgrp
      unfold IsFounder founder
      rw [hgrp, map_some, of_decide_eq_true hb]
    · cases hb

theorem isEffectiveAdmin_spec {m : ChatGroupMember} {R : Bool → World ω → Prop}
    (hrow : s.row g a = some m) (hactive : m.state = .active) (ha : trim a = a)
    (hR : ∀ b, (b = true → AdminIn s g a) → R b s) (hD : D s) :
    wp (isEffectiveAdmin g a m) R E D s := by
  unfold isEffectiveAdmin
  split
  · rename_i hrole
    refine wp_pure (hR true fun _ => ⟨m, hrow, hactive, ?_⟩)
    exact hrole.imp_right .inl
  · refine wp_bind (wp_tryCatch (getGroup_spec (wp_pure ?_)
      (wp_pure (wp_pure (hR false nofun))) hD))
    refine hR _ ?_
    intro hb
    refine ⟨m, hrow, hactive, .inr (.inr ?_)⟩
    split at hb
    · rename_i grp hgrp
      unfold IsFounder founder
      rw [hgrp, map_some, of_decide_eq_true hb, ha]
    · cases hb

theorem standing_spec {op : GroupOp} {R : Option Bool → World ω → Prop} (ha : trim a = a)
    (hnone : R none s)
    (hsome : ∀ b, ActiveIn s op.groupId a → (b = true → AdminIn s op.groupId a) → R (some b) s)
    (hD : D s) : wp (standing op a) R E D s := by
  unfold standing
  refine wp_bind (memberOf_spec ?_ (wp_pure hnone) hD)
  split
  · exact wp_pure hnone
  · rename_i m hm
    split
    · rename_i hactive
      refine wp_bind (isEffectiveAdmin_spec hm hactive ha ?_ hD)
      intro b hb
      exact wp_pure (hsome b ⟨m, hm, hactive⟩ hb)
    · exact wp_pure hnone

/-- A consent is taken for given only if its proof verifies. -/
theorem verifyConsent_spec {p : Peers ω} {name : String} {joinProof : Option JoinProof}
    {R : Bool → World ω → Prop} (hfalse : R false s)
    (htrue : Proven p g a name joinProof → R true s)
    (hE : E s) (hD : D s) : wp (verifyConsent p g a name joinProof) R E D s := by
  unfold verifyConsent
  split
  · rename_i proof hauth hproof
    refine wp_await_read ?_ hE hD
    cases hv : p.verifyMemberJoinProof g (trim a) name proof with
    | true => exact htrue ⟨hauth, proof, hproof, hv⟩
    | false => exact hfalse
  · exact wp_pure hfalse

theorem resolveJoinInviteEnvelope_spec {p : Peers ω} {inviteId : String}
    {R : Option InviteEnvelope → World ω → Prop} (hnone : R none s)
    (hsome : ∀ e, p.getStoredInviteEnvelope s.rest inviteId = some e → e.kind = "group" →
      trim e.groupId = g → R (some e) s)
    (hD : D s) : wp (resolveJoinInviteEnvelope p inviteId g) R E D s := by
  unfold resolveJoinInviteEnvelope
  refine wp_bind (wp_tryCatch (wp_await_read ?_ (wp_pure ?_) hD))
  · refine wp_pure ?_
    cases he : p.getStoredInviteEnvelope s.rest inviteId with
    | none => exact hnone
    | some e =>
      rw [filter_some]
      split
      · rename_i hkind
        have h := of_decide_eq_true hkind
        exact hsome e he h.1 h.2
      · exact hnone
  · exact wp_pure hnone

end Gates

/-! ## The ops that write rows -/

theorem Proven.consented {g a name : String} {joinProof : Option JoinProof}
    (h : Proven p g a name joinProof) (hm : m.proof = carried joinProof)
    {g' a' : String} (hg : trim g' = g) (ha : trim a' = trim a) : Consented p g' a' m := by
  obtain ⟨hauth, proof, hproof, hv⟩ := h
  refine ⟨hauth, name, proof, hm.trans hproof, ?_⟩
  rw [hg, ha]
  exact hv

/-- Who may be introduced: the founder without a proof, and whoever proves its
consent. -/
def Introducible (p : Peers ω) (s : World ω) (groupId accountId name : String)
    (joinProof : Option JoinProof) : Prop :=
  joinProof = none ∧ IsFounder s groupId accountId ∨ Proven p groupId accountId name joinProof

theorem keeps_ensureMembership {a name : String} {joinProof : Option JoinProof}
    (hw : Introducible p s op.groupId a name joinProof) :
    Holds (Introduced p s op)
      (ensureMembership op.groupId a .member name joinProof nowMs) := by
  apply keeps_of_wp
  intro t ht
  refine ensureMembership_spec ?_ ?_ (fun _ _ => ⟨ht, trivial⟩) ht ht
  · intro hnone
    have h : Introduced p s op
        (t.withRow op.groupId a (newRow .member name joinProof nowMs)) := by
      apply ht.withRow
      intro g' a' hg ha hintro
      rw [row_congr t hg ha, hnone] at hintro
      rw [hintro.of_none]
      refine .added _ (op.groupId_trimmed.symm.trans hg.symm) rfl rfl ?_
      rcases hw with ⟨-, hf⟩ | hproven
      · exact .inl (hf.congr hg.symm ha.symm)
      · exact .inr (hproven.consented rfl (hg.trans op.groupId_trimmed) ha)
    exact ⟨⟨h, trivial⟩, h⟩
  · intro m proof hm hproof hcarried
    have h : Introduced p s op (t.withRow op.groupId a (provedRow m name proof)) := by
      apply ht.withRow
      intro g' a' hg ha hintro
      rw [row_congr t hg ha, hm] at hintro
      have hconsented : Consented p g' a' (provedRow m name proof) := by
        rcases hw with ⟨rfl, -⟩ | hproven
        · cases hcarried
        · exact hproven.consented hcarried.symm (hg.trans op.groupId_trimmed) ha
      exact hintro.then_reworded (hconsented.reworded)
    exact ⟨⟨h, trivial⟩, h⟩

variable {E D : World ω → Prop}

/-- An entry is let through only if it may be introduced. -/
theorem warrantOf_spec {createdBy a : String} {contact : MemberContact}
    {R : Bool × Option JoinProof → World ω → Prop}
    (hby : createdBy ≠ "" → a = createdBy → IsFounder s op.groupId a)
    (hno : ∀ joinProof, R (false, joinProof) t)
    (hyes : ∀ joinProof, Introducible p s op.groupId a contact.displayName joinProof →
      R (true, joinProof) t)
    (hE : E t) (hD : D t) :
    wp (warrantOf p op.groupId createdBy a contact) R E D t := by
  unfold warrantOf
  split
  · split
    · rename_i hfounder
      have hf := hby hfounder.1 hfounder.2
      refine wp_bind (verifyConsent_spec ?_ ?_ hE hD)
      · exact wp_pure (hyes none (.inl ⟨rfl, hf⟩))
      · intro hproven
        exact wp_pure (hyes contact.joinProof (.inr hproven))
    · exact wp_pure (hno none)
  · refine wp_bind (verifyConsent_spec ?_ ?_ hE hD)
    · exact wp_pure (hno none)
    · intro hproven
      exact wp_pure (hyes contact.joinProof (.inr hproven))

variable {I : World ω → Prop}

theorem keeps_introduce (hI : OfRosters I) (contact : MemberContact)
    (a : String) (joinProof : Option JoinProof) (e : Ensured) (failed : Bool)
    (acc : ContactTally) :
    Holds I (introduce p contact a joinProof e failed acc) := by
  unfold introduce
  refine keeps_bind (Q := fun _ => True) ?_ ?_
  · unfold recordName
    split
    · exact keeps_passOver hI _
    · exact holds_pure
  · intro _ _
    split
    · refine keeps_bind (keeps_modify fun t ht => hI t _ (sameRosters_rest t _) ht) ?_
      intro _ _
      exact holds_pure
    · exact holds_pure

theorem keeps_applyContact {createdBy : String}
    (hby : ∀ a, createdBy ≠ "" → a = createdBy → IsFounder s op.groupId a)
    (acc : ContactTally) (contact : MemberContact) :
    Holds (Introduced p s op) (applyContact p op createdBy nowMs acc contact) := by
  unfold applyContact
  dsimp only
  split
  · exact holds_pure
  · apply keeps_of_wp
    intro t ht
    refine wp_bind (warrantOf_spec (hby _) ?_ ?_ ht ht)
    · intro _
      exact wp_pure ⟨ht, trivial⟩
    · intro joinProof hw
      -- the entry is let through: its row is ensured, and the rest does not see the roster
      refine Keeps.wp (keeps_bind (Q := fun _ => True) ?_ ?_) ht
      · refine keeps_tryCatch (keeps_bind (keeps_ensureMembership hw) ?_)
          (holds_pure)
        intro _ _
        exact holds_pure
      · intro _ _
        exact keeps_introduce (introduced_ofRosters p s op) _ _ _ _ _ _

/-- Forwarded contacts keep what each entry keeps. The founder an entry is compared with is the
one the group has, or none. -/
theorem applyIncomingMemberContact_keeps (hI : OfRosters I)
    {contacts : List MemberContact} (hs : I s)
    (hstep : ∀ createdBy, (∀ a, createdBy ≠ "" → a = createdBy → IsFounder s op.groupId a) →
      ∀ acc, ∀ contact ∈ contacts,
        Holds I (applyContact p op createdBy nowMs acc contact)) :
    wp (applyIncomingMemberContact p op contacts nowMs) (fun _ => I) I I s := by
  unfold applyIncomingMemberContact
  split
  · exact wp_pure hs
  · have hrest : ∀ createdBy,
        (∀ a, createdBy ≠ "" → a = createdBy → IsFounder s op.groupId a) →
        Holds I (do
          let tally ← contacts.foldlM (applyContact p op createdBy nowMs) ⟨false, 0, false⟩
          if tally.rosterChanged then do
            inRest (p.emitMembersUpdated op.groupId)
            pure tally.failed
          else pure tally.failed) := by
      intro createdBy hby
      refine keeps_bind (keeps_foldlM (hstep createdBy hby) _) ?_
      intro _ _
      split
      · refine keeps_bind (keeps_inRest hI _) ?_
        intro _ _
        exact holds_pure
      · exact holds_pure
    refine wp_bind (wp_tryCatch (getGroup_spec ?_ (wp_pure ?_) hs))
    · refine wp_imp (Keeps.wp (hrest _ ?_) hs) (fun _ _ h => h.1)
      intro a hne ha
      cases hgrp : s.group op.groupId with
      | none =>
        rw [hgrp] at hne
        exact absurd rfl hne
      | some grp =>
        rw [hgrp, map_some, getD_some, grp.createdBy_trimmed] at ha
        unfold IsFounder founder
        rw [hgrp, map_some, ha, grp.createdBy_trimmed]
    · refine wp_imp (Keeps.wp (hrest _ ?_) hs) (fun _ _ h => h.1)
      intro a hne _
      exact absurd rfl hne

/-- Forwarded contacts are introductions. -/
theorem applyIncomingMemberContact_spec (contacts : List MemberContact) (nowMs : Int) :
    wp (applyIncomingMemberContact p op contacts nowMs)
      (fun _ => Introduced p s op) (Introduced p s op) (Introduced p s op) s :=
  applyIncomingMemberContact_keeps (introduced_ofRosters p s op) .refl fun _ hby acc contact _ =>
    keeps_applyContact hby acc contact

/-! ## Joins -/

variable {join : MemberJoin} {existing : Option ChatGroupMember}

/-- A joiner is let in on its own word only with a live invite of ours, issued after
its removal if it was removed. -/
theorem selfAnnounced_spec {joiner : String}
    {R : Bool → World ω → Prop}
    (hno : ∀ t, SameRosters s t → R false t)
    (hyes : ∀ t e, SameRosters s t → p.getStoredInviteEnvelope s.rest join.inviteId = some e →
      e.kind = "group" → trim e.groupId = op.groupId →
      predated existing e.createdAtMs = false →
      (∃ fates, (p.authorizeInviteJoin join.inviteId joiner nowMs fates s.rest).outcome =
        .returned true) → R true t)
    (hD : ∀ t, SameRosters s t → D t) :
    wp (selfAnnounced p op join joiner existing nowMs) R E D s := by
  have hrefl := SameRosters.refl s
  unfold selfAnnounced
  refine wp_bind (resolveJoinInviteEnvelope_spec ?_ ?_ (hD s hrefl))
  · exact wp_pure (hno s hrefl)
  · intro e he hkind hgroup
    dsimp only
    split
    · exact wp_pure (hno s hrefl)
    · rename_i hpredated
      refine wp_tryCatch (wp_zoom (wp_mono (wp_outcome _) ?_ ?_ ?_))
      · intro b w hruns
        have ht := sameRosters_rest s w
        cases b with
        | true => exact hyes _ e ht he hkind hgroup (Bool.eq_false_of_not_eq_true hpredated) hruns
        | false => exact hno _ ht
      · intro w _
        exact wp_pure (hno _ (sameRosters_rest s w))
      · intro w _
        exact hD _ (sameRosters_rest s w)

/-- Somebody else is let in on the word of an active member, unless it was removed. -/
theorem forwarded_spec
    {R : Bool → World ω → Prop} (hno : R false s)
    (hyes : ActiveIn s op.groupId sender → existing.map state ≠ some .removed →
      R true s) (hD : D s) :
    wp (forwarded op sender existing) R E D s := by
  unfold forwarded
  refine wp_bind (memberOf_spec ?_ (wp_pure hno) hD)
  refine wp_pure ?_
  split
  · rename_i f hf
    by_cases hremoved : existing.map state = some .removed
    · rw [decide_eq_true hremoved, Bool.not_true, Bool.and_false]
      exact hno
    · by_cases hactive : f.state = .active
      · rw [decide_eq_true hactive, decide_eq_false hremoved, Bool.not_false, Bool.and_true]
        exact hyes ⟨f, hf, hactive⟩ hremoved
      · rw [decide_eq_false hactive, Bool.false_and]
        exact hno
  · exact hno

/-- Who lets a joiner in: its own announcement with a live invite of ours, or the word of an
active member. -/
inductive LetIn (p : Peers ω) (s : World ω) (op : GroupOp) (join : MemberJoin)
    (joiner sender : String) (existing : Option ChatGroupMember) (nowMs : Int) : Prop
  | announced (e : InviteEnvelope) : sender = joiner →
      p.getStoredInviteEnvelope s.rest join.inviteId = some e → e.kind = "group" →
      trim e.groupId = op.groupId → predated existing e.createdAtMs = false →
      (∃ fates, (p.authorizeInviteJoin join.inviteId joiner nowMs fates s.rest).outcome =
        .returned true) → LetIn p s op join joiner sender existing nowMs
  | forwarded : sender ≠ joiner → ActiveIn s op.groupId sender →
      existing.map state ≠ some .removed →
      LetIn p s op join joiner sender existing nowMs

theorem letIn_spec {joiner sender : String}
    {R : Bool → World ω → Prop}
    (hno : ∀ t, SameRosters s t → R false t)
    (hyes : ∀ t, SameRosters s t → LetIn p s op join joiner sender existing nowMs → R true t)
    (hD : ∀ t, SameRosters s t → D t) :
    wp (letIn p op join joiner sender existing nowMs) R E D s := by
  have hrefl := SameRosters.refl s
  unfold letIn
  by_cases hself : sender = joiner
  · rw [if_pos hself]
    refine selfAnnounced_spec hno ?_ hD
    intro t e ht he hkind hgroup hpredated hauth
    exact hyes t ht (.announced e hself he hkind hgroup hpredated hauth)
  · rw [if_neg hself]
    refine forwarded_spec (hno s hrefl) ?_ (hD s hrefl)
    intro hactive hnot
    exact hyes s hrefl (.forwarded hself hactive hnot)

/-- What entitles the row of a removed joiner to come back. -/
def Revivable (p : Peers ω) (s : World ω) (op : GroupOp) (sender : String) (nowMs : Int)
    (joiner : String) (join : MemberJoin) (m : ChatGroupMember) : Prop :=
  ∃ e, Rejoin p s op sender nowMs op.groupId joiner join e ∧ m.updatedAtMs < e.createdAtMs

theorem Rejoin.congr
    {e : InviteEnvelope} (h : Rejoin p s op sender nowMs g a join e) (hg : trim g = trim g')
    (ha : trim a = trim a') : Rejoin p s op sender nowMs g' a' join e := by
  obtain ⟨body, group, joiner, self, consent, invite, kind, inviteGroup, authorized⟩ := h
  unfold Proven at consent
  rw [hg, ha] at consent
  rw [ha] at authorized
  exact ⟨body, group.trans hg, joiner.trans ha, self.trans ha, consent, invite, kind,
    inviteGroup.trans hg, authorized⟩

/-- Who joins is revived if it was removed, and introduced otherwise. -/
theorem admitJoiner_spec {sender joiner : String}
    (hbody : op.body = .memberJoin join)
    (hconsent : Proven p op.groupId joiner join.displayName (some join.joinProof))
    (ht : SameRosters s t)
    (hrevivable : existing.map state = some .removed →
      ∀ m, s.row op.groupId joiner = some m → m.state = .removed →
        Revivable p s op sender nowMs joiner join m) :
    wp (admitJoiner op join joiner existing nowMs)
      (fun _ => Turned p s op sender nowMs) (Turned p s op sender nowMs)
      (Turned p s op sender nowMs) t := by
  unfold admitJoiner
  split
  · rename_i hremoved
    have hsame : Turned p s op sender nowMs t := .of_same ht
    refine wp_tryCatch (wp_bind (reviveMembership_spec (wp_pure hsame) ?_
      (wp_pure hsame) hsame))
    intro m hm hstate
    rw [ht.rows] at hm
    obtain ⟨e, hrejoin, hfresh⟩ := hrevivable hremoved m hm hstate
    have h : Turned p s op sender nowMs (t.withRow op.groupId joiner
        (revivedRow m .member join.displayName (some join.joinProof) nowMs)) := by
      apply Turned.of_withRow ht
      intro g a hg ha
      rw [row_congr s hg ha, hm]
      refine .revived _ _ join e hstate (hrejoin.congr hg.symm ha.symm) hfresh rfl rfl
        (.inr (hconsent.consented ?_ (hg.trans op.groupId_trimmed) ha))
      obtain ⟨-, proof, hproof, -⟩ := hconsent
      simp only [revivedRow, hproof]
    exact ⟨wp_pure h, wp_pure h⟩
  · have hkeeps : Holds (Introduced p s op) (tryCatch (do
        let e ← ensureMembership op.groupId joiner .member join.displayName
          (some join.joinProof) nowMs
        pure (e.created || e.upgraded, false)) (pure (false, true))) := by
      refine keeps_tryCatch (keeps_bind (keeps_ensureMembership (.inr hconsent)) ?_)
        (holds_pure)
      intro _ _
      exact holds_pure
    have hintro : op.body.introduces = true := by rw [hbody]; rfl
    exact wp_mono (hkeeps.wp (.of_same ht)) (fun _ _ h => h.1.turned hintro)
      (fun _ h => h.turned hintro) (fun _ h => h.turned hintro)

/-- What follows the row of a joiner does not see the roster. -/
theorem recordJoin_keeps (hI : OfRosters I) {joiner : String}
    {selfAnnounce : Bool}
    (hjoiner : wp (admitJoiner op join joiner existing nowMs) (fun _ => I) I I t) :
    wp (recordJoin p op join joiner existing selfAnnounce nowMs) (fun _ => I) I I
      t := by
  unfold recordJoin
  refine wp_bind (wp_imp hjoiner ?_)
  intro admitted t' ht'
  have hkeeps : Holds I (do
      let unnamed ← passOver (p.ensureKnownAccount joiner join.displayName)
      let unmarked ← announceJoin p op join admitted.1 nowMs
      pure (GroupOpTurn.mk ⟨true, admitted.2 || unnamed || unmarked⟩
        (some (op.groupId, joiner)) selfAnnounce)) := by
    refine keeps_bind (keeps_passOver hI _) ?_
    intro _ _
    refine keeps_bind (Q := fun _ => True) ?_ ?_
    · unfold announceJoin
      split
      · refine keeps_bind (keeps_inRest hI _) ?_
        intro _ _
        exact keeps_inRest hI _
      · exact holds_pure
    · intro _ _
      exact holds_pure
  exact wp_imp (hkeeps.wp ht') (fun _ _ h => h.1)

/-- A row that an invite does not predate was removed before the invite. -/
theorem lt_of_not_predated {createdAtMs : Int}
    (h : predated (some m) createdAtMs = false) (hm : m.state = .removed) :
    m.updatedAtMs < createdAtMs := by
  simp only [predated, hm, decide_true, Bool.true_and, decide_eq_false_iff_not] at h
  omega

variable {senderAccountId : String}

/-- A removed joiner that is let in may be revived. -/
theorem revivable_of_letIn
    (hbody : op.body = .memberJoin join)
    (hconsent : Proven p op.groupId (trim join.accountId) join.displayName (some join.joinProof))
    (hexisting : ∀ m, existing = some m → s.row op.groupId (trim join.accountId) = some m)
    (hlet : LetIn p s op join (trim join.accountId) (trim senderAccountId) existing nowMs) :
    existing.map state = some .removed →
      ∀ m, s.row op.groupId (trim join.accountId) = some m → m.state = .removed →
        Revivable p s op senderAccountId nowMs (trim join.accountId) join m := by
  intro hwas m hm hremoved
  have hgroup := op.groupId_trimmed.symm
  cases hlet with
  | forwarded _ _ hnot => exact absurd hwas hnot
  | announced e hself he hkind hegroup hpredated hauth =>
    refine ⟨e, ⟨hbody, hgroup, (trim_trim _).symm, ?_, ?_, he, hkind, hegroup.trans hgroup, ?_⟩, ?_⟩
    · rw [hself, trim_trim]
    · rw [op.groupId_trimmed]
      exact hconsent
    · rw [trim_trim]
      exact hauth
    · obtain ⟨m', hm', -⟩ := map_eq_some_iff.mp hwas
      have hrow := hexisting m' hm'
      rw [hm, some_inj] at hrow
      rw [hm', ← hrow] at hpredated
      exact lt_of_not_predated hpredated hremoved

/-- The join of somebody whose row, as far as it was found, is `existing`. -/
theorem joinOf_spec
    (hbody : op.body = .memberJoin join)
    (hconsent : Proven p op.groupId (trim join.accountId) join.displayName (some join.joinProof))
    (hexisting : ∀ m, existing = some m → s.row op.groupId (trim join.accountId) = some m) :
    wp (do
        let admissible ← letIn p op join (trim join.accountId) (trim senderAccountId)
          existing nowMs
        if admissible then
          recordJoin p op join (trim join.accountId) existing
            (decide (trim senderAccountId = trim join.accountId)) nowMs
        else pure (consumed false))
      (fun _ => Turned p s op senderAccountId nowMs) (Turned p s op senderAccountId nowMs)
      (Turned p s op senderAccountId nowMs) s := by
  have hI := turned_ofRosters p s op senderAccountId nowMs
  have hsame : ∀ t, SameRosters s t → Turned p s op senderAccountId nowMs t :=
    fun _ ht => .of_same ht
  refine wp_bind (letIn_spec (fun t ht => wp_pure (hsame t ht)) ?_ hsame)
  intro t ht hlet
  exact recordJoin_keeps hI (admitJoiner_spec hbody hconsent ht
    (revivable_of_letIn hbody hconsent hexisting hlet))

/-- An announced join. -/
theorem applyIncomingMemberJoin_spec
    (hbody : op.body = .memberJoin join) :
    wp (applyIncomingMemberJoin p op join (trim senderAccountId) nowMs)
      (fun _ => Turned p s op senderAccountId nowMs) (Turned p s op senderAccountId nowMs)
      (Turned p s op senderAccountId nowMs) s := by
  have hs : Turned p s op senderAccountId nowMs s := .of_same (.refl s)
  unfold applyIncomingMemberJoin
  dsimp only
  split
  · exact wp_pure hs
  · refine wp_bind (verifyConsent_spec (wp_pure hs) ?_ hs hs)
    intro hconsent
    refine wp_bind (memberOf_spec ?_ ?_ hs)
    · exact joinOf_spec hbody hconsent fun m hm => hm
    · exact joinOf_spec hbody hconsent nofun

/-! ## Every op -/

/-- A kick removes one row, at the word of an admin. -/
theorem applyIncomingKick_spec {sender target : String}
    (hbody : op.body = .kick target) (hadmin : AdminIn s op.groupId sender) :
    wp (applyIncomingKick p op target nowMs)
      (fun _ => Turned p s op sender nowMs) (Turned p s op sender nowMs)
      (Turned p s op sender nowMs) s := by
  have hI := turned_ofRosters p s op sender nowMs
  have hs : Turned p s op sender nowMs s := .of_same (.refl s)
  unfold applyIncomingKick
  refine wp_bind (isCreator_spec ?_ hs)
  intro founder _
  split
  · exact wp_pure hs
  · refine wp_bind (updateRow_spec (fun _ => wp_pure hs) ?_ hs hs)
    intro m hm
    have h : Turned p s op sender nowMs (s.withRow op.groupId target (removedRow nowMs m)) := by
      apply Turned.of_withRow (.refl s)
      intro g a hg ha
      rw [row_congr s hg ha, hm]
      exact .kicked m target hbody (op.groupId_trimmed.symm.trans hg.symm) ha.symm
        (hadmin.congr hg.symm rfl)
    refine ⟨?_, h⟩
    have hkeeps : Holds (Turned p s op sender nowMs)
        (if target = p.ownerAccountId then passOver (p.lockThread op.groupId)
          else emitUpdates p op.groupId) := by
      split
      · exact keeps_passOver hI _
      · exact keeps_emitUpdates hI _ _
    exact wp_imp (hkeeps.wp h) (fun _ _ h => h.1)

/-- A role is set by an admin, and is not the founder's. -/
theorem applyIncomingSetRole_spec {sender target : String} {role : GroupRole}
    (hbody : op.body = .setRole target role) (hadmin : AdminIn s op.groupId sender) :
    wp (applyIncomingSetRole p op target role nowMs)
      (fun _ => Turned p s op sender nowMs) (Turned p s op sender nowMs)
      (Turned p s op sender nowMs) s := by
  have hI := turned_ofRosters p s op sender nowMs
  have hs : Turned p s op sender nowMs s := .of_same (.refl s)
  unfold applyIncomingSetRole
  refine wp_bind (isCreator_spec ?_ hs)
  intro founder _
  split
  · exact wp_pure hs
  · rename_i hguard
    have hrole : role ≠ .creator := by
      rintro rfl
      rw [decide_eq_true rfl, Bool.or_true] at hguard
      exact hguard rfl
    refine wp_bind (updateRow_spec (fun _ => wp_pure hs) ?_ hs hs)
    intro m hm
    have h : Turned p s op sender nowMs (s.withRow op.groupId target (roleRow role nowMs m)) := by
      apply Turned.of_withRow (.refl s)
      intro g a hg ha
      rw [row_congr s hg ha, hm]
      exact .roleSet m target role hbody (op.groupId_trimmed.symm.trans hg.symm) ha.symm hrole
        (hadmin.congr hg.symm rfl)
    refine ⟨?_, h⟩
    have hkeeps : Holds (Turned p s op sender nowMs) (do
        inRest (p.emitMembersUpdated op.groupId)
        pure false) := by
      refine keeps_bind (keeps_inRest hI _) ?_
      intro _ _
      exact holds_pure
    exact wp_imp (hkeeps.wp h) (fun _ _ h => h.1)

/-- A leave removes the row of its sender. -/
theorem applyIncomingLeave_spec
    (hbody : op.body = .leave (trim senderAccountId)) :
    wp (applyIncomingLeave p op (trim senderAccountId) nowMs)
      (fun _ => Turned p s op senderAccountId nowMs) (Turned p s op senderAccountId nowMs)
      (Turned p s op senderAccountId nowMs) s := by
  have hI := turned_ofRosters p s op senderAccountId nowMs
  have hs : Turned p s op senderAccountId nowMs s := .of_same (.refl s)
  unfold applyIncomingLeave
  split
  · exact wp_pure hs
  · refine wp_bind (updateRow_spec (fun _ => wp_pure hs) ?_ hs hs)
    intro m hm
    have h : Turned p s op senderAccountId nowMs
        (s.withRow op.groupId (trim senderAccountId) (removedRow nowMs m)) := by
      apply Turned.of_withRow (.refl s)
      intro g a hg ha
      rw [row_congr s hg ha, hm]
      rw [trim_trim] at ha
      exact .left m hbody (op.groupId_trimmed.symm.trans hg.symm) ha.symm
    refine ⟨?_, h⟩
    exact wp_imp ((keeps_emitUpdates hI _ _).wp h) (fun _ _ h => h.1)

/-- The op of an active member. -/
theorem applyMemberOp_spec {isAdmin : Bool}
    (hadmin : isAdmin = true → AdminIn s op.groupId senderAccountId) :
    wp (applyMemberOp p op (trim senderAccountId) isAdmin nowMs)
      (fun _ => Turned p s op senderAccountId nowMs) (Turned p s op senderAccountId nowMs)
      (Turned p s op senderAccountId nowMs) s := by
  have hI := turned_ofRosters p s op senderAccountId nowMs
  have hs : Turned p s op senderAccountId nowMs s := .of_same (.refl s)
  have hframe : ∀ q : Proc (World ω) Bool,
      Holds (Turned p s op senderAccountId nowMs) q →
      wp q (fun _ => Turned p s op senderAccountId nowMs)
        (Turned p s op senderAccountId nowMs) (Turned p s op senderAccountId nowMs) s :=
    fun q hq => wp_imp (hq.wp hs) (fun _ _ h => h.1)
  unfold applyMemberOp
  split
  case h_1 => exact hframe _ (keeps_applyIncomingRename hI _ _ _ _)
  case h_2 => exact hframe _ (keeps_applyIncomingSetAvatar hI _ _ _ _ _)
  case h_3 target hbody =>
    split
    · rename_i h
      exact applyIncomingKick_spec hbody (hadmin h)
    · exact wp_pure hs
  case h_4 target role hbody =>
    split
    · rename_i h
      exact applyIncomingSetRole_spec hbody (hadmin h)
    · exact wp_pure hs
  case h_5 target hbody =>
    split
    · rename_i h
      subst h
      exact applyIncomingLeave_spec hbody
    · exact wp_pure hs
  case h_6 => exact hframe _ (keeps_inRest hI _)
  case h_7 =>
    refine hframe _ (keeps_bind (keeps_inRest hI _) ?_)
    intro _ _
    exact holds_pure
  case h_8 => exact hframe _ (keeps_applyIncomingGroupState hI _ _ _ _ _ _)
  case h_9 contacts hbody =>
    have hintro : op.body.introduces = true := by rw [hbody]; rfl
    exact wp_mono (applyIncomingMemberContact_spec contacts nowMs)
      (fun _ _ h => h.turned hintro) (fun _ h => h.turned hintro) (fun _ h => h.turned hintro)
  case h_10 => exact wp_pure hs

/-- **What an op does to a roster.** However its run ends. -/
theorem handle_turned (senderAccountId : String) (nowMs : Int) :
    wp (handle p op senderAccountId nowMs)
      (fun _ => Turned p s op senderAccountId nowMs) (Turned p s op senderAccountId nowMs)
      (Turned p s op senderAccountId nowMs) s := by
  have hs : Turned p s op senderAccountId nowMs s := .of_same (.refl s)
  unfold handle
  dsimp only
  split
  · exact wp_pure hs
  · split
    · rename_i join hbody
      exact applyIncomingMemberJoin_spec hbody
    · unfold applyGatedOp
      refine wp_bind (standing_spec (trim_trim _) (wp_pure hs) ?_ hs)
      intro isAdmin _ hadmin
      refine wp_bind (wp_imp (applyMemberOp_spec ?_)
        (fun _ _ h => wp_pure h))
      intro h
      exact (hadmin h).congr rfl (trim_trim _)

end RezChat.Groups
