/-
The founder of a group that is joined (`services/ServerInvitesService.js`, `acceptInvite`;
`services/ServerThreadsService.js`, `ensureGroupThread` and `groupIdForCreator`;
`storage/ChatGroupStore.js`, `ensureGroup`).

The id of a group is a digest of its founder and a salt, and an invite to the group carries both.
Whoever accepts the invite computes the digest again and rejects the invite if it is not the id.
But an invite that names no founder is not rejected: there is nothing to compare, and the
inviter is recorded in the founder's place. So whoever leaves the founder out of an invite becomes
the founder, for those who did not know the group (`inviter_made_founder`).

An invite that names a founder, or is to a group that is known already, records nobody from
whom the id was not derived, and that is all that does (`founder_bound_iff`).
-/
import RezChat.Lib.Calm
import RezChat.Groups.Governance

set_option autoImplicit false

namespace RezChat.Groups

open Inbox (trim trim_trim)
open GroupStore
open Proc

variable {ω α : Type}

/-! ## Envelopes and stores -/

/-- The signed envelope of an invite, as far as its acceptance looks at it. -/
structure SignedEnvelope where
  inviteId : Option String
  groupId : Option String
  groupCreatedBy : Option String
  groupSalt : Option String
  title : Option String
  creatorDisplayName : Option String
  certChain : List String
  accountIdentityPublicKeyB64 : String
  signerPublicKeyB64 : String

/-- The peer link that an accepted invite leads to. -/
structure LinkSnapshot where
  peerLinkId : String
  localAccountId : String
  peerAccountId : String
  peerInboxId : Option String

/-- What the row of a group says of how it came here. -/
structure GroupOrigin where
  creatorSalt : String
  joinedViaInviteId : String

/-- The rest of a server that accepts invites: the origins of its groups, the index of their ids,
and whatever else there is. -/
structure Joined (ω : Type) where
  origins : OrdMap String GroupOrigin
  groupIndex : List String
  rest : ω

/-- What the acceptance of an invite calls. -/
structure InvitePeers (ω : Type) where
  ownerAccountId : String
  parseInviteCodeV3 : String → Option (String × String)
  getStoredInviteEnvelope : ω → String → Option SignedEnvelope
  fetchDurableInviteEnvelope : String → String → Proc ω (Option SignedEnvelope)
  acceptInvite : SignedEnvelope → Option String → Bool → ω → LinkSnapshot × ω
  digest : String → String
  ensureActiveContact : String → String → Proc ω Unit
  ensureThread : String → Option String → Proc ω Unit
  emitGroupUpdated : String → Proc ω Unit
  emitGroupMembersUpdated : String → Proc ω Unit
  emitThreadIndexUpdated : String → String → ω → ω
  sendMemberJoinOp : String → String → String → String → Proc ω Unit
  ensureDirectThread : String → LinkSnapshot → Proc ω Unit
  directThreadIdForPeerLink : String → String → String

/-- A string that is there and not blank, trimmed. -/
def nonBlank (s : Option String) : Option String :=
  match s with
  | some x => if trim x = "" then none else some (trim x)
  | none => none

/-- `groupThreadId`. -/
def InvitePeers.groupThreadId (p : InvitePeers ω) (groupId : String) : String :=
  "th_" ++ p.digest groupId

/-- `groupIdForCreator`: the thread id of `createdBy:creatorSalt`, under the prefix of a group. -/
def InvitePeers.groupIdForCreator (p : InvitePeers ω) (createdBy creatorSalt : String) : String :=
  "grp_" ++ p.digest (createdBy ++ ":" ++ creatorSalt)

namespace Founding

/-- The store with something else done than to the groups. -/
def elsewhere (w : ω) (s : World (Joined ω)) : World (Joined ω) :=
  { s with rest := { s.rest with rest := w } }

/-- A call that sees neither the groups nor their origins. -/
def inServices (q : Proc ω α) : Proc (World (Joined ω)) α :=
  zoom (fun s => s.rest.rest) elsewhere q

/-- A call whose failure is logged and passed over. -/
def passingOver (q : Proc (World (Joined ω)) Unit) : Proc (World (Joined ω)) Unit :=
  tryCatch q (pure ())

/-- The store with a group in it that was not there. -/
def found (s : World (Joined ω)) (groupId createdBy : String) (title : Option String)
    (origin : GroupOrigin) (nowMs : Int) : World (Joined ω) :=
  { s.withGroup groupId
      ⟨trim (title.getD ""), "", trim createdBy, trim_trim createdBy, nowMs, nowMs⟩ with
    rest := { s.rest with origins := s.rest.origins.set (trim groupId) origin } }

/-- The store with the id of a group in the index. -/
def indexed (s : World (Joined ω)) (groupId : String) : World (Joined ω) :=
  { s with rest := { s.rest with groupIndex := trim groupId :: s.rest.groupIndex } }

/-- `ensureGroup`. A group that is there is left as it is. -/
def ensureGroup (groupId createdBy : String) (title : Option String)
    (joinedViaInviteId creatorSalt : Option String) (nowMs : Int) :
    Proc (World (Joined ω)) Unit :=
  if trim groupId = "" ∨ trim createdBy = "" then throw
  else do
    let existing ← await fun s => (s.group groupId, s)
    match existing with
    | some _ => pure ()
    | none => do
      await fun s => ((), found s groupId createdBy title
        ⟨trim (creatorSalt.getD ""), trim (joinedViaInviteId.getD "")⟩ nowMs)
      await fun s => ((), indexed s groupId)

/-- The creator that `ensureGroupThread` records: the one it is given, else the inviter, else
ourselves. -/
def creatorOr (groupCreatedBy : Option String) (peerAccountId ownerAccountId : String) : String :=
  match nonBlank groupCreatedBy with
  | some c => c
  | none => if peerAccountId = "" then ownerAccountId else peerAccountId

/-- The membership of the inviter, if there is one. -/
def seatInviter (id peerAccountId : String) (nowMs : Int) : Proc (World (Joined ω)) Unit :=
  if peerAccountId ≠ "" then do
    let _ ← ensureMembership id peerAccountId .member "" none nowMs
    pure ()
  else pure ()

/-- What `ensureGroupThread` does once the group is there. -/
def seatMembers (p : InvitePeers ω) (id : String) (title : Option String) (peerAccountId : String)
    (nowMs : Int) : Proc (World (Joined ω)) Unit := do
  let _ ← ensureMembership id p.ownerAccountId .member "" none nowMs
  let _ ← reviveMembership id p.ownerAccountId .member "" none nowMs
  seatInviter id peerAccountId nowMs
  inServices (p.ensureThread id title)
  inServices (p.emitGroupUpdated id)
  inServices (p.emitGroupMembersUpdated id)

/-- `ensureGroupThread`. -/
def ensureGroupThread (p : InvitePeers ω) (groupId : String) (title : Option String)
    (peerAccountId : String) (groupCreatedBy creatorSalt joinedViaInviteId : Option String)
    (nowMs : Int) : Proc (World (Joined ω)) Unit :=
  if trim groupId = "" then pure ()
  else do
    ensureGroup (trim groupId) (creatorOr groupCreatedBy peerAccountId p.ownerAccountId) title
      joinedViaInviteId creatorSalt nowMs
    seatMembers p (trim groupId) title peerAccountId nowMs

/-! ## Accepting an invite -/

/-- The founder that an envelope names, if the id of the group was derived from it. -/
def verifiedCreatedBy (p : InvitePeers ω) (env : SignedEnvelope) (groupId : String) :
    Option String :=
  match nonBlank env.groupCreatedBy, nonBlank env.groupSalt with
  | some c, some salt => if p.groupIdForCreator c salt = groupId then some c else none
  | _, _ => none

/-- What becomes of a group's invite when its thread is there: it is shown, and the inviter is
told. -/
def announceJoined (p : InvitePeers ω) (env : SignedEnvelope) (groupId peerAccountId : String)
    (acceptorDisplayName : Option String) : Proc (World (Joined ω)) Unit := do
  modify fun s => elsewhere (p.emitThreadIndexUpdated (p.groupThreadId groupId)
    ((nonBlank env.title).getD "Joined group") s.rest.rest) s
  match nonBlank env.inviteId with
  | some inviteId =>
    if peerAccountId ≠ "" then passingOver (inServices
      (p.sendMemberJoinOp groupId peerAccountId inviteId (acceptorDisplayName.getD "")))
    else pure ()
  | none => pure ()

/-- The group of an envelope. -/
def joinGroup (p : InvitePeers ω) (env : SignedEnvelope) (groupId peerAccountId : String)
    (acceptorDisplayName : Option String) (nowMs : Int) : Proc (World (Joined ω)) Unit :=
  let verified := verifiedCreatedBy p env groupId
  if nonBlank env.groupCreatedBy ≠ none ∧ verified = none then throw
  else do
    passingOver (ensureGroupThread p groupId (nonBlank env.title) peerAccountId verified
      (if verified = none then none else nonBlank env.groupSalt)
      (env.inviteId.map trim) nowMs)
    announceJoined p env groupId peerAccountId acceptorDisplayName

/-- The contact that a direct invite makes. -/
def recordContact (p : InvitePeers ω) (env : SignedEnvelope) (peerAccountId : String) :
    Proc (World (Joined ω)) Unit :=
  if peerAccountId ≠ "" then
    passingOver (inServices (p.ensureActiveContact peerAccountId
      (trim (env.creatorDisplayName.getD ""))))
  else pure ()

/-- The contact and the thread of an envelope that is for no group. -/
def connectDirectly (p : InvitePeers ω) (env : SignedEnvelope) (snapshot : LinkSnapshot)
    (peerAccountId : String) : Proc (World (Joined ω)) Unit := do
  recordContact p env peerAccountId
  if p.directThreadIdForPeerLink snapshot.peerLinkId peerAccountId ≠ "" then
    passingOver (inServices (p.ensureDirectThread
      (p.directThreadIdForPeerLink snapshot.peerLinkId peerAccountId) snapshot))
  else pure ()

/-- The other end of the link. -/
def otherEnd (p : InvitePeers ω) (snapshot : LinkSnapshot) : String :=
  if snapshot.localAccountId = p.ownerAccountId then snapshot.peerAccountId
  else snapshot.localAccountId

/-- `acceptInvite`, from the envelope on: run the handshake, and ensure the group or the
contact. -/
def acceptEnvelope (p : InvitePeers ω) (env : SignedEnvelope) (acceptorDisplayName : Option String)
    (forceReestablish : Bool) (nowMs : Int) : Proc (World (Joined ω)) LinkSnapshot := do
  let snapshot ← await fun s =>
    let r := p.acceptInvite env (nonBlank acceptorDisplayName) forceReestablish s.rest.rest
    (r.1, elsewhere r.2 s)
  match nonBlank env.groupId with
  | some groupId => do
    joinGroup p env groupId (otherEnd p snapshot) acceptorDisplayName nowMs
    pure snapshot
  | none => do
    connectDirectly p env snapshot (otherEnd p snapshot)
    pure snapshot

/-- The key that the code of an invite commits to: the account's for a delegated envelope, and
the signer's otherwise. -/
def committedPub (env : SignedEnvelope) : String :=
  if env.certChain = [] then env.signerPublicKeyB64 else env.accountIdentityPublicKeyB64

/-- `acceptInvite`. -/
def acceptInvite (p : InvitePeers ω) (inviteCode : String) (acceptorDisplayName : Option String)
    (forceReestablish : Bool) (nowMs : Int) : Proc (World (Joined ω)) LinkSnapshot :=
  if trim inviteCode = "" then throw
  else match p.parseInviteCodeV3 (trim inviteCode) with
    | none => throw
    | some (inviteId, publisherPublicKeyB64) => do
      let stored ← await fun s => (p.getStoredInviteEnvelope s.rest.rest inviteId, s)
      let resolved ← match stored with
        | some env => pure (some env)
        | none => inServices (p.fetchDurableInviteEnvelope inviteId publisherPublicKeyB64)
      match resolved with
      | none => throw
      | some env =>
        if committedPub env ≠ publisherPublicKeyB64 then throw
        else acceptEnvelope p env acceptorDisplayName forceReestablish nowMs

/-! ## Who is recorded -/

/-- Two strings of one digest. -/
def HasCollision (digest : String → String) : Prop := ∃ x y, x ≠ y ∧ digest x = digest y

/-- The salt that an envelope supplies. -/
def suppliedSalt (env : SignedEnvelope) : String := trim (env.groupSalt.getD "")

/-- Whoever is recorded anew as the creator of a group is one its id was derived from, with the
salt that was supplied. Where the id was derived from somebody else, whose id is as long, there
is a collision. -/
structure Bound (p : InvitePeers ω) (salt : String) (s t : World (Joined ω)) : Prop where
  derived : ∀ g x, t.founder g = some x → s.founder g ≠ some x →
    p.groupIdForCreator x salt = trim g
  same : ∀ g x y salt', t.founder g = some x → s.founder g ≠ some x →
    trim g = p.groupIdForCreator y salt' → x.length = y.length →
    x = y ∨ HasCollision p.digest

/-- An id that was derived from two accounts, whose own ids are equally long. -/
theorem creator_unique {p : InvitePeers ω} {x y salt salt' : String}
    (h : p.groupIdForCreator x salt = p.groupIdForCreator y salt') (hlen : x.length = y.length) :
    x = y ∨ HasCollision p.digest := by
  have hdigest : p.digest (x ++ ":" ++ salt) = p.digest (y ++ ":" ++ salt') := by
    unfold InvitePeers.groupIdForCreator at h
    have hlist := congrArg String.toList h
    rw [String.toList_append, String.toList_append] at hlist
    exact String.toList_injective (List.append_cancel_left hlist)
  by_cases hsame : x ++ ":" ++ salt = y ++ ":" ++ salt'
  · left
    have hlist := congrArg String.toList hsame
    simp only [String.toList_append, List.append_assoc] at hlist
    exact String.toList_injective (List.append_inj_left hlist (by
      rw [String.length_toList, String.length_toList, hlen]))
  · exact .inr ⟨_, _, hsame, hdigest⟩

theorem bound_of_derived {p : InvitePeers ω} {salt : String} {s t : World (Joined ω)}
    (h : ∀ g x, t.founder g = some x → s.founder g ≠ some x →
      p.groupIdForCreator x salt = trim g) : Bound p salt s t := by
  refine ⟨h, ?_⟩
  intro g x y salt' hx hnew hg hlen
  exact creator_unique ((h g x hx hnew).trans hg) hlen

/-- The creator that the acceptance of an envelope records, for the group it is to. -/
def recorded (p : InvitePeers ω) (s : World (Joined ω)) (env : SignedEnvelope)
    (acceptorDisplayName : Option String) (forceReestablish : Bool) (groupId : String) : String :=
  creatorOr (verifiedCreatedBy p env groupId) (otherEnd p
    (p.acceptInvite env (nonBlank acceptorDisplayName) forceReestablish s.rest.rest).1)
    p.ownerAccountId

/-- The inviter, or ourselves if the link does not say who that is. -/
def fallback (p : InvitePeers ω) (s : World (Joined ω)) (env : SignedEnvelope)
    (acceptorDisplayName : Option String) (forceReestablish : Bool) : String :=
  let inviter := otherEnd p
    (p.acceptInvite env (nonBlank acceptorDisplayName) forceReestablish s.rest.rest).1
  if inviter = "" then p.ownerAccountId else inviter

/-- The envelope is for no group, or for one that is known; or it names a founder; or the one
who is recorded without is nobody, or a founder after all. -/
def FounderShown (p : InvitePeers ω) (s : World (Joined ω)) (env : SignedEnvelope)
    (acceptorDisplayName : Option String) (forceReestablish : Bool) : Prop :=
  ∀ groupId, nonBlank env.groupId = some groupId →
    s.group groupId ≠ none ∨ nonBlank env.groupCreatedBy ≠ none ∨
      trim (fallback p s env acceptorDisplayName forceReestablish) = "" ∨
      p.groupIdForCreator (trim (fallback p s env acceptorDisplayName forceReestablish))
        (suppliedSalt env) = groupId

/-! ## What an acceptance does to the founders -/

/-- The property does not look beyond the founders of the groups. -/
def OfFounders (I : World (Joined ω) → Prop) : Prop :=
  ∀ s t, (∀ g, t.founder g = s.founder g) → I s → I t

section Frame

variable {I : World (Joined ω) → Prop} (hI : OfFounders I)
include hI

theorem keeps_inServices (q : Proc ω α) : Holds I (inServices q) :=
  keeps_zoom fun s _ hs => hI s _ (fun _ => rfl) hs

omit hI in
theorem keeps_passingOver {q : Proc (World (Joined ω)) Unit}
    (h : Holds I q) : Holds I (passingOver q) :=
  keeps_tryCatch h (holds_pure)

theorem keeps_ensureMember (id accountId : String) (nowMs : Int) :
    Holds I (ensureMembership id accountId .member "" none nowMs) := by
  apply keeps_of_wp
  intro s hs
  have hrow : ∀ m, I (s.withRow id accountId m) := fun m => hI s _ (fun _ => rfl) hs
  refine ensureMembership_spec ?_ ?_ (fun _ _ => ⟨hs, trivial⟩) hs hs
  · intro _
    exact ⟨⟨hrow _, trivial⟩, hrow _⟩
  · intro m q _ _ _
    exact ⟨⟨hrow _, trivial⟩, hrow _⟩

theorem keeps_reviveMember (id accountId : String) (nowMs : Int) :
    Holds I (reviveMembership id accountId .member "" none nowMs) := by
  apply keeps_of_wp
  intro s hs
  have hrow : ∀ m, I (s.withRow id accountId m) := fun m => hI s _ (fun _ => rfl) hs
  refine reviveMembership_spec ⟨hs, trivial⟩ ?_ hs hs
  intro m _ _
  exact ⟨⟨hrow _, trivial⟩, hrow _⟩

/-- Seating members makes no founder. -/
theorem keeps_seatMembers (p : InvitePeers ω) (id : String) (title : Option String)
    (peerAccountId : String) (nowMs : Int) :
    Holds I (seatMembers p id title peerAccountId nowMs) := by
  unfold seatMembers
  refine keeps_bind (keeps_ensureMember hI _ _ _) ?_
  intro _ _
  refine keeps_bind (keeps_reviveMember hI _ _ _) ?_
  intro _ _
  refine keeps_bind (Q := fun _ => True) ?_ ?_
  · unfold seatInviter
    split
    · refine keeps_bind (keeps_ensureMember hI _ _ _) ?_
      intro _ _
      exact holds_pure
    · exact holds_pure
  · intro _ _
    refine keeps_bind (keeps_inServices hI _) ?_
    intro _ _
    refine keeps_bind (keeps_inServices hI _) ?_
    intro _ _
    exact keeps_inServices hI _

theorem keeps_announceJoined (p : InvitePeers ω) (env : SignedEnvelope)
    (groupId peerAccountId : String) (acceptorDisplayName : Option String) :
    Holds I (announceJoined p env groupId peerAccountId acceptorDisplayName) := by
  unfold announceJoined
  refine keeps_bind (keeps_modify fun s hs => hI s _ (fun _ => rfl) hs) ?_
  intro _ _
  split
  · split
    · exact keeps_passingOver (keeps_inServices hI _)
    · exact holds_pure
  · exact holds_pure

theorem keeps_connectDirectly (p : InvitePeers ω) (env : SignedEnvelope)
    (snapshot : LinkSnapshot) (peerAccountId : String) :
    Holds I (connectDirectly p env snapshot peerAccountId) := by
  unfold connectDirectly
  refine keeps_bind (Q := fun _ => True) ?_ ?_
  · unfold recordContact
    split
    · exact keeps_passingOver (keeps_inServices hI _)
    · exact holds_pure
  · intro _ _
    split
    · exact keeps_passingOver (keeps_inServices hI _)
    · exact holds_pure

/-- A group is added where there was none, with the creator that was given. -/
theorem keeps_ensureGroup {s : World (Joined ω)} {groupId createdBy : String}
    {title joinedViaInviteId creatorSalt : Option String} {nowMs : Int} (hs : I s)
    (hnew : s.group groupId = none → trim createdBy ≠ "" → ∀ origin,
      I (found s groupId createdBy title origin nowMs)) :
    wp (ensureGroup groupId createdBy title joinedViaInviteId creatorSalt nowMs)
      (fun _ => I) I I s := by
  unfold ensureGroup
  by_cases hids : trim groupId = "" ∨ trim createdBy = ""
  · rw [if_pos hids]
    exact wp_throw hs
  · rw [if_neg hids]
    refine wp_bind (wp_await_read ?_ hs hs)
    split
    · exact wp_pure hs
    · rename_i hnone
      have h := hnew hnone (not_or.1 hids).2
      have hindexed : ∀ t, I t → I (indexed t groupId) := fun t ht => hI t _ (fun _ => rfl) ht
      refine wp_bind (wp_await ?_ hs (h _) hs)
      exact wp_await (hindexed _ (h _)) (h _) (hindexed _ (h _)) (h _)

end Frame

section Accepting

variable {p : InvitePeers ω} {env : SignedEnvelope} {s : World (Joined ω)}
  {acceptorDisplayName : Option String} {forceReestablish : Bool} {nowMs : Int} {groupId : String}

theorem nonBlank_some {x : Option String} {y : String} (h : nonBlank x = some y) :
    trim y = y ∧ y ≠ "" ∧ y = trim (x.getD "") := by
  unfold nonBlank at h
  cases x with
  | none => exact nomatch h
  | some x =>
    dsimp only at h
    split_ifs at h with hblank
    have heq : trim x = y := Option.some_inj.1 h
    subst heq
    exact ⟨trim_trim x, hblank, rfl⟩

theorem founder_found (s : World (Joined ω)) (groupId createdBy : String) (title : Option String)
    (origin : GroupOrigin) (nowMs : Int) (g : String) :
    (found s groupId createdBy title origin nowMs).founder g =
      if trim g = trim groupId then some (trim createdBy) else s.founder g := by
  show ((s.withGroup groupId _).group g).map ChatGroup.createdBy = _
  rw [World.group_withGroup]
  by_cases hg : trim g = trim groupId
  · rw [if_pos hg, if_pos hg]
    rfl
  · rw [if_neg hg, if_neg hg]
    rfl

/-- The founders of `t` are those of `s`, and the creator of one more group. -/
def OneMore (s : World (Joined ω)) (groupId x : String) (t : World (Joined ω)) : Prop :=
  ∀ g, t.founder g = if trim g = groupId then some x else s.founder g

theorem oneMore_ofFounders (s : World (Joined ω)) (groupId x : String) :
    OfFounders (OneMore s groupId x) := by
  intro t t' ht h g
  rw [ht]
  exact h g

/-- What the acceptance of an envelope can do to the founders. -/
def Settled (p : InvitePeers ω) (env : SignedEnvelope) (acceptorDisplayName : Option String)
    (forceReestablish : Bool) (s t : World (Joined ω)) : Prop :=
  (∀ g, t.founder g = s.founder g) ∨
    ∃ groupId, nonBlank env.groupId = some groupId ∧ s.group groupId = none ∧
      (nonBlank env.groupCreatedBy = none ∨ verifiedCreatedBy p env groupId ≠ none) ∧
      trim (recorded p s env acceptorDisplayName forceReestablish groupId) ≠ "" ∧
      OneMore s groupId (trim (recorded p s env acceptorDisplayName forceReestablish groupId)) t

theorem settled_ofFounders (p : InvitePeers ω) (env : SignedEnvelope)
    (acceptorDisplayName : Option String) (forceReestablish : Bool) (s : World (Joined ω)) :
    OfFounders (Settled p env acceptorDisplayName forceReestablish s) := by
  intro t t' ht h
  rcases h with hsame | ⟨groupId, hgroup, hnone, hshown, hne, hone⟩
  · left
    intro g
    rw [ht, hsame]
  · exact .inr ⟨groupId, hgroup, hnone, hshown, hne,
      oneMore_ofFounders s groupId _ t t' ht hone⟩

/-- The group of an invite is ensured, whatever becomes of its members. -/
theorem ensureGroupThread_keeps {I : World (Joined ω) → Prop} (hI : OfFounders I)
    {t : World (Joined ω)} {title groupCreatedBy creatorSalt joinedViaInviteId : Option String}
    {peerAccountId : String} (ht : I t)
    (hnew : t.group groupId = none →
      trim (creatorOr groupCreatedBy peerAccountId p.ownerAccountId) ≠ "" → ∀ origin,
        I (found t (trim groupId) (creatorOr groupCreatedBy peerAccountId p.ownerAccountId) title
          origin nowMs)) :
    wp (passingOver (ensureGroupThread p groupId title peerAccountId groupCreatedBy
      creatorSalt joinedViaInviteId nowMs)) (fun _ => I) I I t := by
  refine wp_tryCatch ?_
  have hcaught : ∀ t', I t' → wp (pure ()) (fun _ => I) I I t' := fun _ ht' => wp_pure ht'
  unfold ensureGroupThread
  by_cases hblank : trim groupId = ""
  · rw [if_pos hblank]
    exact wp_pure ht
  · rw [if_neg hblank]
    refine wp_bind (wp_mono (keeps_ensureGroup hI ht ?_) ?_ hcaught (fun _ h => h))
    · intro hnone
      refine hnew ?_
      rw [World.group, trim_trim] at hnone
      exact hnone
    · intro _ t' ht'
      exact wp_mono ((keeps_seatMembers hI _ _ _ _ _).wp ht') (fun _ _ h => h.1) hcaught
        (fun _ h => h)

/-- **What an acceptance does to the founders**, however its run ends. -/
theorem acceptEnvelope_settled :
    wp (acceptEnvelope p env acceptorDisplayName forceReestablish nowMs)
      (fun _ => Settled p env acceptorDisplayName forceReestablish s)
      (Settled p env acceptorDisplayName forceReestablish s)
      (Settled p env acceptorDisplayName forceReestablish s) s := by
  have hI := settled_ofFounders p env acceptorDisplayName forceReestablish s
  have hsame : ∀ t : World (Joined ω), (∀ g, t.founder g = s.founder g) →
      Settled p env acceptorDisplayName forceReestablish s t := fun _ ht => .inl ht
  have hs := hsame s fun _ => rfl
  unfold acceptEnvelope
  refine wp_bind (wp_await ?_ hs (hsame _ fun _ => rfl) hs)
  split
  · rename_i groupId hgroup
    obtain ⟨htrimmed, -, -⟩ := nonBlank_some hgroup
    unfold joinGroup
    dsimp only
    by_cases hrejected : nonBlank env.groupCreatedBy ≠ none ∧
        verifiedCreatedBy p env groupId = none
    · rw [if_pos hrejected]
      exact wp_bind (wp_throw (hsame _ fun _ => rfl))
    rw [if_neg hrejected]
    have hshown : nonBlank env.groupCreatedBy = none ∨ verifiedCreatedBy p env groupId ≠ none := by
      by_cases hnamed : nonBlank env.groupCreatedBy = none
      · exact .inl hnamed
      · exact .inr fun hnone => hrejected ⟨hnamed, hnone⟩
    -- the group is ensured, and what follows makes no founder
    refine wp_bind (wp_bind (wp_imp
      (ensureGroupThread_keeps hI (hsame _ fun _ => rfl) ?_) ?_))
    · intro hnone hne origin
      refine .inr ⟨groupId, hgroup, hnone, hshown, hne, ?_⟩
      intro g
      rw [founder_found, trim_trim, htrimmed]
      rfl
    · intro _ t ht
      exact wp_imp ((keeps_announceJoined hI _ _ _ _ _).wp ht)
        (fun _ _ h => wp_pure h.1)
  · refine wp_bind (wp_imp ((keeps_connectDirectly hI _ _ _ _).wp
      (hsame _ fun _ => rfl)) (fun _ _ h => wp_pure h.1))

/-- Where nothing fails, a group that is not known is ensured with its creator. -/
theorem yields_ensureGroup (t : World (Joined ω)) (createdBy : String)
    (title joinedViaInviteId creatorSalt : Option String) (nowMs : Int) (hg : trim groupId ≠ "")
    (hc : trim createdBy ≠ "") (hnone : t.group groupId = none) :
    ∃ origin, Yields
      (ensureGroup groupId createdBy title joinedViaInviteId creatorSalt nowMs) t ()
      (indexed (found t groupId createdBy title origin nowMs) groupId) := by
  refine ⟨⟨trim (creatorSalt.getD ""), trim (joinedViaInviteId.getD "")⟩, ?_⟩
  unfold ensureGroup
  rw [if_neg (not_or.2 ⟨hg, hc⟩)]
  refine (yields_await _ _).bind ?_
  dsimp only
  rw [hnone]
  exact (yields_await _ _).bind (yields_await _ _)

/-- Where nothing fails, an envelope that names no founder records whoever it can. -/
theorem accept_unnamed (hgroup : nonBlank env.groupId = some groupId)
    (hnone : s.group groupId = none) (hunnamed : nonBlank env.groupCreatedBy = none)
    (hne : trim (recorded p s env acceptorDisplayName forceReestablish groupId) ≠ "") :
    OneMore s groupId (trim (recorded p s env acceptorDisplayName forceReestablish groupId))
      (acceptEnvelope p env acceptorDisplayName forceReestablish nowMs [] s).state := by
  obtain ⟨htrimmed, hnamed, -⟩ := nonBlank_some hgroup
  have hI := oneMore_ofFounders s groupId
    (trim (recorded p s env acceptorDisplayName forceReestablish groupId))
  unfold acceptEnvelope
  rw [(yields_await _ _).bind_eq]
  dsimp only
  rw [hgroup]
  dsimp only
  rw [state_bind_pure]
  unfold joinGroup
  rw [if_neg fun h => h.1 hunnamed]
  unfold passingOver ensureGroupThread
  rw [if_neg (by rw [htrimmed]; exact hnamed)]
  rw [htrimmed]
  -- the group is ensured; what follows makes no founder
  obtain ⟨origin, hyields⟩ := yields_ensureGroup
    (elsewhere (p.acceptInvite env (nonBlank acceptorDisplayName) forceReestablish
      s.rest.rest).2 s)
    (creatorOr (verifiedCreatedBy p env groupId) (otherEnd p (p.acceptInvite env
      (nonBlank acceptorDisplayName) forceReestablish s.rest.rest).1) p.ownerAccountId)
    (nonBlank env.title) (env.inviteId.map trim)
    (if verifiedCreatedBy p env groupId = none then none else nonBlank env.groupSalt) nowMs
    (by rw [htrimmed]; exact hnamed) hne hnone
  rw [bind_congr_calm (hyields.tryCatch_bind_eq _ _)]
  refine Keeps.calm (keeps_seq (keeps_passingOver (keeps_seatMembers hI _ _ _ _ _))
    fun _ => keeps_announceJoined hI _ _ _ _ _) ?_
  intro g
  refine (founder_found _ groupId _ (nonBlank env.title) origin nowMs g).trans ?_
  rw [htrimmed]
  rfl

/-- The founder that was verified is the one that is recorded, under the salt that came with
it. -/
theorem recorded_verified {c : String} (h : verifiedCreatedBy p env groupId = some c) :
    trim (recorded p s env acceptorDisplayName forceReestablish groupId) = c ∧
      p.groupIdForCreator c (suppliedSalt env) = groupId := by
  have hmatch := h
  unfold verifiedCreatedBy at hmatch
  cases hc : nonBlank env.groupCreatedBy with
  | none =>
    rw [hc] at hmatch
    exact nomatch hmatch
  | some c' =>
    cases hsalt : nonBlank env.groupSalt with
    | none =>
      rw [hc, hsalt] at hmatch
      exact nomatch hmatch
    | some salt =>
      rw [hc, hsalt] at hmatch
      dsimp only at hmatch
      split_ifs at hmatch with hid
      have heq : c' = c := Option.some_inj.1 hmatch
      subst heq
      obtain ⟨htrim, hne, -⟩ := nonBlank_some hc
      have hbound : nonBlank (some c') = some c' := by
        unfold nonBlank
        dsimp only
        rw [if_neg (by rw [htrim]; exact hne), htrim]
      constructor
      · unfold recorded creatorOr
        rw [h, hbound]
        exact htrim
      · unfold suppliedSalt
        rw [← (nonBlank_some hsalt).2.2]
        exact hid

/-- Who is recorded where no founder is named. -/
theorem recorded_unnamed (hunnamed : nonBlank env.groupCreatedBy = none) :
    recorded p s env acceptorDisplayName forceReestablish groupId =
      fallback p s env acceptorDisplayName forceReestablish := by
  have hnone : verifiedCreatedBy p env groupId = none := by
    unfold verifiedCreatedBy
    rw [hunnamed]
  unfold recorded creatorOr
  rw [hnone]
  rfl

/-- An acceptance that shows its founder is bound. -/
theorem bound_of_shown {t : World (Joined ω)}
    (h : Settled p env acceptorDisplayName forceReestablish s t)
    (hshown : FounderShown p s env acceptorDisplayName forceReestablish) :
    Bound p (suppliedSalt env) s t := by
  refine bound_of_derived ?_
  intro g x hx hnew
  rcases h with hsame | ⟨groupId, hgroup, hnone, hverified, hne, hone⟩
  · rw [hsame] at hx
    exact absurd hx hnew
  · rw [hone] at hx
    by_cases hg : trim g = groupId
    · rw [if_pos hg, Option.some_inj] at hx
      rw [← hx, hg]
      rcases hverified with hunnamed | hsome
      · rw [recorded_unnamed hunnamed] at hne ⊢
        rcases hshown groupId hgroup with hknown | hnamed | hblank | hid
        · exact absurd hnone hknown
        · exact absurd hunnamed hnamed
        · exact absurd hblank hne
        · exact hid
      · obtain ⟨c, hc⟩ := Option.ne_none_iff_exists'.1 hsome
        obtain ⟨hrec, hid⟩ := recorded_verified hc
        rw [hrec]
        exact hid
    · rw [if_neg hg] at hx
      exact absurd hx hnew

theorem bound_of_same {salt : String} {t : World (Joined ω)}
    (h : ∀ g, t.founder g = s.founder g) : Bound p salt s t := by
  refine bound_of_derived ?_
  intro g x hx hnew
  rw [h] at hx
  exact absurd hx hnew

/-- An invite code, whichever envelope it leads to. -/
theorem acceptInvite_bound (inviteCode : String)
    (hshown : ∀ env w, FounderShown p (elsewhere w s) env acceptorDisplayName forceReestablish) :
    wp (acceptInvite p inviteCode acceptorDisplayName forceReestablish nowMs)
      (fun _ t => ∃ salt, Bound p salt s t) (fun t => ∃ salt, Bound p salt s t)
      (fun t => ∃ salt, Bound p salt s t) s := by
  have hsame : ∀ w, ∃ salt, Bound p salt s (elsewhere w s) :=
    fun w => ⟨"", bound_of_same fun _ => rfl⟩
  have hs : ∃ salt, Bound p salt s s := hsame s.rest.rest
  have haccept : ∀ env w, wp
      (acceptEnvelope p env acceptorDisplayName forceReestablish nowMs)
      (fun _ t => ∃ salt, Bound p salt s t) (fun t => ∃ salt, Bound p salt s t)
      (fun t => ∃ salt, Bound p salt s t) (elsewhere w s) := by
    intro env w
    have hbound : ∀ t, Settled p env acceptorDisplayName forceReestablish (elsewhere w s) t →
        ∃ salt, Bound p salt s t := by
      intro t ht
      have h := bound_of_shown ht (hshown env w)
      exact ⟨suppliedSalt env, h.derived, h.same⟩
    exact wp_mono acceptEnvelope_settled (fun _ => hbound) hbound hbound
  -- whichever envelope was found, and whatever was done to find it
  have hresolved : ∀ (resolved : Option SignedEnvelope) (publisherPublicKeyB64 : String) (w : ω),
      wp (match resolved with
        | none => throw
        | some env =>
          if committedPub env ≠ publisherPublicKeyB64 then throw
          else acceptEnvelope p env acceptorDisplayName forceReestablish nowMs)
      (fun _ t => ∃ salt, Bound p salt s t) (fun t => ∃ salt, Bound p salt s t)
      (fun t => ∃ salt, Bound p salt s t) (elsewhere w s) := by
    intro resolved publisherPublicKeyB64 w
    split
    · exact wp_throw (hsame w)
    · rename_i env
      by_cases hkey : committedPub env ≠ publisherPublicKeyB64
      · rw [if_pos hkey]
        exact wp_throw (hsame w)
      · rw [if_neg hkey]
        exact haccept env w
  unfold acceptInvite
  by_cases hcode : trim inviteCode = ""
  · rw [if_pos hcode]
    exact wp_throw hs
  rw [if_neg hcode]
  split
  · exact wp_throw hs
  · rename_i inviteId publisherPublicKeyB64 _
    refine wp_bind (wp_await_read ?_ hs hs)
    split
    · rename_i env _
      exact wp_bind (wp_pure (hresolved (some env) publisherPublicKeyB64 s.rest.rest))
    · refine wp_bind (wp_zoom (wp_any ?_ hsame hsame))
      intro resolved w
      exact hresolved resolved publisherPublicKeyB64 w

end Accepting

/-- **The founder of a group that is joined.** However the acceptance of an invite goes, it records
nobody from whom the id of the group was not derived, exactly if the envelope shows the founder.
No group op that comes in, a snapshot of a group's state among them, makes or changes a founder. -/
theorem founder_bound_iff (p : InvitePeers ω) (env : SignedEnvelope) (s : World (Joined ω))
    (acceptorDisplayName : Option String) (forceReestablish : Bool) (nowMs : Int) :
    ((∀ fates, Bound p (suppliedSalt env) s
        (acceptEnvelope p env acceptorDisplayName forceReestablish nowMs fates s).state) ↔
      FounderShown p s env acceptorDisplayName forceReestablish) ∧
    ∀ (q : Peers (Joined ω)) (op : GroupOp) (senderAccountId : String) (receivedAtMs : Int)
      (fates : List Fate) (g : String),
      (Applier.handle q op senderAccountId receivedAtMs fates s).state.founder g = s.founder g := by
  refine ⟨⟨?_, ?_⟩, ?_⟩
  · intro hbound groupId hgroup
    by_contra hnot
    simp only [not_or] at hnot
    obtain ⟨hunknown, hnamed, hne, hid⟩ := hnot
    have hnone : s.group groupId = none := not_not.1 hunknown
    have hunnamed : nonBlank env.groupCreatedBy = none := not_not.1 hnamed
    have hrec : recorded p s env acceptorDisplayName forceReestablish groupId =
        fallback p s env acceptorDisplayName forceReestablish := recorded_unnamed hunnamed
    have hone : OneMore s groupId _
        (acceptEnvelope p env acceptorDisplayName forceReestablish nowMs [] s).state :=
      accept_unnamed hgroup hnone hunnamed (by rw [hrec]; exact hne)
    have htrimmed := (nonBlank_some hgroup).1
    have hfounder := hone groupId
    rw [if_pos htrimmed, hrec] at hfounder
    have hnew : s.founder groupId = none := by
      unfold World.founder
      rw [hnone]
      rfl
    have hderived := (hbound []).derived groupId _ hfounder (by rw [hnew]; exact nofun)
    exact hid (hderived.trans htrimmed)
  · intro hshown fates
    exact bound_of_shown (wp_ending acceptEnvelope_settled fates) hshown
  · intro q op senderAccountId receivedAtMs fates g
    exact (wp_ending (handle_turned senderAccountId receivedAtMs) fates).founders g

/-! ### An invite that leaves the founder out -/

/-- A server whose invites come from bob. -/
def guestOfBob : InvitePeers Unit where
  ownerAccountId := "me"
  parseInviteCodeV3 code := some (code, "bob's key")
  getStoredInviteEnvelope _ _ := none
  fetchDurableInviteEnvelope _ _ := pure none
  acceptInvite _ _ _ w := (⟨"pl_1", "me", "bob", some "inbox of bob"⟩, w)
  digest x := "<" ++ x ++ ">"
  ensureActiveContact _ _ := pure ()
  ensureThread _ _ := pure ()
  emitGroupUpdated _ := pure ()
  emitGroupMembersUpdated _ := pure ()
  emitThreadIndexUpdated _ _ w := w
  sendMemberJoinOp _ _ _ _ := pure ()
  ensureDirectThread _ _ := pure ()
  directThreadIdForPeerLink _ _ := ""

def noGroups : World (Joined Unit) := ⟨OrdMap.empty, OrdMap.empty, ⟨OrdMap.empty, [], ()⟩⟩

/-- An invite of bob's to the group that alice founded. -/
def founderLeftOut : SignedEnvelope where
  inviteId := some "inv_1"
  groupId := some "grp_<alice:17>"
  groupCreatedBy := none
  groupSalt := none
  title := some "Club"
  creatorDisplayName := some "Bob"
  certChain := []
  accountIdentityPublicKeyB64 := ""
  signerPublicKeyB64 := "bob's key"

/-- **The inviter is made the founder.** Bob is recorded as the creator of the group, and its id was
derived from alice. -/
theorem inviter_made_founder : ¬ ∀ (p : InvitePeers Unit) (env : SignedEnvelope)
    (s : World (Joined Unit)) (acceptorDisplayName : Option String) (forceReestablish : Bool)
    (nowMs : Int) (fates : List Fate), Bound p (suppliedSalt env) s
      (acceptEnvelope p env acceptorDisplayName forceReestablish nowMs fates s).state := by
  intro h
  have hbound := h guestOfBob founderLeftOut noGroups none false 7 []
  have hid := hbound.derived "grp_<alice:17>" "bob" (by decide) (by decide)
  exact absurd hid (by decide)

end Founding

end RezChat.Groups
