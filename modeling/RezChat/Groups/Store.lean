/-
The group store (`storage/ChatGroupStore.js`).

One table of groups and one of memberships, both of one owner. A row is found by
the group and the account it is about; each id is trimmed on the way in, and an
empty one is refused (`requireId`). The keys of the tables are digests of the
ids and are modelled by the ids themselves.

Every call is a read and at most one write, so an interrupted call has either
written its row or left the table as it was. That is what the specifications
below say, one for each call.
-/
import RezChat.Lib.Async
import RezChat.Lib.OrdMap
import RezChat.Inbox.Frame

set_option autoImplicit false

namespace RezChat.Groups

open Inbox (trim trim_trim)
open Proc

/-! ## Rows -/

/-- `GROUP_ROLES`. -/
inductive GroupRole where
  | creator
  | admin
  | member
  deriving DecidableEq

/-- `GROUP_MEMBER_STATES`. -/
inductive MemberState where
  | active
  | left
  | removed
  deriving DecidableEq

/-- A membership-consent proof: the key of a joiner and its signature. -/
structure JoinProof where
  joinerSignerPublicKeyB64 : String
  joinerSigB64 : String
  deriving DecidableEq

structure ChatGroupMember where
  role : GroupRole
  state : MemberState
  displayName : Option String
  joinedAtMs : Int
  updatedAtMs : Int
  proof : Option JoinProof
  deriving DecidableEq

/-- A group. Its strings are trimmed when the record is made. -/
structure ChatGroup where
  title : String
  avatarFileHash : String
  createdBy : String
  createdBy_trimmed : trim createdBy = createdBy
  createdAtMs : Int
  updatedAtMs : Int

/-- The group store, and whatever else there is. -/
structure World (ω : Type) where
  groups : OrdMap String ChatGroup
  memberships : OrdMap (String × String) ChatGroupMember
  rest : ω

variable {ω α : Type}

def World.group (s : World ω) (groupId : String) : Option ChatGroup := s.groups.get? (trim groupId)

/-- The membership row of an account in a group. -/
def World.row (s : World ω) (groupId accountId : String) : Option ChatGroupMember :=
  s.memberships.get? (trim groupId, trim accountId)

/-- The store with one row written. -/
def World.withRow (s : World ω) (groupId accountId : String) (m : ChatGroupMember) : World ω :=
  { s with memberships := s.memberships.set (trim groupId, trim accountId) m }

def World.withGroup (s : World ω) (groupId : String) (g : ChatGroup) : World ω :=
  { s with groups := s.groups.set (trim groupId) g }

theorem World.row_withRow (s : World ω) (groupId accountId g a : String) (m : ChatGroupMember) :
    (s.withRow groupId accountId m).row g a =
      if trim g = trim groupId ∧ trim a = trim accountId then some m else s.row g a := by
  rw [World.row, World.withRow, OrdMap.get?_set]
  simp only [Prod.mk.injEq]
  rfl

theorem World.group_withGroup (s : World ω) (groupId g : String) (grp : ChatGroup) :
    (s.withGroup groupId grp).group g =
      if trim g = trim groupId then some grp else s.group g := by
  rw [World.group, World.withGroup, OrdMap.get?_set]
  rfl

namespace GroupStore

/-! ## Calls -/

/-- `requireId`, for a call on a row. -/
def withIds (groupId accountId : String) (p : Proc (World ω) α) : Proc (World ω) α :=
  if trim groupId = "" ∨ trim accountId = "" then throw else p

def readRow (groupId accountId : String) : Proc (World ω) (Option ChatGroupMember) :=
  await fun s => (s.row groupId accountId, s)

def writeRow (groupId accountId : String) (m : ChatGroupMember) : Proc (World ω) Unit :=
  await fun s => ((), s.withRow groupId accountId m)

/-- `getGroup`. -/
def getGroup (groupId : String) : Proc (World ω) (Option ChatGroup) :=
  if trim groupId = "" then throw
  else await fun s => (s.group groupId, s)

/-- `getMembership`. -/
def getMembership (groupId accountId : String) : Proc (World ω) (Option ChatGroupMember) :=
  withIds groupId accountId (readRow groupId accountId)

/-- What `ensureMembership` returns. -/
structure Ensured where
  membership : Option ChatGroupMember
  created : Bool
  upgraded : Bool

/-- The name a row is given: the trimmed one, if anything is left of it. -/
def boundName (displayName : String) : Option String :=
  if trim displayName = "" then none else some (trim displayName)

/-- A consent proof as a row carries it: both halves trimmed, and neither empty. -/
def carried (joinProof : Option JoinProof) : Option JoinProof :=
  match joinProof with
  | some p =>
    if trim p.joinerSignerPublicKeyB64 = "" ∨ trim p.joinerSigB64 = "" then none
    else some ⟨trim p.joinerSignerPublicKeyB64, trim p.joinerSigB64⟩
  | none => none

/-- The row that `ensureMembership` makes. -/
def newRow (role : GroupRole) (displayName : String) (joinProof : Option JoinProof)
    (nowMs : Int) : ChatGroupMember where
  role := role
  state := .active
  displayName := boundName displayName
  joinedAtMs := nowMs
  updatedAtMs := nowMs
  proof := carried joinProof

/-- A row without a proof is given one, and with it the name that was signed. -/
def provedRow (m : ChatGroupMember) (displayName : String) (p : JoinProof) : ChatGroupMember :=
  { m with
    displayName := match boundName displayName with
      | some name => some name
      | none => m.displayName
    proof := some p }

/-- `ensureMembership`: add a row, or attach the consent proof to one that has
none. It changes neither the role nor the state of a row. -/
def ensureMembership (groupId accountId : String) (role : GroupRole) (displayName : String)
    (joinProof : Option JoinProof) (nowMs : Int) : Proc (World ω) Ensured :=
  withIds groupId accountId do
    let existing ← readRow groupId accountId
    match existing with
    | some m =>
      match carried joinProof, m.proof with
      | some p, none => do
        writeRow groupId accountId (provedRow m displayName p)
        pure ⟨some (provedRow m displayName p), false, true⟩
      | _, _ => pure ⟨some m, false, false⟩
    | none => do
      writeRow groupId accountId (newRow role displayName joinProof nowMs)
      pure ⟨some (newRow role displayName joinProof nowMs), true, false⟩

/-- The row that `reviveMembership` makes. -/
def revivedRow (m : ChatGroupMember) (role : GroupRole) (displayName : String)
    (joinProof : Option JoinProof) (nowMs : Int) : ChatGroupMember :=
  { m with
    role := role
    state := .active
    displayName := match boundName displayName with
      | some name => some name
      | none => m.displayName
    proof := match carried joinProof with
      | some p => some p
      | none => m.proof
    updatedAtMs := nowMs }

/-- `reviveMembership`: bring a removed member back; whether there was one. -/
def reviveMembership (groupId accountId : String) (role : GroupRole) (displayName : String)
    (joinProof : Option JoinProof) (nowMs : Int) : Proc (World ω) Bool :=
  withIds groupId accountId do
    let existing ← readRow groupId accountId
    match existing with
    | some m =>
      if m.state = .removed then do
        writeRow groupId accountId (revivedRow m role displayName joinProof nowMs)
        pure true
      else pure false
    | none => pure false

/-- Overwrite a row that exists; whether there was one. -/
def updateRow (groupId accountId : String) (f : ChatGroupMember → ChatGroupMember) :
    Proc (World ω) Bool :=
  withIds groupId accountId do
    let existing ← readRow groupId accountId
    match existing with
    | some m => do
      writeRow groupId accountId (f m)
      pure true
    | none => pure false

def roleRow (role : GroupRole) (nowMs : Int) (m : ChatGroupMember) : ChatGroupMember :=
  { m with role := role, updatedAtMs := nowMs }

def removedRow (nowMs : Int) (m : ChatGroupMember) : ChatGroupMember :=
  { m with state := .removed, updatedAtMs := nowMs }

/-- `setMemberRole`. -/
def setMemberRole (groupId accountId : String) (role : GroupRole) (nowMs : Int) :
    Proc (World ω) Bool :=
  updateRow groupId accountId (roleRow role nowMs)

/-- `removeMember`. -/
def removeMember (groupId accountId : String) (nowMs : Int) : Proc (World ω) Bool :=
  updateRow groupId accountId (removedRow nowMs)

/-- Overwrite a group that exists; whether there was one. -/
def updateGroup (groupId : String) (f : ChatGroup → ChatGroup) : Proc (World ω) Bool := do
  let existing ← getGroup groupId
  match existing with
  | some g => do
    await fun s => ((), s.withGroup groupId (f g))
    pure true
  | none => pure false

/-- `renameGroup`. -/
def renameGroup (groupId title : String) (nowMs : Int) : Proc (World ω) Bool := do
  let existing ← getGroup groupId
  match existing with
  | some g =>
    if trim title = "" then throw
    else do
      await fun s => ((), s.withGroup groupId
        { g with title := trim title, updatedAtMs := nowMs })
      pure true
  | none => pure false

/-- `setGroupAvatar`. -/
def setGroupAvatar (groupId avatarFileHash : String) (nowMs : Int) : Proc (World ω) Bool :=
  updateGroup groupId fun g => { g with
    avatarFileHash := trim avatarFileHash
    updatedAtMs := nowMs }

/-! ## What the calls do -/

section Specs

variable {s : World ω} {g a : String} {E D : World ω → Prop}

theorem withIds_spec {p : Proc (World ω) α} {R : α → World ω → Prop} (hE : E s)
    (h : wp p R E D s) : wp (withIds g a p) R E D s := by
  unfold withIds
  split
  · exact wp_throw hE
  · exact h

theorem getGroup_spec {R : Option ChatGroup → World ω → Prop} (hR : R (s.group g) s) (hE : E s)
    (hD : D s) : wp (getGroup g) R E D s := by
  unfold getGroup
  split
  · exact wp_throw hE
  · exact wp_await_read hR hE hD

theorem getMembership_spec {R : Option ChatGroupMember → World ω → Prop} (hR : R (s.row g a) s)
    (hE : E s) (hD : D s) : wp (getMembership g a) R E D s :=
  withIds_spec hE (wp_await_read hR hE hD)

theorem writeRow_spec {R : Unit → World ω → Prop} {m : ChatGroupMember}
    (hR : R () (s.withRow g a m)) (hE : E s) (hE' : E (s.withRow g a m)) (hD : D s) :
    wp (writeRow g a m) R E D s :=
  wp_await hR hE hE' hD

/-- A row that exists is overwritten, or left as it is by a call that fails. -/
theorem updateRow_spec {f : ChatGroupMember → ChatGroupMember} {R : Bool → World ω → Prop}
    (hnone : s.row g a = none → R false s)
    (hsome : ∀ m, s.row g a = some m → R true (s.withRow g a (f m)) ∧ E (s.withRow g a (f m)))
    (hE : E s) (hD : D s) : wp (updateRow g a f) R E D s := by
  unfold updateRow
  refine withIds_spec hE (wp_bind (wp_await_read ?_ hE hD))
  split
  · rename_i m hm
    exact wp_bind (writeRow_spec (wp_pure (hsome m hm).1) hE (hsome m hm).2 hD)
  · rename_i hm
    exact wp_pure (hnone hm)

/-- A removed member is brought back, and nobody else is touched. -/
theorem reviveMembership_spec {role : GroupRole} {displayName : String}
    {joinProof : Option JoinProof} {nowMs : Int} {R : Bool → World ω → Prop}
    (hother : R false s)
    (hremoved : ∀ m, s.row g a = some m → m.state = .removed →
      R true (s.withRow g a (revivedRow m role displayName joinProof nowMs)) ∧
        E (s.withRow g a (revivedRow m role displayName joinProof nowMs)))
    (hE : E s) (hD : D s) :
    wp (reviveMembership g a role displayName joinProof nowMs) R E D s := by
  unfold reviveMembership
  refine withIds_spec hE (wp_bind (wp_await_read ?_ hE hD))
  split
  · rename_i m hm
    split
    · rename_i hstate
      have h := hremoved m hm hstate
      exact wp_bind (writeRow_spec (wp_pure h.1) hE h.2 hD)
    · exact wp_pure hother
  · exact wp_pure hother

/-- A row is added where there is none, and a proof where there is none. -/
theorem ensureMembership_spec {role : GroupRole} {displayName : String}
    {joinProof : Option JoinProof} {nowMs : Int} {R : Ensured → World ω → Prop}
    (hnone : s.row g a = none →
      R ⟨some (newRow role displayName joinProof nowMs), true, false⟩
          (s.withRow g a (newRow role displayName joinProof nowMs)) ∧
        E (s.withRow g a (newRow role displayName joinProof nowMs)))
    (hproved : ∀ m p, s.row g a = some m → m.proof = none → carried joinProof = some p →
      R ⟨some (provedRow m displayName p), false, true⟩
          (s.withRow g a (provedRow m displayName p)) ∧
        E (s.withRow g a (provedRow m displayName p)))
    (hsome : ∀ m, s.row g a = some m → R ⟨some m, false, false⟩ s)
    (hE : E s) (hD : D s) :
    wp (ensureMembership g a role displayName joinProof nowMs) R E D s := by
  unfold ensureMembership
  refine withIds_spec hE (wp_bind (wp_await_read ?_ hE hD))
  split
  · rename_i m hm
    split
    · rename_i p hp hproof
      have h := hproved m p hm hproof hp
      exact wp_bind (writeRow_spec (wp_pure h.1) hE h.2 hD)
    · exact wp_pure (hsome m hm)
  · rename_i hm
    have h := hnone hm
    exact wp_bind (writeRow_spec (wp_pure h.1) hE h.2 hD)

/-- A group keeps its founder, whatever else becomes of it. -/
theorem updateGroup_spec {f : ChatGroup → ChatGroup} {R : Bool → World ω → Prop}
    (hnone : R false s)
    (hsome : ∀ grp, s.group g = some grp →
      R true (s.withGroup g (f grp)) ∧ E (s.withGroup g (f grp)))
    (hE : E s) (hD : D s) : wp (updateGroup g f) R E D s := by
  unfold updateGroup
  refine wp_bind (getGroup_spec ?_ hE hD)
  split
  · rename_i grp hgrp
    have h := hsome grp hgrp
    exact wp_bind (wp_await (wp_pure h.1) hE h.2 hD)
  · exact wp_pure hnone

theorem renameGroup_spec {title : String} {nowMs : Int} {R : Bool → World ω → Prop}
    (hnone : R false s)
    (hsome : ∀ grp, s.group g = some grp →
      R true (s.withGroup g { grp with title := trim title, updatedAtMs := nowMs }) ∧
        E (s.withGroup g { grp with title := trim title, updatedAtMs := nowMs }))
    (hE : E s) (hD : D s) : wp (renameGroup g title nowMs) R E D s := by
  unfold renameGroup
  refine wp_bind (getGroup_spec ?_ hE hD)
  split
  · rename_i grp hgrp
    have h := hsome grp hgrp
    split
    · exact wp_throw hE
    · exact wp_bind (wp_await (wp_pure h.1) hE h.2 hD)
  · exact wp_pure hnone

end Specs

end GroupStore

end RezChat.Groups
