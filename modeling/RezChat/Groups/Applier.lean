/-
The applier of inbound group ops (`services/ServerGroupOpApplier.js`).

A group op arrives with the account its envelope authenticates. Except for the
announcement of a join, it is only looked at if that account is an active member
of the group. What it then does to the roster is decided by its handler: an admin
may kick and set roles, a member may leave, and whoever can show a proof of
consent may be added.

What the applier calls besides the group store is a parameter. Its failures are
caught almost everywhere; where a store was written to and its failure passed
over, the answer says so.
-/
import RezChat.Events.Service
import RezChat.Groups.Store

set_option autoImplicit false

namespace RezChat.Groups

open Inbox (trim trim_trim)
open Events (Answer GroupOpTurn)

/-! ## Ops -/

/-- One entry of a `member.contact` op. -/
structure MemberContact where
  accountId : String
  inboxId : String
  displayName : String
  isCreator : Bool
  joinProof : Option JoinProof
  deriving DecidableEq

/-- A `member.join` op. -/
structure MemberJoin where
  accountId : String
  inviteId : String
  displayName : String
  joinProof : JoinProof
  deriving DecidableEq

/-- `GROUP_OPS`, each with the fields it uses. -/
inductive OpBody where
  | rename (title : String)
  | setAvatar (avatarFileHash avatarDataB64 : String)
  | kick (accountId : String)
  | setRole (accountId : String) (role : GroupRole)
  | leave (accountId : String)
  | channelOp
  | channelsSyncRequest
  | groupState (title avatarFileHash avatarDataB64 : String)
  | memberJoin (join : MemberJoin)
  | memberContact (contacts : List MemberContact)
  deriving DecidableEq

/-- A `GroupOpPayloadV1`. Its ids are trimmed when the record is made. -/
structure GroupOp where
  groupId : String
  groupId_trimmed : trim groupId = groupId
  actedAtMs : Int
  groupOpId : String
  body : OpBody
  deriving DecidableEq

/-- The signed envelope of an invite, as far as a join looks at it. -/
structure InviteEnvelope where
  kind : String
  groupId : String
  createdAtMs : Int

/-- What the applier calls. -/
structure Peers (ω : Type) where
  ownerAccountId : String
  authority : Bool
  verifyMemberJoinProof : String → String → String → JoinProof → Bool
  getStoredInviteEnvelope : ω → String → Option InviteEnvelope
  authorizeInviteJoin : String → String → Int → Proc ω Bool
  ensureKnownAccount : String → String → Proc ω Unit
  ensureThreadTitle : String → String → Proc ω Unit
  lockThread : String → Proc ω Unit
  persistJoinSystemMessage : MemberJoin → GroupOp → Int → Proc ω Bool
  fileTransfer : Bool
  storeFile : String → String → Proc ω Unit
  emitMembersUpdated : String → Proc ω Unit
  emitGroupUpdated : String → Proc ω Unit
  applyChannelOp : GroupOp → String → Bool → Proc ω Bool
  answerSyncRequest : GroupOp → String → Proc ω Unit
  bootstrapCoMemberLink : String → String → ω → ω

namespace Applier

open GroupStore ChatGroupMember Proc

variable {ω α : Type}

def inRest (p : Proc ω α) : Proc (World ω) α :=
  zoom World.rest (fun w s => { s with rest := w }) p

/-- A call whose failure is logged and passed over; whether it failed. -/
def passOver (p : Proc ω Unit) : Proc (World ω) Bool :=
  tryCatch (do
    inRest p
    pure false) (pure true)

/-- A store that is read or written at best effort. -/
def orElse (p : Proc (World ω) α) (fallback : α) : Proc (World ω) α :=
  tryCatch p (pure fallback)

/-- An op that was dealt with, with nothing to flush. -/
def consumed (failed : Bool) : GroupOpTurn := ⟨⟨true, failed⟩, none, false⟩

/-- An op that was not even looked at. -/
def declined : GroupOpTurn := ⟨⟨false, false⟩, none, false⟩

/-! ## What the ops ask -/

/-- `#getMembership` of the groups service. A listing that fails is empty. -/
def memberOf (groupId accountId : String) : Proc (World ω) (Option ChatGroupMember) :=
  orElse (getMembership groupId accountId) none

/-- `#isCreator`. A group that cannot be read has no creator. -/
def isCreator (groupId accountId : String) : Proc (World ω) Bool :=
  if trim accountId = "" then pure false
  else do
    let group ← orElse (getGroup groupId) none
    pure (match group with
      | some g => decide (g.createdBy = trim accountId)
      | none => false)

/-- `#isEffectiveAdmin`. -/
def isEffectiveAdmin (groupId accountId : String) (m : ChatGroupMember) :
    Proc (World ω) Bool :=
  if m.role = .admin ∨ m.role = .creator then pure true
  else do
    let group ← orElse (getGroup groupId) none
    pure (match group with
      | some g => decide (g.createdBy = accountId)
      | none => false)

/-- `#verifyConsent`, by way of `verifyMemberJoinProof`. -/
def verifyConsent (p : Peers ω) (groupId accountId displayName : String)
    (joinProof : Option JoinProof) : Proc (World ω) Bool :=
  match p.authority, carried joinProof with
  | true, some proof =>
    await fun s =>
      (p.verifyMemberJoinProof groupId (trim accountId) displayName proof, s)
  | _, _ => pure false

/-! ## The handlers -/

def maxClockSkewMs : Int := 5 * 60 * 1000

/-- The time an op was acted at, clamped to our clock. -/
def clampedActedAtMs (op : GroupOp) (nowMs : Int) : Int := min op.actedAtMs (nowMs + maxClockSkewMs)

/-- Whether the group was already changed at the time an op was acted at. -/
def outdated (group : Option ChatGroup) (op : GroupOp) (nowMs : Int) : Bool :=
  match group with
  | some g => decide (clampedActedAtMs op nowMs ≤ g.updatedAtMs)
  | none => false

/-- `#applyIncomingRename`. -/
def applyIncomingRename (p : Peers ω) (op : GroupOp) (title : String) (nowMs : Int) :
    Proc (World ω) Bool := do
  let existingGroup ← orElse (getGroup op.groupId) none
  if outdated existingGroup op nowMs then pure false
  else do
    let renamed ← renameGroup op.groupId title nowMs
    if renamed then passOver (p.ensureThreadTitle op.groupId title) else pure false

/-- Store the bytes of an avatar, unless there are none to store. -/
def storeAvatar (p : Peers ω) (avatarFileHash avatarDataB64 : String) : Proc (World ω) Bool :=
  if avatarFileHash = "" then pure false
  else if p.fileTransfer = true then passOver (p.storeFile avatarFileHash avatarDataB64)
  else pure true

/-- `#applyIncomingSetAvatar`. -/
def applyIncomingSetAvatar (p : Peers ω) (op : GroupOp) (avatarFileHash avatarDataB64 : String)
    (nowMs : Int) : Proc (World ω) Bool := do
  let existingGroup ← orElse (getGroup op.groupId) none
  if outdated existingGroup op nowMs then pure false
  else do
    let dropped ← storeAvatar p avatarFileHash avatarDataB64
    if dropped then pure true
    else do
      let _ ← setGroupAvatar op.groupId avatarFileHash nowMs
      pure false

/-- The title of a group that has none yet. -/
def fillTitle (p : Peers ω) (op : GroupOp) (g : ChatGroup) (title : String) (nowMs : Int) :
    Proc (World ω) Bool :=
  if trim g.title = "" ∧ trim title ≠ "" then do
    let renamed ← renameGroup op.groupId (trim title) nowMs
    if renamed then passOver (p.ensureThreadTitle op.groupId (trim title)) else pure false
  else pure false

/-- The avatar of a group that has none yet. -/
def fillAvatar (p : Peers ω) (op : GroupOp) (g : ChatGroup) (avatarFileHash avatarDataB64 : String)
    (nowMs : Int) : Proc (World ω) Bool :=
  if trim g.avatarFileHash = "" ∧ trim avatarFileHash ≠ "" ∧ avatarDataB64 ≠ "" ∧
      p.fileTransfer = true then do
    let dropped ← passOver (p.storeFile (trim avatarFileHash) avatarDataB64)
    if dropped then pure true
    else do
      let _ ← setGroupAvatar op.groupId (trim avatarFileHash) nowMs
      pure false
  else pure false

/-- `#applyIncomingGroupState`: fill in what is empty. -/
def applyIncomingGroupState (p : Peers ω) (op : GroupOp)
    (title avatarFileHash avatarDataB64 : String) (nowMs : Int) : Proc (World ω) Bool := do
  let existingGroup ← orElse (getGroup op.groupId) none
  match existingGroup with
  | none => pure false
  | some g => do
    let titleFailed ← fillTitle p op g title nowMs
    let avatarFailed ← fillAvatar p op g avatarFileHash avatarDataB64 nowMs
    let _ ← orElse (getGroup op.groupId) none
    pure (titleFailed || avatarFailed)

/-- Tell that a roster changed. -/
def emitUpdates (p : Peers ω) (groupId : String) : Proc (World ω) Bool := do
  inRest (p.emitMembersUpdated groupId)
  inRest (p.emitGroupUpdated groupId)
  pure false

/-- `#applyIncomingKick`. The founder of the group is not kicked by anyone. -/
def applyIncomingKick (p : Peers ω) (op : GroupOp) (accountId : String) (nowMs : Int) :
    Proc (World ω) Bool := do
  let founder ← isCreator op.groupId accountId
  if founder then pure false
  else do
    let removed ← removeMember op.groupId accountId nowMs
    if removed then
      if accountId = p.ownerAccountId then passOver (p.lockThread op.groupId)
      else emitUpdates p op.groupId
    else pure false

/-- `#applyIncomingSetRole`. The founder keeps its role, and nobody else gets it. -/
def applyIncomingSetRole (p : Peers ω) (op : GroupOp) (accountId : String) (role : GroupRole)
    (nowMs : Int) : Proc (World ω) Bool := do
  let founder ← isCreator op.groupId accountId
  if founder || decide (role = .creator) then pure false
  else do
    let updated ← setMemberRole op.groupId accountId role nowMs
    if updated then do
      inRest (p.emitMembersUpdated op.groupId)
      pure false
    else pure false

/-- `#applyIncomingLeave`. -/
def applyIncomingLeave (p : Peers ω) (op : GroupOp) (accountId : String) (nowMs : Int) :
    Proc (World ω) Bool :=
  if accountId = p.ownerAccountId then pure false
  else do
    let removed ← removeMember op.groupId accountId nowMs
    if removed then emitUpdates p op.groupId else pure false

/-! ## Joining -/

/-- `#resolveJoinInviteEnvelope`: the invite of ours that a join rests on. -/
def resolveJoinInviteEnvelope (p : Peers ω) (inviteId groupId : String) :
    Proc (World ω) (Option InviteEnvelope) := do
  let envelope ← orElse (await fun s => (p.getStoredInviteEnvelope s.rest inviteId, s)) none
  pure (envelope.filter fun e => decide (e.kind = "group" ∧ trim e.groupId = groupId))

/-- Whether an invite was issued before its joiner was removed. -/
def predated (existing : Option ChatGroupMember) (createdAtMs : Int) : Bool :=
  match existing with
  | some m => decide (m.state = .removed) && decide (createdAtMs ≤ m.updatedAtMs)
  | none => false

/-- Whether a join that its joiner announced itself is let in: an invite of ours
for this group, issued after the joiner was removed if it was, and not spent. -/
def selfAnnounced (p : Peers ω) (op : GroupOp) (join : MemberJoin) (joiner : String)
    (existing : Option ChatGroupMember) (nowMs : Int) : Proc (World ω) Bool := do
  let envelope ← resolveJoinInviteEnvelope p join.inviteId op.groupId
  match envelope with
  | none => pure false
  | some e =>
    if predated existing e.createdAtMs then pure false
    else orElse (inRest (p.authorizeInviteJoin join.inviteId joiner nowMs)) false

/-- Whether a join that somebody else forwarded is let in: an active member vouches
for it, and the joiner was never removed. -/
def forwarded (op : GroupOp) (sender : String) (existing : Option ChatGroupMember) :
    Proc (World ω) Bool := do
  let forwarder ← memberOf op.groupId sender
  pure (match forwarder with
    | some f => decide (f.state = .active) && !decide ((existing.map state) =
        some .removed)
    | none => false)

/-- Write the row of a joiner: revive it if it was removed, else add it. The answer
is whether the roster changed, and whether the write failed. -/
def admitJoiner (op : GroupOp) (join : MemberJoin) (joiner : String)
    (existing : Option ChatGroupMember) (nowMs : Int) : Proc (World ω) (Bool × Bool) :=
  if (existing.map state) = some .removed then
    tryCatch (do
      let revived ← reviveMembership op.groupId joiner .member join.displayName
        (some join.joinProof) nowMs
      pure (revived, false)) (pure (false, true))
  else
    tryCatch (do
      let e ← ensureMembership op.groupId joiner .member join.displayName (some join.joinProof)
        nowMs
      pure (e.created || e.upgraded, false)) (pure (false, true))

/-- Announce a roster that changed, in the group's thread too. -/
def announceJoin (p : Peers ω) (op : GroupOp) (join : MemberJoin) (changed : Bool)
    (nowMs : Int) : Proc (World ω) Bool :=
  if changed then do
    inRest (p.emitMembersUpdated op.groupId)
    inRest (p.persistJoinSystemMessage join op nowMs)
  else pure false

/-- The end of a join that was let in, up to the flush of what was held for the
joiner. -/
def recordJoin (p : Peers ω) (op : GroupOp) (join : MemberJoin) (joiner : String)
    (existing : Option ChatGroupMember) (selfAnnounce : Bool) (nowMs : Int) :
    Proc (World ω) GroupOpTurn := do
  let (changed, failed) ← admitJoiner op join joiner existing nowMs
  let unnamed ← passOver (p.ensureKnownAccount joiner join.displayName)
  let unmarked ← announceJoin p op join changed nowMs
  pure ⟨⟨true, failed || unnamed || unmarked⟩, some (op.groupId, joiner), selfAnnounce⟩

/-- Whether a join is let in. -/
def letIn (p : Peers ω) (op : GroupOp) (join : MemberJoin) (joiner sender : String)
    (existing : Option ChatGroupMember) (nowMs : Int) : Proc (World ω) Bool :=
  if sender = joiner then selfAnnounced p op join joiner existing nowMs
  else forwarded op sender existing

/-- `#applyIncomingMemberJoin`. -/
def applyIncomingMemberJoin (p : Peers ω) (op : GroupOp) (join : MemberJoin) (sender : String)
    (nowMs : Int) : Proc (World ω) GroupOpTurn :=
  let joiner := trim join.accountId
  if joiner = "" ∨ joiner = p.ownerAccountId then pure (consumed false)
  else do
    let consentOk ← verifyConsent p op.groupId joiner join.displayName (some join.joinProof)
    if consentOk then do
      let existing ← memberOf op.groupId joiner
      let admissible ← letIn p op join joiner sender existing nowMs
      if admissible then recordJoin p op join joiner existing (decide (sender = joiner)) nowMs
      else pure (consumed false)
    else pure (consumed false)

/-! ## Forwarded contacts -/

def maxBootstrapPerContactOp : Nat := 64

/-- The warrant of an entry: whether it may be added, and the proof to keep. The
founder needs no proof to be added, but its name does. -/
def warrantOf (p : Peers ω) (groupId createdBy accountId : String) (contact : MemberContact) :
    Proc (World ω) (Bool × Option JoinProof) :=
  if contact.isCreator then
    if createdBy ≠ "" ∧ accountId = createdBy then do
      let signed ← verifyConsent p groupId accountId contact.displayName contact.joinProof
      pure (true, if signed then contact.joinProof else none)
    else pure (false, none)
  else do
    let verified ← verifyConsent p groupId accountId contact.displayName contact.joinProof
    pure (verified, if verified then contact.joinProof else none)

/-- What the entries of an op have led to so far. -/
structure ContactTally where
  rosterChanged : Bool
  bootstrapped : Nat
  failed : Bool

/-- Record the name of an entry, if it is one that was signed. -/
def recordName (p : Peers ω) (contact : MemberContact) (accountId : String)
    (joinProof : Option JoinProof) : Proc (World ω) Bool :=
  if joinProof.isSome ∧ contact.displayName ≠ "" then
    passOver (p.ensureKnownAccount accountId contact.displayName)
  else pure false

/-- What becomes of an entry whose row was ensured. -/
def introduce (p : Peers ω) (contact : MemberContact) (accountId : String)
    (joinProof : Option JoinProof) (e : Ensured) (failed : Bool) (acc : ContactTally) :
    Proc (World ω) ContactTally := do
  let unnamed ← recordName p contact accountId joinProof
  if (e.membership.map state) = some .active ∧
      acc.bootstrapped < maxBootstrapPerContactOp then do
    modify fun s => { s with
      rest := p.bootstrapCoMemberLink accountId (trim contact.inboxId) s.rest }
    pure ⟨acc.rosterChanged || e.created || e.upgraded, acc.bootstrapped + 1,
      acc.failed || failed || unnamed⟩
  else pure ⟨acc.rosterChanged || e.created || e.upgraded, acc.bootstrapped,
    acc.failed || failed || unnamed⟩

/-- One entry. -/
def applyContact (p : Peers ω) (op : GroupOp) (createdBy : String) (nowMs : Int)
    (acc : ContactTally) (contact : MemberContact) : Proc (World ω) ContactTally :=
  let accountId := trim contact.accountId
  if accountId = "" ∨ trim contact.inboxId = "" ∨ accountId = p.ownerAccountId then pure acc
  else do
    let (verified, joinProof) ← warrantOf p op.groupId createdBy accountId contact
    if verified then do
      let ensured ← tryCatch (do
        let e ← ensureMembership op.groupId accountId .member contact.displayName joinProof nowMs
        pure (e, false)) (pure (⟨none, false, false⟩, true))
      introduce p contact accountId joinProof ensured.1 ensured.2 acc
    else pure acc

/-- `#applyIncomingMemberContact`. -/
def applyIncomingMemberContact (p : Peers ω) (op : GroupOp) (contacts : List MemberContact)
    (nowMs : Int) : Proc (World ω) Bool :=
  if contacts = [] then pure false
  else do
    let group ← orElse (getGroup op.groupId) none
    let createdBy := trim ((group.map ChatGroup.createdBy).getD "")
    let tally ← contacts.foldlM (applyContact p op createdBy nowMs) ⟨false, 0, false⟩
    if tally.rosterChanged then do
      inRest (p.emitMembersUpdated op.groupId)
      pure tally.failed
    else pure tally.failed

/-! ## Every op -/

/-- The op of a sender who is an active member. -/
def applyMemberOp (p : Peers ω) (op : GroupOp) (sender : String) (isAdmin : Bool) (nowMs : Int) :
    Proc (World ω) Bool :=
  match op.body with
  | .rename title => applyIncomingRename p op title nowMs
  | .setAvatar hash data => applyIncomingSetAvatar p op hash data nowMs
  | .kick accountId =>
    if isAdmin then applyIncomingKick p op accountId nowMs else pure false
  | .setRole accountId role =>
    if isAdmin then applyIncomingSetRole p op accountId role nowMs else pure false
  | .leave accountId =>
    if accountId = sender then applyIncomingLeave p op accountId nowMs else pure false
  | .channelOp => inRest (p.applyChannelOp op sender isAdmin)
  | .channelsSyncRequest => do
    inRest (p.answerSyncRequest op sender)
    pure false
  | .groupState title hash data => applyIncomingGroupState p op title hash data nowMs
  | .memberContact contacts => applyIncomingMemberContact p op contacts nowMs
  | .memberJoin _ => pure false

/-- How the sender of an op stands in its group: whether it is an active member,
and if so, whether an admin. -/
def standing (op : GroupOp) (sender : String) : Proc (World ω) (Option Bool) := do
  let membership ← memberOf op.groupId sender
  match membership with
  | none => pure none
  | some m =>
    if m.state = .active then do
      let isAdmin ← isEffectiveAdmin op.groupId sender m
      pure (some isAdmin)
    else pure none

/-- The gate every op but a join passes: its sender is an active member. -/
def applyGatedOp (p : Peers ω) (op : GroupOp) (sender : String) (nowMs : Int) :
    Proc (World ω) GroupOpTurn := do
  let gate ← standing op sender
  match gate with
  | none => pure (consumed false)
  | some isAdmin => do
    let failed ← applyMemberOp p op sender isAdmin nowMs
    pure (consumed failed)

/-- `handle`. A join is not gated: its joiner is not a member yet. -/
def handle (p : Peers ω) (op : GroupOp) (senderAccountId : String) (nowMs : Int) :
    Proc (World ω) GroupOpTurn :=
  let sender := trim senderAccountId
  if sender = "" then pure declined
  else
    match op.body with
    | .memberJoin join => applyIncomingMemberJoin p op join sender nowMs
    | _ => applyGatedOp p op sender nowMs

end Applier

end RezChat.Groups
