/-
The owner of a group (`services/GlobalGroupLookup.js`, over `storage/ChatGroupStore.js`).

A group is kept under its owner and its id, and an index from ids to owners is written after it. The
lookup goes through the index where that leads to a group. Otherwise it goes through all rows, and
there it reads the field `accountId`, which a group does not have: its owner is `ownerAccountId`. So the
scan finds the group and not its owner, and the index is not filled in either.

The keys of the table are digests and are modelled by what they are digests of.
-/
import RezChat.Inbox.Frame
import RezChat.Lib.Json

set_option autoImplicit false

namespace RezChat.Groups

open List

open Inbox (trim trim_trim trimmed)

/-- `ChatGroup`, with its owner. The constructor trims its texts, and the store refuses a group without
an id or an owner. -/
structure OwnedGroup where
  groupId : String
  ownerAccountId : String
  title : String
  avatarFileHash : String
  threadId : String
  createdBy : String
  joinedViaInviteId : String
  creatorSalt : String
  memberCount : Nat
  createdAtMs : Json
  updatedAtMs : Json
  groupId_trimmed : trim groupId = groupId
  groupId_ne : groupId ≠ ""
  owner_trimmed : trim ownerAccountId = ownerAccountId
  owner_ne : ownerAccountId ≠ ""

/-- The row of a group. -/
def OwnedGroup.toJson (g : OwnedGroup) : Json :=
  .obj [("groupId", .str g.groupId), ("ownerAccountId", .str g.ownerAccountId),
    ("title", .str g.title), ("avatarFileHash", .str g.avatarFileHash),
    ("threadId", .str g.threadId), ("createdBy", .str g.createdBy),
    ("joinedViaInviteId", .str g.joinedViaInviteId), ("creatorSalt", .str g.creatorSalt),
    ("memberCount", .num g.memberCount), ("createdAtMs", g.createdAtMs),
    ("updatedAtMs", g.updatedAtMs)]

/-- The table of groups, each under its owner and its id, in the order of `kv.keys`; and the index, which
may hold anything. -/
structure GroupRows where
  groups : List OwnedGroup
  index : OrdMap String Json

/-- What a lookup answers. -/
structure OwnerLookup where
  found : Bool
  ownerAccountId : Option String

namespace GlobalGroupLookup

/-- `getGroup`. -/
def getGroup (s : GroupRows) (ownerAccountId groupId : String) : Option OwnedGroup :=
  s.groups.find? fun g => g.ownerAccountId = ownerAccountId ∧ g.groupId = groupId

/-- `String(value || "").trim()`, of a field that is a text if it is there. -/
def textAt (row : Json) (name : String) : String :=
  match row.get? name with
  | some (.str s) => trim s
  | _ => ""

/-- The owner that the index names, if it leads to a group. -/
def indexed (s : GroupRows) (id : String) : Option String :=
  match s.index.get? id with
  | none => none
  | some entry =>
    let ownerAccountId := textAt entry "ownerAccountId"
    if ownerAccountId ≠ "" ∧ (getGroup s ownerAccountId id).isSome then some ownerAccountId else none

/-- `resolveOwnerByGroupId`. -/
def resolveOwnerByGroupId (s : GroupRows) (groupId : Option String) : OwnerLookup × GroupRows :=
  let id := trimmed groupId
  if id = "" then (⟨false, none⟩, s)
  else match indexed s id with
  | some ownerAccountId => (⟨true, some ownerAccountId⟩, s)
  | none =>
    match (s.groups.map OwnedGroup.toJson).find? fun raw => textAt raw "groupId" = id with
    | none => (⟨false, none⟩, s)
    | some raw =>
      let ownerAccountId := textAt raw "accountId"
      if ownerAccountId ≠ "" then
        -- backfill the index
        let entry := Json.obj [("ownerAccountId", .str ownerAccountId), ("groupId", .str id)]
        (⟨true, some ownerAccountId⟩, { s with index := s.index.set id entry })
      else (⟨true, none⟩, s)

/-- The answer is the owner of a row with that id, and there is none only if there is no such row. -/
def Right (s : GroupRows) (groupId : Option String) (answer : OwnerLookup) : Prop :=
  if ∃ g ∈ s.groups, g.groupId = trimmed groupId then
    ∃ g ∈ s.groups, g.groupId = trimmed groupId ∧ answer = ⟨true, some g.ownerAccountId⟩
  else answer = ⟨false, none⟩

variable {s : GroupRows} {groupId : Option String} {id owner : String}

theorem getGroup_isSome :
    (getGroup s owner id).isSome = true ↔
      ∃ g ∈ s.groups, g.ownerAccountId = owner ∧ g.groupId = id := by
  rw [getGroup, find?_isSome]
  simp only [decide_eq_true_eq]

/-- The index leads to the owner of a row, or nowhere. -/
theorem of_indexed (h : indexed s id = some owner) :
    ∃ g ∈ s.groups, g.groupId = id ∧ g.ownerAccountId = owner := by
  rw [indexed] at h
  cases hentry : s.index.get? id with
  | none =>
    rw [hentry] at h
    cases h
  | some entry =>
    rw [hentry] at h
    dsimp only at h
    split at h
    · next hleads =>
      cases h
      obtain ⟨g, hg, howner, hid⟩ := getGroup_isSome.1 hleads.2
      exact ⟨g, hg, hid, howner⟩
    · cases h

/-- The scan finds a row with that id, and no owner in it. -/
theorem scan_cases (s : GroupRows) (id : String) :
    ((s.groups.map OwnedGroup.toJson).find? fun raw => textAt raw "groupId" = id) = none ∧
        (¬ ∃ g ∈ s.groups, g.groupId = id) ∨
      ∃ g ∈ s.groups, g.groupId = id ∧
        ((s.groups.map OwnedGroup.toJson).find? fun raw => textAt raw "groupId" = id) =
          some g.toJson := by
  have htext : ∀ g : OwnedGroup, textAt g.toJson "groupId" = g.groupId := fun g => g.groupId_trimmed
  cases hscan : (s.groups.map OwnedGroup.toJson).find? fun raw => textAt raw "groupId" = id with
  | none =>
    refine .inl ⟨rfl, ?_⟩
    rintro ⟨g, hg, hid⟩
    have hmissed := find?_eq_none.1 hscan g.toJson (mem_map_of_mem hg)
    rw [decide_eq_true_eq, htext] at hmissed
    exact hmissed hid
  | some raw =>
    obtain ⟨g, hg, rfl⟩ := mem_map.1 (mem_of_find?_eq_some hscan)
    have hid := find?_some hscan
    rw [decide_eq_true_eq, htext] at hid
    exact .inr ⟨g, hg, hid, rfl⟩

/-- **When the lookup is right**: no row has the id, or the index leads to the owner of one. -/
theorem resolve_right_iff (s : GroupRows) (groupId : Option String) :
    Right s groupId (resolveOwnerByGroupId s groupId).1 ↔
      (¬ ∃ g ∈ s.groups, g.groupId = trimmed groupId) ∨ (indexed s (trimmed groupId)).isSome := by
  rw [Right, resolveOwnerByGroupId]
  dsimp only
  by_cases hempty : trimmed groupId = ""
  · have hnone : ¬ ∃ g ∈ s.groups, g.groupId = trimmed groupId := by
      rintro ⟨g, -, hid⟩
      exact g.groupId_ne (hid.trans hempty)
    rw [if_pos hempty, if_neg hnone]
    exact iff_of_true rfl (.inl hnone)
  rw [if_neg hempty]
  cases hindexed : indexed s (trimmed groupId) with
  | some owner =>
    obtain ⟨g, hg, hid, howner⟩ := of_indexed hindexed
    dsimp only
    rw [if_pos ⟨g, hg, hid⟩, ← howner]
    exact iff_of_true ⟨g, hg, hid, rfl⟩ (.inr rfl)
  | none =>
    dsimp only
    rcases scan_cases s (trimmed groupId) with ⟨hscan, hnone⟩ | ⟨g, hg, hid, hscan⟩
    · rw [hscan, if_neg hnone]
      exact iff_of_true rfl (.inl hnone)
    · -- a group has no `accountId`
      have howner : textAt g.toJson "accountId" = "" := rfl
      rw [hscan, if_pos ⟨g, hg, hid⟩]
      dsimp only
      rw [howner, if_neg (not_not_intro rfl)]
      refine iff_of_false ?_ ?_
      · rintro ⟨g', -, -, hanswer⟩
        cases hanswer
      · rintro (hnone | hleads)
        · exact hnone ⟨g, hg, hid⟩
        · cases hleads

/-- A group of ann's. -/
def annsGroup : OwnedGroup :=
  ⟨"grp_1", "ann", "", "", "", "ann", "", "", 1, .null, .null, by decide, by decide, by decide,
    by decide⟩

/-- **A group that the index does not know.** It is found, and its owner is not. -/
theorem unindexed_group : ¬ ∀ s groupId, Right s groupId (resolveOwnerByGroupId s groupId).1 := by
  intro hall
  rcases (resolve_right_iff _ _).1 (hall ⟨[annsGroup], .empty⟩ (some "grp_1")) with hnone | hleads
  · exact hnone ⟨annsGroup, mem_singleton_self _, by decide⟩
  · cases hleads

end GlobalGroupLookup

end RezChat.Groups
