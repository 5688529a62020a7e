/-
Titles and avatars (`services/ServerGroupOpApplier.js`, `#applyIncomingRename` and
`#applyIncomingSetAvatar`; `storage/ChatGroupStore.js`, `renameGroup` and `setGroupAvatar`).

Of all renames of a group the one that was acted last is to win, and of all avatars too. An op is
passed over if the group was changed at or after the time it was acted at; but the time that is
compared is the one at which the last change was received, of whichever kind. So a rename that was
acted before another one was received is lost, even if that other one was older or set an avatar
(`titles_diverge`).

Where every op is judged rightly by that comparison, all members that received the same ops have
the title and the avatar that were acted last (`members_converge`).
-/
import RezChat.Groups.Governance
import RezChat.Lib.Calm
import RezChat.Lib.Runs

set_option autoImplicit false

namespace RezChat.Groups

open Inbox (trim trim_trim)
open Events (GroupOpTurn)
open GroupStore Applier Runs
open List Option Proc

/-! ## The two fields -/

inductive GroupField where
  | title
  | avatar
  deriving DecidableEq

def ChatGroup.get (g : ChatGroup) : GroupField → String
  | .title => g.title
  | .avatar => g.avatarFileHash

/-- The field that an op sets. -/
def OpBody.field? : OpBody → Option GroupField
  | .rename _ => some .title
  | .setAvatar _ _ => some .avatar
  | _ => none

/-- What it sets it to. -/
def OpBody.value : OpBody → String
  | .rename title => trim title
  | .setAvatar avatarFileHash _ => trim avatarFileHash
  | _ => ""

/-- The group with a field set. -/
def ChatGroup.put (g : ChatGroup) (body : OpBody) (nowMs : Int) : ChatGroup :=
  match body with
  | .rename title => { g with title := trim title, updatedAtMs := nowMs }
  | .setAvatar avatarFileHash _ => { g with
      avatarFileHash := trim avatarFileHash, updatedAtMs := nowMs }
  | _ => g

theorem ChatGroup.get_put {body : OpBody} {f : GroupField} (hf : body.field? = some f)
    (g : ChatGroup) (nowMs : Int) (f' : GroupField) :
    (g.put body nowMs).get f' = if f' = f then body.value else g.get f' := by
  cases body with
  | rename title =>
    rw [← some_inj.1 hf]
    cases f' <;> rfl
  | setAvatar hash data =>
    rw [← some_inj.1 hf]
    cases f' <;> rfl
  | _ => exact nomatch hf

/-! ## One op -/

section OneOp

variable {ω : Type} {p : Peers ω} {s : World ω} {op : GroupOp}

/-- The bytes of an avatar can be stored, if there are any. -/
def Storable (p : Peers ω) : OpBody → Prop
  | .setAvatar avatarFileHash avatarDataB64 => avatarFileHash = "" ∨ (p.fileTransfer = true ∧
      ∀ w, ∃ w', Yields (p.storeFile avatarFileHash avatarDataB64) w () w')
  | _ => True

/-- A title is not empty. -/
def Titled : OpBody → Prop
  | .rename title => trim title ≠ ""
  | _ => True

theorem yields_getGroup {g : String} (hg : trim g ≠ "") (s : World ω) :
    Yields (orElse (getGroup g) none) s (s.group g) s := by
  refine Yields.tryCatch ?_ _
  unfold getGroup
  rw [if_neg hg]
  exact yields_await _ s

/-- The gate lets an active member pass. -/
theorem yields_standing {sender : String} (hg : trim op.groupId ≠ "") (hs : trim sender ≠ "")
    (hactive : ActiveIn s op.groupId sender) :
    ∃ isAdmin, Yields (standing op sender) s (some isAdmin) s := by
  obtain ⟨m, hrow, hstate⟩ := hactive
  have hmember : Yields (memberOf op.groupId sender) s (some m) s := by
    refine Yields.tryCatch ?_ _
    unfold getMembership withIds
    rw [if_neg (not_or.2 ⟨hg, hs⟩), ← hrow]
    exact yields_await _ s
  have hadmin : ∃ isAdmin,
      Yields (isEffectiveAdmin op.groupId sender m) s isAdmin s := by
    unfold isEffectiveAdmin
    split_ifs
    · exact ⟨true, yields_pure _ _⟩
    · exact ⟨_, (yields_getGroup hg s).bind (yields_pure _ _)⟩
  obtain ⟨isAdmin, hadmin⟩ := hadmin
  refine ⟨isAdmin, hmember.bind ?_⟩
  dsimp only
  rw [if_pos hstate]
  exact hadmin.bind (yields_pure _ _)

/-- A state with these groups and rows. -/
def Rests (t s : World ω) : Prop := s.groups = t.groups ∧ s.memberships = t.memberships

theorem keeps_passOver_rests (t : World ω) (q : Proc ω Unit) :
    Holds (Rests t) (passOver q) :=
  keeps_tryCatch (keeps_last (keeps_zoom fun _ _ h => h)) (holds_pure)

/-- A rename, or nothing where it is outdated. -/
theorem rests_rename {title : String} {nowMs : Int} {g : ChatGroup} (hg : trim op.groupId ≠ "")
    (hgroup : s.group op.groupId = some g) (htitle : trim title ≠ "") :
    Rests (if outdated (some g) op nowMs = true then s
        else s.withGroup op.groupId (g.put (.rename title) nowMs))
      (applyIncomingRename p op title nowMs [] s).state := by
  have hread := yields_getGroup hg s
  rw [hgroup] at hread
  unfold applyIncomingRename
  rw [hread.bind_eq]
  by_cases houtdated : outdated (some g) op nowMs = true
  · rw [if_pos houtdated, if_pos houtdated]
    exact ⟨rfl, rfl⟩
  · rw [if_neg houtdated, if_neg houtdated]
    have hrenamed : Yields (renameGroup op.groupId title nowMs) s true
        (s.withGroup op.groupId (g.put (.rename title) nowMs)) := by
      unfold renameGroup getGroup
      rw [if_neg hg]
      refine (yields_await _ s).bind ?_
      dsimp only
      rw [hgroup]
      dsimp only
      rw [if_neg htitle]
      exact (yields_await _ s).bind (yields_pure _ _)
    rw [hrenamed.bind_eq]
    exact (keeps_passOver_rests _ _).calm ⟨rfl, rfl⟩

/-- The bytes of an avatar are stored. -/
theorem yields_storeAvatar {hash data : String} (h : Storable p (.setAvatar hash data))
    (s : World ω) : ∃ w, Yields (storeAvatar p hash data) s false { s with rest := w } := by
  unfold storeAvatar
  rcases h with hnone | ⟨htransfer, hstores⟩
  · rw [if_pos hnone]
    exact ⟨s.rest, yields_pure _ _⟩
  · obtain ⟨w, hw⟩ := hstores s.rest
    by_cases hnone : hash = ""
    · rw [if_pos hnone]
      exact ⟨s.rest, yields_pure _ _⟩
    · rw [if_neg hnone, if_pos htransfer]
      refine ⟨w, Yields.tryCatch ?_ _⟩
      have hrest : Yields (inRest (p.storeFile hash data)) s () { s with rest := w } :=
        hw.zoom
      exact hrest.bind (yields_pure _ _)

/-- An avatar, or nothing where it is outdated. -/
theorem rests_setAvatar {hash data : String} {nowMs : Int} {g : ChatGroup}
    (hg : trim op.groupId ≠ "") (hgroup : s.group op.groupId = some g)
    (hstored : Storable p (.setAvatar hash data)) :
    Rests (if outdated (some g) op nowMs = true then s
        else s.withGroup op.groupId (g.put (.setAvatar hash data) nowMs))
      (applyIncomingSetAvatar p op hash data nowMs [] s).state := by
  have hread := yields_getGroup hg s
  rw [hgroup] at hread
  unfold applyIncomingSetAvatar
  rw [hread.bind_eq]
  by_cases houtdated : outdated (some g) op nowMs = true
  · rw [if_pos houtdated, if_pos houtdated]
    exact ⟨rfl, rfl⟩
  · rw [if_neg houtdated, if_neg houtdated]
    obtain ⟨w, hw⟩ := yields_storeAvatar hstored s
    rw [hw.bind_eq, if_neg Bool.false_ne_true]
    have hset : Yields (setGroupAvatar op.groupId hash nowMs) { s with rest := w } true
        ({ s with rest := w }.withGroup op.groupId (g.put (.setAvatar hash data) nowMs)) := by
      unfold setGroupAvatar updateGroup getGroup
      rw [if_neg hg]
      refine (yields_await _ _).bind ?_
      have hgroup' : World.group { s with rest := w } op.groupId = some g := hgroup
      dsimp only
      rw [hgroup']
      exact (yields_await _ _).bind (yields_pure _ _)
    rw [hset.bind_eq]
    exact ⟨rfl, rfl⟩

/-- What an op does to its group. -/
def judged (op : GroupOp) (g : ChatGroup) (nowMs : Int) : ChatGroup :=
  if outdated (some g) op nowMs = true then g else g.put op.body nowMs

/-- **A rename or an avatar** of an active member: the group is changed, unless the op is judged to
be outdated, and nothing else is. -/
theorem handle_field {senderAccountId : String} (nowMs : Int) {g : ChatGroup}
    (hfield : op.body.field? ≠ none) (hg : trim op.groupId ≠ "") (hs : trim senderAccountId ≠ "")
    (hactive : ActiveIn s op.groupId senderAccountId) (hgroup : s.group op.groupId = some g)
    (hstored : Storable p op.body) (htitled : Titled op.body) :
    (handle p op senderAccountId nowMs [] s).state.group op.groupId =
      some (judged op g nowMs) := by
  have hsender : ActiveIn s op.groupId (trim senderAccountId) := by
    obtain ⟨m, hrow, hstate⟩ := hactive
    refine ⟨m, ?_, hstate⟩
    rw [World.row, trim_trim]
    exact hrow
  obtain ⟨isAdmin, hstanding⟩ := yields_standing hg (by rw [trim_trim]; exact hs) hsender
  -- the op passes the gate
  have hgate : (handle p op senderAccountId nowMs [] s).state =
      (applyMemberOp p op (trim senderAccountId) isAdmin nowMs [] s).state := by
    have happly : (applyGatedOp p op (trim senderAccountId) nowMs [] s).state =
        (applyMemberOp p op (trim senderAccountId) isAdmin nowMs [] s).state := by
      unfold applyGatedOp
      rw [hstanding.bind_eq]
      exact state_bind_pure _ _ _
    have hhandle : handle p op senderAccountId nowMs =
        applyGatedOp p op (trim senderAccountId) nowMs := by
      unfold handle
      dsimp only
      rw [if_neg hs]
      split
      · rename_i join hbody
        rw [hbody] at hfield
        exact absurd rfl hfield
      · rfl
    rw [hhandle]
    exact happly
  have hrests : Rests (if outdated (some g) op nowMs = true then s
        else s.withGroup op.groupId (g.put op.body nowMs))
      (applyMemberOp p op (trim senderAccountId) isAdmin nowMs [] s).state := by
    unfold applyMemberOp
    cases hbody : op.body with
    | rename title =>
      rw [hbody] at htitled
      exact rests_rename hg hgroup htitled
    | setAvatar hash data =>
      rw [hbody] at hstored
      exact rests_setAvatar hg hgroup hstored
    | _ =>
      rw [hbody] at hfield
      exact absurd rfl hfield
  rw [hgate, World.group, hrests.1]
  unfold judged
  by_cases houtdated : outdated (some g) op nowMs = true
  · rw [if_pos houtdated, if_pos houtdated]
    exact hgroup
  · rw [if_neg houtdated, if_neg houtdated]
    exact (World.group_withGroup s _ _ _).trans (if_pos rfl)

end OneOp

/-! ## Members -/

/-- An op that a member receives. -/
structure Arrival where
  op : GroupOp
  senderAccountId : String
  nowMs : Int

/-- A member of a group: its stores, and the ops that it received, newest first. No step reads the
ops. -/
structure Member (ω : Type) where
  world : World ω
  received : List GroupOp

namespace Member

variable {ω : Type}

/-- A member receives an op, and nothing fails. -/
def step (p : Peers ω) (m : Member ω) (a : Arrival) : Member ω :=
  ⟨(handle p a.op a.senderAccountId a.nowMs [] m.world).state, a.op :: m.received⟩

/-- A rename or an avatar of the group, by an active member of it. -/
structure Authorized (p : Peers ω) (groupId : String) (m : Member ω) (a : Arrival) : Prop where
  group : a.op.groupId = groupId
  named : trim a.op.groupId ≠ "" ∧ trim a.senderAccountId ≠ ""
  field : a.op.body.field? ≠ none
  titled : Titled a.op.body
  storable : Storable p a.op.body
  active : ActiveIn m.world a.op.groupId a.senderAccountId
  known : m.world.group a.op.groupId ≠ none

/-- The group was last changed at or after the time that the op was acted at, exactly if an op that
sets the same field and was acted later has been received. -/
def Rightly (m : Member ω) (a : Arrival) : Prop :=
  outdated (m.world.group a.op.groupId) a.op a.nowMs = true ↔
    ∃ r ∈ m.received, r.body.field? = a.op.body.field? ∧ a.op.actedAtMs < r.actedAtMs

/-- An op that was acted after all others that set its field. -/
def Last (ops : List GroupOp) (f : GroupField) (op : GroupOp) : Prop :=
  op ∈ ops ∧ op.body.field? = some f ∧
    ∀ r ∈ ops, r.body.field? = some f → r ≠ op → r.actedAtMs < op.actedAtMs

/-- The fields of the group are those that were acted last, of what was received. -/
def UpToDate (groupId : String) (m : Member ω) : Prop :=
  ∀ f op, Last m.received f op → (m.world.group groupId).map (fun g => g.get f) = some op.body.value

/-- **A step** that judges its op rightly. -/
theorem upToDate_step {p : Peers ω} {groupId : String} {m : Member ω} {a : Arrival}
    (h : m.UpToDate groupId) (ha : m.Authorized p groupId a) (hright : m.Rightly a) :
    (m.step p a).UpToDate groupId := by
  obtain ⟨g, hgroup⟩ := ne_none_iff_exists'.1 ha.known
  obtain ⟨f, hf⟩ := ne_none_iff_exists'.1 ha.field
  have hafter := handle_field a.nowMs ha.field ha.named.1 ha.named.2 ha.active hgroup
    ha.storable ha.titled
  unfold Rightly at hright
  rw [hgroup] at hright
  rw [ha.group] at hafter hgroup
  rintro f' op ⟨hmem, hfield, hlast⟩
  show ((handle p a.op a.senderAccountId a.nowMs [] m.world).state.group groupId).map _ = _
  rw [hafter, map_some]
  -- an op that was received before, and is the last one now, was the last one then
  have hbefore : op ∈ m.received → some (g.get f') = some op.body.value := by
    intro hold
    have hwas := h f' op ⟨hold, hfield, fun r hr => hlast r (mem_cons_of_mem _ hr)⟩
    rw [hgroup, map_some] at hwas
    exact hwas
  unfold judged
  by_cases houtdated : outdated (some g) a.op a.nowMs = true
  · rw [if_pos houtdated]
    obtain ⟨r, hr, hrfield, hlater⟩ := hright.1 houtdated
    refine hbefore ?_
    rcases mem_cons.1 hmem with rfl | hold
    · -- something later was received, so the op is not the last one
      have hne : r ≠ a.op := fun heq => by
        rw [heq] at hlater
        exact lt_irrefl _ hlater
      have hlt := hlast r (mem_cons_of_mem _ hr) (hrfield.trans hfield) hne
      omega
    · exact hold
  · rw [if_neg houtdated, ChatGroup.get_put hf]
    by_cases hsame : f' = f
    · rw [if_pos hsame]
      have hop : op = a.op := by
        by_contra hne
        have hold : op ∈ m.received := (mem_cons.1 hmem).resolve_left hne
        have hlt := hlast a.op mem_cons_self (by rw [hf, hsame]) (Ne.symm hne)
        exact houtdated (hright.2 ⟨op, hold, by rw [hfield, hf, hsame], hlt⟩)
      rw [hop]
    · rw [if_neg hsame]
      refine hbefore ((mem_cons.1 hmem).resolve_left fun heq => hsame ?_)
      rw [heq, hf, some_inj] at hfield
      exact hfield.symm

/-- A member before it received anything. -/
def fresh (s : World ω) : Member ω := ⟨s, []⟩

/-- The member after it received some ops. -/
def after (p : Peers ω) (s : World ω) (arrivals : List Arrival) : Member ω :=
  run (step p) (fresh s) arrivals

theorem received_run (p : Peers ω) (op : GroupOp) : ∀ (arrivals : List Arrival) (m : Member ω),
    op ∈ (run (step p) m arrivals).received ↔
      op ∈ arrivals.map Arrival.op ∨ op ∈ m.received
  | [], m => by simp
  | a :: arrivals, m => by
    rw [run_cons, received_run p op arrivals, map_cons, mem_cons]
    show _ ∨ op ∈ a.op :: m.received ↔ _
    rw [mem_cons]
    tauto

/-- What a member comes to when it judges every op rightly. -/
theorem run_upToDate {p : Peers ω} {groupId : String} {s : World ω} {arrivals : List Arrival}
    (hauthorized : Meets (step p) (Authorized p groupId) (fresh s) arrivals)
    (hrightly : Meets (step p) Rightly (fresh s) arrivals) :
    (after p s arrivals).UpToDate groupId :=
  invariant (step p) (fun _ _ h hok => upToDate_step h hok.1 hok.2) arrivals (fresh s)
    (fun _ _ h => absurd h.1 (not_mem_nil)) (Meets.and (step p) arrivals hauthorized hrightly)

/-- The op that was acted last among those of some arrivals. -/
def Wins (arrivals : List Arrival) (f : GroupField) (op : GroupOp) : Prop :=
  op ∈ arrivals.map Arrival.op ∧ op.body.field? = some f ∧
    ∀ r ∈ arrivals.map Arrival.op, r.body.field? = some f → r.actedAtMs ≤ op.actedAtMs

end Member

/-- Ops that were acted at different times. -/
def DistinctTimes (ops : List GroupOp) : Prop :=
  ∀ x ∈ ops, ∀ y ∈ ops, x.actedAtMs = y.actedAtMs → x = y

/-- **Titles and avatars converge.** Two members that received the same renames and avatars, acted at
different times, in any orders and at any local times, have the title and the avatar that were acted
last, if each of them judged every op rightly. -/
theorem members_converge {ω₁ ω₂ : Type} (p₁ : Peers ω₁) (p₂ : Peers ω₂) (groupId : String)
    (s₁ : World ω₁) (s₂ : World ω₂) (arrivals₁ arrivals₂ : List Arrival)
    (hsame : ∀ op, op ∈ arrivals₁.map Arrival.op ↔ op ∈ arrivals₂.map Arrival.op)
    (hdistinct : DistinctTimes (arrivals₁.map Arrival.op))
    (h₁ : Runs.Meets (Member.step p₁) (Member.Authorized p₁ groupId) (Member.fresh s₁) arrivals₁)
    (h₂ : Runs.Meets (Member.step p₂) (Member.Authorized p₂ groupId) (Member.fresh s₂) arrivals₂)
    (hright₁ : Runs.Meets (Member.step p₁) Member.Rightly (Member.fresh s₁) arrivals₁)
    (hright₂ : Runs.Meets (Member.step p₂) Member.Rightly (Member.fresh s₂) arrivals₂) :
    ∀ f op, Member.Wins arrivals₁ f op →
      ((Member.after p₁ s₁ arrivals₁).world.group groupId).map (fun g => g.get f) =
          some op.body.value ∧
        ((Member.after p₂ s₂ arrivals₂).world.group groupId).map (fun g => g.get f) =
          some op.body.value := by
  rintro f op ⟨hmem, hfield, hgreatest⟩
  have hlast : ∀ r ∈ arrivals₁.map Arrival.op, r.body.field? = some f → r ≠ op →
      r.actedAtMs < op.actedAtMs := by
    intro r hr hrfield hne
    exact lt_of_le_of_ne (hgreatest r hr hrfield) fun heq => hne (hdistinct r hr op hmem heq)
  constructor
  · refine Member.run_upToDate h₁ hright₁ f op ⟨?_, hfield, fun r hr => hlast r ?_⟩
    · exact (Member.received_run p₁ op arrivals₁ _).2 (.inl hmem)
    · exact ((Member.received_run p₁ r arrivals₁ _).1 hr).resolve_right (not_mem_nil)
  · refine Member.run_upToDate h₂ hright₂ f op ⟨?_, hfield, fun r hr => hlast r ?_⟩
    · exact (Member.received_run p₂ op arrivals₂ _).2 (.inl ((hsame op).1 hmem))
    · exact (hsame r).2
        (((Member.received_run p₂ r arrivals₂ _).1 hr).resolve_right (not_mem_nil))

/-! ### A rename that comes after an older avatar -/

def toChess : GroupOp := ⟨"grp_1", trim_grp_1, 950, "gop_2", .rename "Chess"⟩

def noAvatar : GroupOp := ⟨"grp_1", trim_grp_1, 900, "gop_3", .setAvatar "" ""⟩

theorem authorized_of_bob {m : Member Unit} {op : GroupOp} {nowMs : Int}
    (hop : op = toChess ∨ op = noAvatar) (hactive : m.world.row "grp_1" "bob" = some (seated .admin))
    (hknown : m.world.group "grp_1" ≠ none) :
    m.Authorized lonePeers "grp_1" ⟨op, "bob", nowMs⟩ := by
  have hnamed : trim "grp_1" ≠ "" ∧ trim "bob" ≠ "" := by decide
  rcases hop with rfl | rfl
  · have hfield : toChess.body.field? ≠ none := by decide
    have htitled : trim "Chess" ≠ "" := by decide
    exact ⟨rfl, hnamed, hfield, htitled, trivial, ⟨_, hactive, rfl⟩, hknown⟩
  · have hfield : noAvatar.body.field? ≠ none := by decide
    exact ⟨rfl, hnamed, hfield, trivial, .inl rfl, ⟨_, hactive, rfl⟩, hknown⟩

theorem authorized_two {op op' : GroupOp} {nowMs nowMs' : Int} (hop : op = toChess ∨ op = noAvatar)
    (hop' : op' = toChess ∨ op' = noAvatar)
    (hactive : ((Member.fresh aliceAndBob).step lonePeers ⟨op, "bob", nowMs⟩).world.row
      "grp_1" "bob" = some (seated .admin))
    (hknown : ((Member.fresh aliceAndBob).step lonePeers ⟨op, "bob", nowMs⟩).world.group
      "grp_1" ≠ none) :
    Meets (Member.step lonePeers) (Member.Authorized lonePeers "grp_1")
      (Member.fresh aliceAndBob) [⟨op, "bob", nowMs⟩, ⟨op', "bob", nowMs'⟩] :=
  ⟨authorized_of_bob hop (by decide) (by decide), authorized_of_bob hop' hactive hknown, trivial⟩

/-- Both ops come at once to one member, and the rename a little later to the other. -/
theorem members_converge_chess :
    ((Member.after lonePeers aliceAndBob
        [⟨noAvatar, "bob", 901⟩, ⟨toChess, "bob", 951⟩]).world.group "grp_1").map
          (fun g => g.get .title) = some toChess.body.value ∧
      ((Member.after lonePeers aliceAndBob
        [⟨noAvatar, "bob", 901⟩, ⟨toChess, "bob", 960⟩]).world.group "grp_1").map
          (fun g => g.get .title) = some toChess.body.value := by
  refine members_converge lonePeers lonePeers "grp_1" aliceAndBob aliceAndBob _ _ (fun _ => Iff.rfl)
    ?_ (authorized_two (.inr rfl) (.inl rfl) (by decide) (by decide))
    (authorized_two (.inr rfl) (.inl rfl) (by decide) (by decide)) ?_ ?_ .title toChess ?_
  · unfold DistinctTimes
    decide
  · unfold Member.Rightly
    decide
  · unfold Member.Rightly
    decide
  · unfold Member.Wins
    decide

/-- **Titles diverge.** The avatar was acted before the rename. The member that receives it first
passes over the rename; the other one takes it. -/
theorem titles_diverge : ¬ ∀ (s₁ s₂ : World Unit) (arrivals₁ arrivals₂ : List Arrival),
    (∀ op, op ∈ arrivals₁.map Arrival.op ↔ op ∈ arrivals₂.map Arrival.op) →
    DistinctTimes (arrivals₁.map Arrival.op) →
    Runs.Meets (Member.step lonePeers) (Member.Authorized lonePeers "grp_1") (Member.fresh s₁)
      arrivals₁ →
    Runs.Meets (Member.step lonePeers) (Member.Authorized lonePeers "grp_1") (Member.fresh s₂)
      arrivals₂ →
    ((Member.after lonePeers s₁ arrivals₁).world.group "grp_1").map ChatGroup.title =
      ((Member.after lonePeers s₂ arrivals₂).world.group "grp_1").map ChatGroup.title := by
  intro h
  have hsame := h aliceAndBob aliceAndBob [⟨noAvatar, "bob", 1000⟩, ⟨toChess, "bob", 1001⟩]
    [⟨toChess, "bob", 1000⟩, ⟨noAvatar, "bob", 1001⟩] (fun op => by simp [or_comm])
    (by unfold DistinctTimes; decide)
    (authorized_two (.inr rfl) (.inl rfl) (by decide) (by decide))
    (authorized_two (.inl rfl) (.inr rfl) (by decide) (by decide))
  exact absurd hsame (by decide)

end RezChat.Groups
