/-
Invites that are minted by machinery (`storage/AutoMintedInviteStore.js`,
`services/ServerInvitesService.js`).

On the wire an invite that recovery minted looks like one that a person asked for. Before it is
sent, a row is written that says where it came from, and whoever wants to know whether an
invite is a person's asks for the row first, and then for the kind of the envelope that is stored
under the invite. An invite that was found to be a person's is remembered as such, for as long as
the process lives.

Rows are pruned whenever one is written, the old ones and then those above a cap. The envelope is
the SDK's, and it is not pruned with them: an invite whose row is gone while its envelope is stored
passes for a person's.

A marking and an asking are each interrupted at their awaits; one step is one awaited operation
with what follows it. The history is which invites were minted by machinery, which rows were ever
written, which ids were ever seen, and what was answered. No step reads it.
-/
import RezChat.Inbox.Frame
import RezChat.Lib.OrdMap
import RezChat.Lib.Runs

set_option autoImplicit false

namespace RezChat.PeerLinks

open Inbox (trim trim_trim)
open List OrdMap Runs

/-! ## The store of rows -/

/-- The row of an invite that was minted by machinery. That it is there is all that is asked. -/
structure AutoMintedInvite where
  inviteId : String
  reason : String
  createdAtMs : Int
  expiresAtMs : Int

def autoMintedMaxRows : Nat := 4096

def autoMintedRetentionMs : Int := 24 * 60 * 60 * 1000

/-- The row is past its retention. -/
def AutoMintedInvite.stale (nowMs : Int) (row : AutoMintedInvite) : Bool :=
  decide (autoMintedRetentionMs < nowMs - row.createdAtMs)

/-- `#prune`: the ids of the rows to delete, the stale ones and then the oldest above the cap. -/
def pruneIds (nowMs : Int) (all : List AutoMintedInvite) : List String :=
  let stale := all.filter fun row => row.stale nowMs
  let live := all.filter fun row => !row.stale nowMs
  let ordered := live.mergeSort fun a b => decide (a.createdAtMs ≤ b.createdAtMs)
  (stale ++ ordered.take (live.length - autoMintedMaxRows)).map AutoMintedInvite.inviteId

/-- Below the cap, only what is past its retention is deleted. -/
theorem stale_of_mem_pruneIds {nowMs : Int} {all : List AutoMintedInvite} {inviteId : String}
    (hcap : all.length ≤ autoMintedMaxRows) (hmem : inviteId ∈ pruneIds nowMs all) :
    ∃ row ∈ all, row.inviteId = inviteId ∧ row.stale nowMs = true := by
  have hlive : (all.filter fun row => !row.stale nowMs).length ≤ autoMintedMaxRows :=
    Nat.le_trans (length_filter_le _ _) hcap
  obtain ⟨row, hrow, rfl⟩ := List.mem_map.1 hmem
  rw [Nat.sub_eq_zero_of_le hlive, take_zero, append_nil] at hrow
  exact ⟨row, (mem_filter.1 hrow).1, rfl, (mem_filter.1 hrow).2⟩

inductive InviteKind where
  | direct
  | group
  deriving DecidableEq

/-! ## The state -/

/-- What a `markAutoMinted` waits for: the row to be written, the rows to be listed, or the next of
the deletions. -/
inductive MarkStage where
  | writing
  | listing
  | deleting (inviteIds : List String)

structure Mark where
  row : AutoMintedInvite
  nowMs : Int
  stage : MarkStage

/-- What an `isDirectContactInvite` waits for: the row, or the envelope. -/
inductive AskStage where
  | row
  | envelope

structure Ask where
  inviteId : String
  stage : AskStage

structure Provenance where
  rows : OrdMap String AutoMintedInvite
  envelopes : OrdMap String InviteKind
  directContactInviteIds : List String
  directInviteOrder : List String
  marks : OrdMap Nat Mark
  asks : OrdMap Nat Ask
  started : Nat
  autoMinted : List String
  marked : List String
  known : List String
  answers : List (String × Bool)

namespace Provenance

def empty : Provenance :=
  ⟨OrdMap.empty, OrdMap.empty, [], [], OrdMap.empty, OrdMap.empty, 0, [], [], [], []⟩

/-! ## Remembering -/

def directInviteMax : Nat := 512

/-- `while (order.length > MAX)`: the first are evicted. -/
def evictIds (ids order : List String) : List String × List String :=
  let excess := order.length - directInviteMax
  (ids.filter fun id => decide (id ∉ order.take excess), order.drop excess)

/-- `#rememberDirectContactInvite`. -/
def rememberDirectContactInvite (inviteId : String) (s : Provenance) : Provenance :=
  let id := trim inviteId
  if id = "" ∨ id ∈ s.directContactInviteIds then s
  else
    let evicted := evictIds (s.directContactInviteIds ++ [id]) (s.directInviteOrder ++ [id])
    { s with directContactInviteIds := evicted.1, directInviteOrder := evicted.2 }

/-! ## Minting -/

/-- A person mints an invite (`createInvite`). Direct ones are remembered. -/
def personMints (inviteId : String) (kind : InviteKind) (s : Provenance) : Provenance :=
  let s := { s with envelopes := s.envelopes.set inviteId kind, known := inviteId :: s.known }
  match kind with
  | .direct => s.rememberDirectContactInvite inviteId
  | .group => s

/-- Recovery mints an invite, of the only kind that the wire has for it. -/
def machineMints (inviteId : String) (s : Provenance) : Provenance :=
  { s with
    envelopes := s.envelopes.set inviteId .direct
    known := inviteId :: s.known
    autoMinted := inviteId :: s.autoMinted }

/-- `markAutoMinted`, up to where it waits for the row to be written. -/
def markAutoMinted (nowMs : Int) (inviteId reason : String) (expiresAtMs : Int) (s : Provenance) :
    Provenance :=
  let id := trim inviteId
  if id = "" then s
  else
    { s with
      marks := s.marks.set s.started
        ⟨⟨id, if trim reason = "" then "unspecified" else trim reason, nowMs, expiresAtMs⟩, nowMs,
          .writing⟩
      started := s.started + 1 }

/-- The marking with the number `k` goes on, or its operation failed. -/
def markStep (k : Nat) (ok : Bool) (s : Provenance) : Provenance :=
  match s.marks.get? k with
  | none => s
  | some mark =>
    if ok = false then { s with marks := s.marks.delete k }
    else
      match mark.stage with
      | .writing =>
        { s with
          rows := s.rows.set mark.row.inviteId mark.row
          marked := mark.row.inviteId :: s.marked
          marks := s.marks.set k { mark with stage := .listing } }
      | .listing =>
        { s with
          marks := s.marks.set k
            { mark with stage := .deleting (pruneIds mark.nowMs s.rows.values) } }
      | .deleting [] => { s with marks := s.marks.delete k }
      | .deleting (id :: inviteIds) =>
        { s with
          rows := s.rows.delete id
          marks := s.marks.set k { mark with stage := .deleting inviteIds } }

/-! ## Asking -/

def answer (inviteId : String) (direct : Bool) (s : Provenance) : Provenance :=
  { s with answers := (inviteId, direct) :: s.answers }

/-- `isDirectContactInvite`, up to where it waits for the row. -/
def isDirectContactInvite (inviteId : String) (s : Provenance) : Provenance :=
  let id := trim inviteId
  if id = "" then s.answer id false
  else if id ∈ s.directContactInviteIds then s.answer id true
  else
    { s with
      asks := s.asks.set s.started ⟨id, .row⟩
      started := s.started + 1
      known := id :: s.known }

/-- The asking with the number `k` goes on, or its operation failed. A row that cannot be read
counts as one that is there; where the envelope cannot be read, nothing is answered. -/
def askStep (k : Nat) (ok : Bool) (s : Provenance) : Provenance :=
  match s.asks.get? k with
  | none => s
  | some ⟨id, .row⟩ =>
    if ok = false ∨ s.rows.has id = true then { s.answer id false with asks := s.asks.delete k }
    else { s with asks := s.asks.set k ⟨id, .envelope⟩ }
  | some ⟨id, .envelope⟩ =>
    if ok = false then { s with asks := s.asks.delete k }
    else if s.envelopes.get? id = some .direct then
      { (s.rememberDirectContactInvite id).answer id true with asks := s.asks.delete k }
    else { s.answer id false with asks := s.asks.delete k }

/-- `#shouldMaterializeDirectLink`, by what its two questions are answered. -/
def shouldMaterializeDirectLink (isActiveContact : Bool) (activeInviteId : String) (direct : Bool) :
    Bool :=
  isActiveContact || (decide (activeInviteId ≠ "") && direct)

/-! ## Runs -/

inductive Step where
  | personMints (inviteId : String) (kind : InviteKind)
  | machineMints (inviteId : String)
  | markAutoMinted (nowMs : Int) (inviteId reason : String) (expiresAtMs : Int)
  | markStep (k : Nat) (ok : Bool)
  | isDirectContactInvite (inviteId : String)
  | askStep (k : Nat) (ok : Bool)
  /-- The SDK drops the envelope. -/
  | envelopeDropped (inviteId : String)
  /-- The process ends, and with it what it remembered and had under way. -/
  | restart

def step (s : Provenance) : Step → Provenance
  | .personMints inviteId kind => s.personMints inviteId kind
  | .machineMints inviteId => s.machineMints inviteId
  | .markAutoMinted nowMs inviteId reason expiresAtMs =>
    s.markAutoMinted nowMs inviteId reason expiresAtMs
  | .markStep k ok => s.markStep k ok
  | .isDirectContactInvite inviteId => s.isDirectContactInvite inviteId
  | .askStep k ok => s.askStep k ok
  | .envelopeDropped inviteId => { s with envelopes := s.envelopes.delete inviteId }
  | .restart =>
    { s with
      directContactInviteIds := []
      directInviteOrder := []
      marks := OrdMap.empty
      asks := OrdMap.empty }

/-- The SDK mints ids that were never seen before, and that have no blanks around them; and
recovery marks what it minted. -/
def Regular (s : Provenance) : Step → Prop
  | .personMints inviteId _ => inviteId ∉ s.known ∧ trim inviteId = inviteId
  | .machineMints inviteId => inviteId ∉ s.known ∧ trim inviteId = inviteId
  | .markAutoMinted _ inviteId _ _ => trim inviteId ∈ s.autoMinted
  | _ => True

/-- What has to be so before a step, for provenance to be kept: a prune deletes no row of an
invite whose envelope is stored, and an invite of machinery is not asked for before its row has
been written. -/
def KeepsProvenance (s : Provenance) : Step → Prop
  | .markStep k true =>
    match (s.marks.get? k).map Mark.stage with
    | some (.deleting (id :: _)) => s.envelopes.get? id ≠ some .direct
    | _ => True
  | .isDirectContactInvite inviteId =>
    trim inviteId ∈ s.autoMinted → trim inviteId ∈ s.marked
  | _ => True

instance (s : Provenance) (t : Step) : Decidable (s.Regular t) := by
  cases t <;> unfold Regular <;> infer_instance

instance (s : Provenance) (t : Step) : Decidable (s.KeepsProvenance t) := by
  unfold KeepsProvenance
  split
  · split <;> infer_instance
  · infer_instance
  · infer_instance

/-! ## What a run keeps -/

/-- What is known of an asking that is under way. -/
def Sound (s : Provenance) (ask : Ask) : Prop :=
  (ask.inviteId ∈ s.known ∧ trim ask.inviteId = ask.inviteId) ∧
    (ask.inviteId ∈ s.autoMinted → ask.inviteId ∈ s.marked ∧
      (ask.stage = .envelope → s.envelopes.get? ask.inviteId ≠ some .direct))

/-- Between two steps, an invite of machinery that was ever marked has its row, unless it has no
envelope that could pass for a person's; and none was taken for a person's. -/
structure Kept (s : Provenance) : Prop where
  minted : ∀ id ∈ s.autoMinted, id ∈ s.known
  marking : ∀ k mark, s.marks.get? k = some mark → mark.row.inviteId ∈ s.known
  marked : ∀ id ∈ s.marked, id ∈ s.known ∧
    (s.rows.has id = true ∨ s.envelopes.get? id ≠ some .direct)
  asking : ∀ k ask, s.asks.get? k = some ask → s.Sound ask
  remembered : ∀ id ∈ s.directContactInviteIds, id ∈ s.known ∧ id ∉ s.autoMinted
  answered : ∀ id, (id, true) ∈ s.answers → id ∈ s.known ∧ id ∉ s.autoMinted

variable {s : Provenance} {id inviteId : String}

theorem kept_empty : Kept empty where
  minted _ h := by cases h
  marking _ _ h := by cases h
  marked _ h := by cases h
  asking _ _ h := by cases h
  remembered _ h := by cases h
  answered _ h := by cases h

/-! ### Remembering and answering -/

theorem evictIds_subset (ids order : List String) : ∀ id ∈ (evictIds ids order).1, id ∈ ids :=
  fun _ h => (mem_filter.1 h).1

/-- Remembering changes nothing but what is remembered, and adds at most the one id. -/
theorem remember_eq (inviteId : String) (s : Provenance) : ∃ ids order,
    s.rememberDirectContactInvite inviteId =
      { s with directContactInviteIds := ids, directInviteOrder := order } ∧
    ∀ id ∈ ids, id ∈ s.directContactInviteIds ∨ id = trim inviteId := by
  rw [rememberDirectContactInvite]
  split_ifs with h
  · exact ⟨s.directContactInviteIds, s.directInviteOrder, rfl, fun _ hid => .inl hid⟩
  · refine ⟨_, _, rfl, fun id hid => ?_⟩
    rcases List.mem_append.1 (evictIds_subset _ _ id hid) with hold | hnew
    · exact .inl hold
    · exact .inr (mem_singleton.1 hnew)

theorem Kept.remember (hs : s.Kept) (hknown : trim inviteId ∈ s.known)
    (hperson : trim inviteId ∉ s.autoMinted) : (s.rememberDirectContactInvite inviteId).Kept := by
  obtain ⟨ids, order, heq, hids⟩ := remember_eq inviteId s
  rw [heq]
  refine ⟨hs.minted, hs.marking, hs.marked, hs.asking, fun id hid => ?_, hs.answered⟩
  rcases hids id hid with hold | rfl
  · exact hs.remembered id hold
  · exact ⟨hknown, hperson⟩

theorem Kept.answer_false (hs : s.Kept) : (s.answer id false).Kept :=
  { hs with
    answered := fun id' hid => by
      rcases mem_cons.1 hid with heq | hold
      · cases (Prod.mk.inj heq).2
      · exact hs.answered id' hold }

theorem Kept.answer_true (hs : s.Kept) (hknown : id ∈ s.known) (hperson : id ∉ s.autoMinted) :
    (s.answer id true).Kept :=
  { hs with
    answered := fun id' hid => by
      rcases mem_cons.1 hid with heq | hold
      · rw [(Prod.mk.inj heq).1]
        exact ⟨hknown, hperson⟩
      · exact hs.answered id' hold }

/-! ### Minting -/

/-- A fresh envelope is of no invite that anything was known of. -/
theorem get?_envelopes_of_known {kind : InviteKind} (hfresh : inviteId ∉ s.known) (hid : id ∈ s.known) :
    (s.envelopes.set inviteId kind).get? id = s.envelopes.get? id :=
  get?_set_of_ne _ _ fun heq => hfresh (heq ▸ hid)

section

variable (hs : s.Kept)
include hs

theorem Kept.personMints {kind : InviteKind} (hfresh : inviteId ∉ s.known)
    (htrim : trim inviteId = inviteId) : (s.personMints inviteId kind).Kept := by
  have hstored : Kept { s with
      envelopes := s.envelopes.set inviteId kind, known := inviteId :: s.known } := {
    minted := fun id hid => mem_cons_of_mem _ (hs.minted id hid)
    marking := fun k mark hk => mem_cons_of_mem _ (hs.marking k mark hk)
    marked := fun id hid => by
      have hold := hs.marked id hid
      refine ⟨mem_cons_of_mem _ hold.1, ?_⟩
      rw [get?_envelopes_of_known hfresh hold.1]
      exact hold.2
    asking := fun k ask hk => by
      have hold := hs.asking k ask hk
      refine ⟨⟨mem_cons_of_mem _ hold.1.1, hold.1.2⟩, fun hauto => ?_⟩
      rw [get?_envelopes_of_known hfresh hold.1.1]
      exact hold.2 hauto
    remembered := fun id hid =>
      ⟨mem_cons_of_mem _ (hs.remembered id hid).1, (hs.remembered id hid).2⟩
    answered := fun id hid =>
      ⟨mem_cons_of_mem _ (hs.answered id hid).1, (hs.answered id hid).2⟩ }
  cases kind with
  | group => exact hstored
  | direct =>
    unfold Provenance.personMints
    refine hstored.remember ?_ ?_
    · rw [htrim]
      exact mem_cons_self
    · rw [htrim]
      exact fun hauto => hfresh (hs.minted inviteId hauto)

theorem Kept.machineMints (hfresh : inviteId ∉ s.known) :
    (s.machineMints inviteId).Kept where
  minted id hid := by
    rcases mem_cons.1 hid with rfl | hold
    · exact mem_cons_self
    · exact mem_cons_of_mem _ (hs.minted id hold)
  marking k mark hk := mem_cons_of_mem _ (hs.marking k mark hk)
  marked id hid := by
    have hold := hs.marked id hid
    refine ⟨mem_cons_of_mem _ hold.1, ?_⟩
    rw [Provenance.machineMints, get?_envelopes_of_known hfresh hold.1]
    exact hold.2
  asking k ask hk := by
    have hold := hs.asking k ask hk
    refine ⟨⟨mem_cons_of_mem _ hold.1.1, hold.1.2⟩, fun hauto => ?_⟩
    rw [Provenance.machineMints, get?_envelopes_of_known hfresh hold.1.1]
    refine hold.2 ?_
    rcases mem_cons.1 hauto with heq | hold'
    · exact absurd (heq ▸ hold.1.1) hfresh
    · exact hold'
  remembered id hid := by
    have hold := hs.remembered id hid
    refine ⟨mem_cons_of_mem _ hold.1, fun hauto => ?_⟩
    rcases mem_cons.1 hauto with rfl | hold'
    · exact hfresh hold.1
    · exact hold.2 hold'
  answered id hid := by
    have hold := hs.answered id hid
    refine ⟨mem_cons_of_mem _ hold.1, fun hauto => ?_⟩
    rcases mem_cons.1 hauto with rfl | hold'
    · exact hfresh hold.1
    · exact hold.2 hold'

/-! ### Marking -/

theorem Kept.markAutoMinted {nowMs expiresAtMs : Int} {reason : String}
    (hauto : trim inviteId ∈ s.autoMinted) :
    (s.markAutoMinted nowMs inviteId reason expiresAtMs).Kept := by
  unfold Provenance.markAutoMinted
  by_cases hempty : trim inviteId = ""
  · rw [if_pos hempty]
    exact hs
  · rw [if_neg hempty]
    refine { hs with marking := fun k mark hk => ?_ }
    dsimp only at hk
    rw [get?_set] at hk
    by_cases hnew : k = s.started
    · rw [if_pos hnew] at hk
      rw [← Option.some_inj.1 hk]
      exact hs.minted _ hauto
    · rw [if_neg hnew] at hk
      exact hs.marking k mark hk

theorem Kept.marks_delete (k : Nat) : Kept { s with marks := s.marks.delete k } := by
  refine { hs with marking := fun j mark hj => ?_ }
  dsimp only at hj
  rw [get?_delete] at hj
  split_ifs at hj
  exact hs.marking j mark hj

theorem Kept.marks_set {k : Nat} {mark : Mark} (hmark : mark.row.inviteId ∈ s.known) :
    Kept { s with marks := s.marks.set k mark } := by
  refine { hs with marking := fun j mark' hj => ?_ }
  dsimp only at hj
  rw [get?_set] at hj
  split_ifs at hj
  · rw [← Option.some_inj.1 hj]
    exact hmark
  · exact hs.marking j mark' hj

/-- The row is written. -/
theorem Kept.rowWritten {row : AutoMintedInvite} (hknown : row.inviteId ∈ s.known) :
    Kept { s with
      rows := s.rows.set row.inviteId row, marked := row.inviteId :: s.marked } := by
  refine { hs with marked := fun id hid => ?_, asking := fun k ask hk => ?_ }
  · dsimp only
    rw [has_set]
    by_cases hrow : id = row.inviteId
    · rw [hrow, decide_eq_true rfl, Bool.true_or]
      exact ⟨hknown, .inl rfl⟩
    · rcases mem_cons.1 hid with heq | hold
      · exact absurd heq hrow
      · rw [decide_eq_false hrow, Bool.false_or]
        exact hs.marked id hold
  · have hold := hs.asking k ask hk
    exact ⟨hold.1, fun hauto => ⟨mem_cons_of_mem _ (hold.2 hauto).1, (hold.2 hauto).2⟩⟩

/-- A row is deleted whose invite has no envelope that could pass for a person's. -/
theorem Kept.rowDeleted (hdropped : s.envelopes.get? inviteId ≠ some .direct) :
    Kept { s with rows := s.rows.delete inviteId } := by
  refine { hs with marked := fun id hid => ?_ }
  obtain ⟨hknown, hkept⟩ := hs.marked id hid
  refine ⟨hknown, ?_⟩
  by_cases hrow : id = inviteId
  · rw [hrow]
    exact .inr hdropped
  · dsimp only
    rw [has_delete, decide_eq_false hrow]
    exact hkept

theorem Kept.markStep {k : Nat} {ok : Bool} (hok : s.KeepsProvenance (.markStep k ok)) :
    (s.markStep k ok).Kept := by
  rw [Provenance.markStep]
  cases hmark : s.marks.get? k with
  | none => exact hs
  | some mark =>
    have hknown := hs.marking k mark hmark
    dsimp only
    split_ifs with hfail
    · exact hs.marks_delete k
    · rw [Bool.not_eq_false] at hfail
      split
      · exact (hs.rowWritten hknown).marks_set hknown
      · exact hs.marks_set hknown
      · exact hs.marks_delete k
      · next id inviteIds hstage =>
        unfold KeepsProvenance at hok
        rw [hfail] at hok
        dsimp only at hok
        rw [hmark, Option.map_some, hstage] at hok
        have hdropped : s.envelopes.get? id ≠ some .direct := hok
        exact (hs.rowDeleted hdropped).marks_set hknown

/-! ### Asking -/

theorem Kept.asks_delete (k : Nat) : Kept { s with asks := s.asks.delete k } := by
  refine { hs with asking := fun j ask hj => ?_ }
  dsimp only at hj
  rw [get?_delete] at hj
  split_ifs at hj
  exact hs.asking j ask hj

theorem Kept.asks_set {k : Nat} {ask : Ask} (hask : s.Sound ask) :
    Kept { s with asks := s.asks.set k ask } := by
  refine { hs with asking := fun j ask' hj => ?_ }
  dsimp only at hj
  rw [get?_set] at hj
  split_ifs at hj
  · rw [← Option.some_inj.1 hj]
    exact hask
  · exact hs.asking j ask' hj

theorem Kept.isDirectContactInvite
    (hok : s.KeepsProvenance (.isDirectContactInvite inviteId)) :
    (s.isDirectContactInvite inviteId).Kept := by
  have hmarked : trim inviteId ∈ s.autoMinted → trim inviteId ∈ s.marked := hok
  rw [Provenance.isDirectContactInvite]
  split_ifs with hempty hmem
  · exact hs.answer_false
  · exact hs.answer_true (hs.remembered _ hmem).1 (hs.remembered _ hmem).2
  · -- the id is known from now on
    have hknown : Kept { s with started := s.started + 1, known := trim inviteId :: s.known } := {
      minted := fun id hid => mem_cons_of_mem _ (hs.minted id hid)
      marking := fun k mark hk => mem_cons_of_mem _ (hs.marking k mark hk)
      marked := fun id hid => ⟨mem_cons_of_mem _ (hs.marked id hid).1, (hs.marked id hid).2⟩
      asking := fun k ask hk => by
        have hold := hs.asking k ask hk
        exact ⟨⟨mem_cons_of_mem _ hold.1.1, hold.1.2⟩, hold.2⟩
      remembered := fun id hid =>
        ⟨mem_cons_of_mem _ (hs.remembered id hid).1, (hs.remembered id hid).2⟩
      answered := fun id hid =>
        ⟨mem_cons_of_mem _ (hs.answered id hid).1, (hs.answered id hid).2⟩ }
    refine hknown.asks_set ⟨⟨mem_cons_self, trim_trim inviteId⟩, fun hauto =>
      ⟨hmarked hauto, fun hstage => ?_⟩⟩
    cases hstage

theorem Kept.askStep (k : Nat) (ok : Bool) : (s.askStep k ok).Kept := by
  rw [Provenance.askStep]
  split
  · exact hs
  · next id hask =>
    obtain ⟨hknown, hauto⟩ := hs.asking k _ hask
    split_ifs with hrow
    · exact (hs.answer_false).asks_delete k
    · -- a marked invite without a row has no envelope to pass for a person's
      rw [not_or, Bool.not_eq_true] at hrow
      refine hs.asks_set ⟨hknown, fun hmint => ⟨(hauto hmint).1, fun _ => ?_⟩⟩
      rcases (hs.marked id (hauto hmint).1).2 with hhas | hdropped
      · exact absurd (hhas.symm.trans hrow.2) (by decide)
      · exact hdropped
  · next id hask =>
    obtain ⟨hknown, hauto⟩ := hs.asking k _ hask
    split_ifs with hfail hdirect
    · exact hs.asks_delete k
    · have hperson : id ∉ s.autoMinted := fun hmint => (hauto hmint).2 rfl hdirect
      have hremembered : (s.rememberDirectContactInvite id).Kept := by
        refine hs.remember ?_ ?_
        · rw [hknown.2]
          exact hknown.1
        · rw [hknown.2]
          exact hperson
      obtain ⟨ids, order, heq, -⟩ := remember_eq id s
      rw [heq] at hremembered ⊢
      exact (hremembered.answer_true hknown.1 hperson).asks_delete k
    · exact (hs.answer_false).asks_delete k

/-! ### Runs -/

theorem Kept.envelopeDropped :
    Kept { s with envelopes := s.envelopes.delete inviteId } := by
  have hdropped : ∀ id, s.envelopes.get? id ≠ some .direct →
      (s.envelopes.delete inviteId).get? id ≠ some .direct := by
    intro id hid
    rw [get?_delete]
    split_ifs
    · exact fun h => by cases h
    · exact hid
  refine { hs with marked := fun id hid => ?_, asking := fun k ask hk => ?_ }
  · exact ⟨(hs.marked id hid).1, (hs.marked id hid).2.imp_right (hdropped id)⟩
  · have hold := hs.asking k ask hk
    exact ⟨hold.1, fun hauto =>
      ⟨(hold.2 hauto).1, fun hstage => hdropped _ ((hold.2 hauto).2 hstage)⟩⟩

theorem Kept.restart : (s.step .restart).Kept where
  minted := hs.minted
  marking _ _ h := by cases h
  marked := hs.marked
  asking _ _ h := by cases h
  remembered _ h := by cases h
  answered := hs.answered

theorem Kept.step {t : Step} (hregular : s.Regular t) (hok : s.KeepsProvenance t) :
    (s.step t).Kept := by
  cases t with
  | personMints inviteId kind => exact hs.personMints hregular.1 hregular.2
  | machineMints inviteId => exact hs.machineMints hregular.1
  | markAutoMinted nowMs inviteId reason expiresAtMs => exact hs.markAutoMinted hregular
  | markStep k ok => exact hs.markStep hok
  | isDirectContactInvite inviteId => exact hs.isDirectContactInvite hok
  | askStep k ok => exact hs.askStep k ok
  | envelopeDropped inviteId => exact hs.envelopeDropped
  | restart => exact hs.restart

end

/-- **No invite of machinery counts as a person's**, however often the process restarts and
however much time goes by, as long as no prune deletes the row of one whose envelope is stored, and
none is asked for before its row was written. A link it re-keys does not become a contact. -/
theorem autoMinted_never_direct (steps : List Step)
    (hregular : Runs.Meets step Regular empty steps)
    (hok : Runs.Meets step KeepsProvenance empty steps) :
    ∀ id ∈ (run step empty steps).autoMinted, ∀ direct,
      (id, direct) ∈ (run step empty steps).answers →
        direct = false ∧ shouldMaterializeDirectLink false id direct = false := by
  have hkept : (run step empty steps).Kept :=
    invariant step (fun s t hs hboth => hs.step hboth.1 hboth.2) steps empty kept_empty
      (Runs.Meets.and step steps hregular hok)
  intro id hauto direct hanswer
  cases direct with
  | false =>
    refine ⟨rfl, ?_⟩
    rw [shouldMaterializeDirectLink, Bool.and_false, Bool.or_false]
  | true => exact absurd hauto (hkept.answered id hanswer).2

/-- An invite of machinery is marked, outlives the process, and is asked for. -/
theorem autoMinted_never_direct_restarted :
    ("r", false) ∈ (run step empty
      [.machineMints "r", .markAutoMinted 0 "r" "peerlink-recovery" 300000, .markStep 0 true,
        .markStep 0 true, .markStep 0 true, .restart, .isDirectContactInvite "r",
        .askStep 1 true]).answers ∧
    false = false ∧ shouldMaterializeDirectLink false "r" false = false :=
  ⟨by decide, autoMinted_never_direct
    [.machineMints "r", .markAutoMinted 0 "r" "peerlink-recovery" 300000, .markStep 0 true,
      .markStep 0 true, .markStep 0 true, .restart, .isDirectContactInvite "r", .askStep 1 true]
    (by decide) (by decide) "r" (by decide) false (by decide)⟩

/-- A day after its row was written, the next invite of machinery takes the row with it, and the
first one passes for a person's. -/
theorem pruned_passes_for_person : ¬∀ steps : List Step, Runs.Meets step Regular empty steps →
    ∀ id ∈ (run step empty steps).autoMinted, ∀ direct,
      (id, direct) ∈ (run step empty steps).answers →
        direct = false ∧ shouldMaterializeDirectLink false id direct = false := by
  intro hclaim
  have hfalse := hclaim
    [.machineMints "r", .markAutoMinted 0 "r" "peerlink-recovery" 300000, .markStep 0 true,
      .markStep 0 true, .markStep 0 true, .machineMints "q",
      .markAutoMinted 90000000 "q" "peerlink-recovery" 90300000, .markStep 1 true, .markStep 1 true,
      .markStep 1 true, .markStep 1 true, .isDirectContactInvite "r", .askStep 2 true,
      .askStep 2 true] (by decide) "r" (by decide) true (by decide)
  exact absurd hfalse.1 (by decide)

end Provenance

end RezChat.PeerLinks
