/-
The index of the messages that a node has queued (`services/ServerMessagesService.js`,
`#trackQueuedMessage`, `#discardQueueTracking`, `#applyOutboundStatusToMessage`).

It is kept in both directions: an inbox has the set of the messages that are queued for it, and a
message has an entry with the inboxes that are outstanding. A frame of the node takes the message
out of both at once, awaits the write of the status, and then deletes the entry of the message if
the entry that it held has nothing outstanding. When the message was sent again meanwhile it has
another entry, which is deleted instead, and its inbox is left with a message that has no entry
(`resend_loses_entry`).

Where the entry that is deleted is the one that was held, the two directions agree after every
step, and no entry of a resend is lost (`queue_index_iff`).
-/
import RezChat.Delivery.Status

set_option autoImplicit false

namespace RezChat.Delivery

open Inbox (trim)
open Messages (ChatMessage ChatThread Collation StatusCall StatusWrite Store)
open Option OrdMap Memory Service List

/-! ## The index -/

namespace Memory

/-- The messages that are queued for an inbox. -/
def queuedIn (m : Memory) (inboxId : String) : List String :=
  (m.queuedByInbox.get? inboxId).getD []

/-- The inboxes that are outstanding in the entry of a message. -/
def outstanding (m : Memory) (messageId : String) : List String :=
  ((m.tracking? messageId).map fun r => r.2.outstandingInboxIds).getD []

/-- **The law**: the two directions agree. -/
def Mirrored (m : Memory) : Prop :=
  ∀ messageId inboxId, messageId ∈ m.queuedIn inboxId ↔ inboxId ∈ m.outstanding messageId

/-- What is kept of the entries: each message has its own, under a number that was given, and the
two directions agree. -/
structure Indexed (m : Memory) : Prop where
  numbered : ∀ messageId n, m.queueTracking.get? messageId = some n → n < m.tracked
  held : ∀ messageId n, m.queueTracking.get? messageId = some n → ∃ t, m.trackings.get? n = some t
  distinct : ∀ messageId messageId' n, m.queueTracking.get? messageId = some n →
    m.queueTracking.get? messageId' = some n → messageId = messageId'
  mirrored : m.Mirrored

theorem indexed_empty : empty.Indexed :=
  ⟨fun _ _ h => (nomatch h), fun _ _ h => (nomatch h), fun _ _ _ h => (nomatch h),
    fun _ _ => ⟨fun h => (nomatch h), fun h => (nomatch h)⟩⟩

theorem mem_addId {id id' : String} {ids : List String} : id ∈ addId id' ids ↔ id = id' ∨ id ∈ ids := by
  unfold addId
  split_ifs with hmem
  · constructor
    · exact .inr
    · rintro (rfl | h)
      · exact hmem
      · exact h
  · rw [mem_append, mem_singleton, or_comm]

variable {messageId : String}

theorem outstanding_of_none {m : Memory}
    (h : m.queueTracking.get? messageId = none) : m.outstanding messageId = [] := by
  rw [outstanding, tracking?, h]
  rfl

theorem outstanding_of_some {m : Memory} {n : Nat} {t : Tracking}
    (h : m.queueTracking.get? messageId = some n) (ht : m.trackings.get? n = some t) :
    m.outstanding messageId = t.outstandingInboxIds := by
  rw [outstanding, tracking?, h, bind_some, ht]
  rfl

theorem tracking?_eq_some {m : Memory} {n : Nat} {t : Tracking} :
    m.tracking? messageId = some (n, t) ↔
      m.queueTracking.get? messageId = some n ∧ m.trackings.get? n = some t := by
  constructor
  · intro h
    rw [tracking?, bind_eq_some_iff] at h
    obtain ⟨n', hn, h⟩ := h
    rw [map_eq_some_iff] at h
    obtain ⟨t', ht, h⟩ := h
    rw [Prod.mk.injEq] at h
    rw [← h.1, ← h.2]
    exact ⟨hn, ht⟩
  · rintro ⟨hn, ht⟩
    rw [tracking?, hn, bind_some, ht]
    rfl

section Entries

variable {m m' : Memory}

variable {messageId : String} {n : Nat}

/-- The entries of the other messages do not depend on the entry of one. -/
theorem Indexed.outstanding_set (h : m.Indexed) {t : Tracking}
    (hn : m.queueTracking.get? messageId = some n) (queued : OrdMap String (List String))
    (messageId' : String) :
    outstanding { m with trackings := m.trackings.set n t, queuedByInbox := queued } messageId' =
      if messageId' = messageId then t.outstandingInboxIds else m.outstanding messageId' := by
  by_cases hkey : messageId' = messageId
  · rw [if_pos hkey, hkey]
    exact outstanding_of_some hn (get?_set_self _ _ _)
  · rw [if_neg hkey]
    cases hget : m.queueTracking.get? messageId' with
    | none =>
      rw [outstanding_of_none hget]
      exact outstanding_of_none hget
    | some n' =>
      obtain ⟨t', ht'⟩ := h.held messageId' n' hget
      have hne : n' ≠ n := fun heq => hkey (h.distinct messageId' messageId n' hget (heq ▸ hn))
      rw [outstanding_of_some hget ht']
      refine outstanding_of_some hget ?_
      rw [← ht']
      exact get?_set_of_ne _ _ hne

variable {queued : OrdMap String (List String)}

/-- The entry of a message is replaced, with the sets of the inboxes. -/
theorem Indexed.replace (h : m.Indexed) {t : Tracking}
    (hn : m.queueTracking.get? messageId = some n)
    (hqueued : ∀ id inboxId, id ∈ (queued.get? inboxId).getD [] ↔
      if id = messageId then inboxId ∈ t.outstandingInboxIds else id ∈ m.queuedIn inboxId) :
    Indexed { m with trackings := m.trackings.set n t, queuedByInbox := queued } := by
  refine ⟨h.numbered, fun id n' hget => ?_, h.distinct, fun id inboxId => ?_⟩
  · by_cases hkey : n' = n
    · exact ⟨t, by rw [hkey]; exact get?_set_self _ _ _⟩
    · obtain ⟨t', ht'⟩ := h.held id n' hget
      exact ⟨t', by rw [← ht']; exact get?_set_of_ne _ _ hkey⟩
  · rw [h.outstanding_set hn queued id]
    show id ∈ (queued.get? inboxId).getD [] ↔ _
    rw [hqueued id inboxId]
    by_cases hkey : id = messageId
    · rw [if_pos hkey, if_pos hkey]
    · rw [if_neg hkey, if_neg hkey]
      exact h.mirrored id inboxId

/-- The entry of a message is deleted, with the sets of the inboxes. -/
theorem Indexed.erase (h : m.Indexed)
    (hqueued : ∀ id inboxId, id ∈ (queued.get? inboxId).getD [] ↔
      id ≠ messageId ∧ id ∈ m.queuedIn inboxId) :
    Indexed { m with queueTracking := m.queueTracking.delete messageId, queuedByInbox := queued } := by
  have hget : ∀ {id : String} {n : Nat},
      (m.queueTracking.delete messageId).get? id = some n → m.queueTracking.get? id = some n := by
    intro id n hn
    rw [get?_delete] at hn
    split_ifs at hn
    exact hn
  refine ⟨fun id n hn => h.numbered id n (hget hn), fun id n hn => h.held id n (hget hn),
    fun id id' n hn hn' => h.distinct id id' n (hget hn) (hget hn'), fun id inboxId => ?_⟩
  show id ∈ (queued.get? inboxId).getD [] ↔ _
  rw [hqueued id inboxId]
  by_cases hkey : id = messageId
  · have hnone : outstanding { m with
        queueTracking := m.queueTracking.delete messageId, queuedByInbox := queued } id = [] :=
      outstanding_of_none (by rw [hkey]; exact get?_delete_self _ _)
    rw [hnone]
    constructor
    · rintro ⟨hne, -⟩
      exact absurd hkey hne
    · intro hmem
      exact nomatch hmem
  · have hsame : outstanding { m with
        queueTracking := m.queueTracking.delete messageId, queuedByInbox := queued } id =
        m.outstanding id := by
      unfold outstanding tracking?
      dsimp only
      rw [get?_delete_of_ne _ hkey]
    rw [hsame, ← h.mirrored id inboxId]
    exact ⟨fun hmem => hmem.2, fun hmem => ⟨hkey, hmem⟩⟩

/-- What is not part of the index does not matter. -/
theorem Indexed.congr (h : m.Indexed) (hqueued : m'.queuedByInbox = m.queuedByInbox)
    (htracking : m'.queueTracking = m.queueTracking) (htrackings : m'.trackings = m.trackings)
    (htracked : m'.tracked = m.tracked) : m'.Indexed := by
  cases m
  cases m'
  cases hqueued
  cases htracking
  cases htrackings
  cases htracked
  exact ⟨h.numbered, h.held, h.distinct, h.mirrored⟩

/-- A message with an entry is queued for one more inbox. -/
theorem Indexed.trackInbox (h : m.Indexed)
    (hn : m.queueTracking.get? messageId = some n) (inboxId : String) :
    (m.trackInbox messageId n inboxId).Indexed := by
  obtain ⟨t, ht⟩ := h.held messageId n hn
  have heq : m.trackInbox messageId n inboxId = { m with
      trackings := m.trackings.set n
        { t with outstandingInboxIds := addId inboxId t.outstandingInboxIds }
      queuedByInbox := m.queuedByInbox.set inboxId (addId messageId (m.queuedIn inboxId)) } := by
    unfold Memory.trackInbox
    rw [ht]
    rfl
  rw [heq]
  refine h.replace hn fun id inboxId' => ?_
  have hmirrored := h.mirrored id inboxId'
  rw [get?_set]
  by_cases hinbox : inboxId' = inboxId
  · rw [if_pos hinbox, getD_some, mem_addId]
    by_cases hkey : id = messageId
    · rw [if_pos hkey, mem_addId]
      exact ⟨fun _ => .inl hinbox, fun _ => .inl hkey⟩
    · rw [if_neg hkey, hinbox]
      exact ⟨fun hmem => hmem.resolve_left hkey, .inr⟩
  · rw [if_neg hinbox]
    show id ∈ m.queuedIn inboxId' ↔ _
    by_cases hkey : id = messageId
    · rw [if_pos hkey, mem_addId, hmirrored, hkey, outstanding_of_some hn ht]
      exact ⟨.inr, fun hmem => hmem.resolve_left hinbox⟩
    · rw [if_neg hkey]

theorem Indexed.trackInboxes : ∀ (inboxIds : List String) {m : Memory},
    m.Indexed → m.queueTracking.get? messageId = some n →
      (inboxIds.foldl (Memory.trackInbox messageId n) m).Indexed
  | [], _, h, _ => h
  | inboxId :: inboxIds, _, h, hn =>
    -- the entry is the same one for every inbox
    Indexed.trackInboxes inboxIds (h.trackInbox hn inboxId) hn

/-- A message comes to have an entry. -/
theorem Indexed.ensureTracking (h : m.Indexed) (threadId messageId : String) :
    (m.ensureTracking threadId messageId).2.Indexed ∧
      (m.ensureTracking threadId messageId).2.queueTracking.get? messageId =
        some (m.ensureTracking threadId messageId).1 := by
  unfold Memory.ensureTracking
  cases hget : m.queueTracking.get? messageId with
  | some n => exact ⟨h, hget⟩
  | none =>
    have hset : ∀ {id : String} {n : Nat},
        (m.queueTracking.set messageId m.tracked).get? id = some n →
        (id = messageId ∧ n = m.tracked) ∨ (id ≠ messageId ∧ m.queueTracking.get? id = some n) := by
      intro id n hn
      rw [get?_set] at hn
      by_cases hkey : id = messageId
      · rw [if_pos hkey, some_inj] at hn
        exact .inl ⟨hkey, hn.symm⟩
      · rw [if_neg hkey] at hn
        exact .inr ⟨hkey, hn⟩
    refine ⟨⟨fun id n hn => ?_, fun id n hn => ?_, fun id id' n hn hn' => ?_, fun id inboxId => ?_⟩,
      get?_set_self _ _ _⟩
    · show n < m.tracked + 1
      rcases hset hn with ⟨-, rfl⟩ | ⟨-, hold⟩
      · exact Nat.lt_succ_self _
      · exact Nat.lt_succ_of_lt (h.numbered id n hold)
    · show ∃ t, (m.trackings.set m.tracked _).get? n = some t
      rcases hset hn with ⟨-, rfl⟩ | ⟨-, hold⟩
      · exact ⟨_, get?_set_self _ _ _⟩
      · obtain ⟨t, ht⟩ := h.held id n hold
        have hlt := h.numbered id n hold
        exact ⟨t, by rw [get?_set_of_ne _ _ (by omega)]; exact ht⟩
    · -- the new number is none of those that were given
      rcases hset hn with ⟨hid, hnew⟩ | ⟨-, hold⟩
      · rcases hset hn' with ⟨hid', -⟩ | ⟨-, hold'⟩
        · rw [hid, hid']
        · have hlt := h.numbered id' n hold'
          omega
      · rcases hset hn' with ⟨-, hnew'⟩ | ⟨-, hold'⟩
        · have hlt := h.numbered id n hold
          omega
        · exact h.distinct id id' n hold hold'
    · show id ∈ m.queuedIn inboxId ↔ _
      rw [h.mirrored id inboxId]
      by_cases hkey : id = messageId
      · rw [hkey, outstanding_of_none hget]
        rw [outstanding_of_some (get?_set_self _ _ _) (get?_set_self _ _ _)]
      · have hsame : outstanding { m.putTracking m.tracked ⟨threadId, [], false⟩ with
            queueTracking := m.queueTracking.set messageId m.tracked
            tracked := m.tracked + 1 } id = m.outstanding id := by
          have hold : (m.queueTracking.set messageId m.tracked).get? id =
              m.queueTracking.get? id := get?_set_of_ne _ _ hkey
          cases hid : m.queueTracking.get? id with
          | none => rw [outstanding_of_none hid, outstanding_of_none (hold.trans hid)]
          | some n =>
            obtain ⟨t, ht⟩ := h.held id n hid
            have hlt := h.numbered id n hid
            rw [outstanding_of_some hid ht]
            refine outstanding_of_some (hold.trans hid) ?_
            rw [← ht]
            exact get?_set_of_ne _ _ (by omega)
        rw [hsame]

theorem Indexed.trackQueuedMessage (h : m.Indexed) (threadId messageId : String)
    (inboxIds : List String) : (m.trackQueuedMessage threadId messageId inboxIds).Indexed := by
  unfold Memory.trackQueuedMessage
  split_ifs
  · exact h
  · obtain ⟨hindexed, hget⟩ := h.ensureTracking threadId messageId
    exact Indexed.trackInboxes _ hindexed hget

/-- What an inbox has after a message left its set. -/
theorem mem_unqueue {messageId id inboxId inboxId' : String} :
    id ∈ ((unqueue messageId queued inboxId).get? inboxId').getD [] ↔
      id ∈ (queued.get? inboxId').getD [] ∧ ¬ (id = messageId ∧ inboxId' = inboxId) := by
  unfold unqueue
  cases hget : queued.get? inboxId with
  | none =>
    constructor
    · refine fun hmem => ⟨hmem, ?_⟩
      rintro ⟨-, rfl⟩
      rw [hget] at hmem
      exact nomatch hmem
    · exact And.left
  | some ids =>
    have hfilter : id ∈ ids.filter (fun id => decide (id ≠ messageId)) ↔ id ∈ ids ∧ id ≠ messageId := by
      rw [mem_filter, decide_eq_true_iff]
    dsimp only
    by_cases hinbox : inboxId' = inboxId
    · have hdropped : ((if ids.filter (fun id => decide (id ≠ messageId)) = [] then
          queued.delete inboxId
          else queued.set inboxId (ids.filter fun id => decide (id ≠ messageId))).get? inboxId').getD [] =
          ids.filter fun id => decide (id ≠ messageId) := by
        split_ifs with hnil
        · rw [hinbox, get?_delete_self, hnil]
          rfl
        · rw [hinbox, get?_set_self]
          rfl
      rw [hdropped, hfilter, hinbox, hget]
      exact ⟨fun hmem => ⟨hmem.1, fun hboth => hmem.2 hboth.1⟩,
        fun hmem => ⟨hmem.1, fun heq => hmem.2 ⟨heq, rfl⟩⟩⟩
    · have hsame : (if ids.filter (fun id => decide (id ≠ messageId)) = [] then
          queued.delete inboxId
          else queued.set inboxId (ids.filter fun id => decide (id ≠ messageId))).get? inboxId' =
          queued.get? inboxId' := by
        split_ifs
        · exact get?_delete_of_ne _ hinbox
        · exact get?_set_of_ne _ _ hinbox
      rw [hsame]
      exact ⟨fun hmem => ⟨hmem, fun hboth => hinbox hboth.2⟩, And.left⟩

theorem mem_unqueue_all {messageId id inboxId : String} : ∀ (inboxIds : List String)
    {queued : OrdMap String (List String)},
    id ∈ ((inboxIds.foldl (unqueue messageId) queued).get? inboxId).getD [] ↔
      id ∈ (queued.get? inboxId).getD [] ∧ ¬ (id = messageId ∧ inboxId ∈ inboxIds)
  | [], _ => ⟨fun hmem => ⟨hmem, fun hboth => (nomatch hboth.2)⟩, And.left⟩
  | inboxId' :: inboxIds, queued => by
    rw [foldl_cons, mem_unqueue_all inboxIds, mem_unqueue, mem_cons, and_assoc]
    refine and_congr_right fun _ => ?_
    tauto

theorem Indexed.discardQueueTracking (h : m.Indexed) (messageId : String) :
    (m.discardQueueTracking messageId).Indexed := by
  unfold Memory.discardQueueTracking
  split
  · exact h
  · rename_i n t htracking
    obtain ⟨hn, ht⟩ := tracking?_eq_some.1 htracking
    refine h.erase fun id inboxId => ?_
    rw [mem_unqueue_all]
    show id ∈ m.queuedIn inboxId ∧ _ ↔ _
    constructor
    · rintro ⟨hmem, hnot⟩
      refine ⟨fun hkey => hnot ⟨hkey, ?_⟩, hmem⟩
      rw [← outstanding_of_some hn ht, ← hkey]
      exact (h.mirrored id inboxId).1 hmem
    · rintro ⟨hne, hmem⟩
      exact ⟨hmem, fun hboth => hne hboth.1⟩

/-- What an inbox has after a frame took a message. -/
theorem mem_leaveInbox {messageId id inboxId inboxId' : String} :
    id ∈ (m.leaveInbox inboxId messageId).queuedIn inboxId' ↔
      id ∈ m.queuedIn inboxId' ∧ ¬ (id = messageId ∧ inboxId' = inboxId) := by
  unfold leaveInbox
  cases hget : m.queuedByInbox.get? inboxId with
  | none =>
    constructor
    · refine fun hmem => ⟨hmem, ?_⟩
      rintro ⟨-, rfl⟩
      rw [queuedIn, hget] at hmem
      exact nomatch hmem
    · exact And.left
  | some ids =>
    unfold queuedIn
    dsimp only
    rw [get?_set]
    by_cases hinbox : inboxId' = inboxId
    · rw [if_pos hinbox, hinbox, hget, getD_some, getD_some, mem_filter,
        decide_eq_true_iff]
      exact ⟨fun hmem => ⟨hmem.1, fun hboth => hmem.2 hboth.1⟩,
        fun hmem => ⟨hmem.1, fun heq => hmem.2 ⟨heq, rfl⟩⟩⟩
    · rw [if_neg hinbox]
      exact ⟨fun hmem => ⟨hmem, fun hboth => hinbox hboth.2⟩, And.left⟩

theorem leaveInbox_eq (inboxId messageId : String) (m : Memory) : m.leaveInbox inboxId messageId =
    { m with queuedByInbox := (m.leaveInbox inboxId messageId).queuedByInbox } := by
  unfold leaveInbox
  split <;> rfl

theorem tracking?_leaveInbox (inboxId messageId messageId' : String) (m : Memory) :
    (m.leaveInbox inboxId messageId).tracking? messageId' = m.tracking? messageId' := by
  rw [leaveInbox_eq]
  rfl

/-- A frame takes a message that has no entry. -/
theorem Indexed.leaveInbox (h : m.Indexed) {inboxId messageId : String}
    (hnone : m.queueTracking.get? messageId = none) : (m.leaveInbox inboxId messageId).Indexed := by
  have hmirrored : (m.leaveInbox inboxId messageId).Mirrored := by
    intro id inboxId'
    have hsame : (m.leaveInbox inboxId messageId).outstanding id = m.outstanding id := by
      unfold outstanding
      rw [tracking?_leaveInbox]
    rw [mem_leaveInbox, hsame, h.mirrored id inboxId']
    constructor
    · exact And.left
    · refine fun hmem => ⟨hmem, ?_⟩
      rintro ⟨rfl, -⟩
      rw [outstanding_of_none hnone] at hmem
      exact nomatch hmem
  rw [leaveInbox_eq] at hmirrored ⊢
  exact ⟨h.numbered, h.held, h.distinct, hmirrored⟩

/-- A frame takes a message out of both directions. -/
theorem Indexed.takeInbox (h : m.Indexed) {inboxId messageId : String} {t t' : Tracking}
    (hn : m.queueTracking.get? messageId = some n) (ht : m.trackings.get? n = some t)
    (ht' : t'.outstandingInboxIds =
      t.outstandingInboxIds.filter fun id => decide (id ≠ inboxId)) :
    ((m.leaveInbox inboxId messageId).putTracking n t').Indexed := by
  have hqueued : ∀ id inboxId', id ∈ (m.leaveInbox inboxId messageId).queuedIn inboxId' ↔
      id ∈ m.queuedIn inboxId' ∧ ¬ (id = messageId ∧ inboxId' = inboxId) :=
    fun _ _ => mem_leaveInbox
  rw [leaveInbox_eq] at hqueued ⊢
  refine h.replace hn fun id inboxId' => ?_
  have hqueued : id ∈ ((m.leaveInbox inboxId messageId).queuedByInbox.get? inboxId').getD [] ↔
      _ := hqueued id inboxId'
  rw [hqueued]
  by_cases hkey : id = messageId
  · rw [if_pos hkey, ht', mem_filter, decide_eq_true_iff, h.mirrored id inboxId', hkey,
      outstanding_of_some hn ht]
    exact and_congr_right fun _ => ⟨fun hnot heq => hnot ⟨rfl, heq⟩, fun hne hboth => hne hboth.2⟩
  · rw [if_neg hkey]
    exact ⟨And.left, fun hmem => ⟨hmem, fun hboth => hkey hboth.1⟩⟩

theorem Indexed.dropIfEmpty (h : m.Indexed) (inboxId : String) : (m.dropIfEmpty inboxId).Indexed := by
  unfold Memory.dropIfEmpty
  split_ifs with hempty
  · refine ⟨h.numbered, h.held, h.distinct, fun id inboxId' => ?_⟩
    refine Iff.trans ?_ (h.mirrored id inboxId')
    show id ∈ ((m.queuedByInbox.delete inboxId).get? inboxId').getD [] ↔ _
    by_cases hinbox : inboxId' = inboxId
    · rw [queuedIn, hinbox, get?_delete_self, hempty]
      rfl
    · rw [get?_delete_of_ne _ hinbox]
      rfl
  · exact h

/-- The entry that is deleted when an entry is settled is that one. -/
def SettlesOwn (m : Memory) (messageId : String) (n : Nat) : Prop :=
  (m.trackings.get? n).map Tracking.outstandingInboxIds = some [] →
    ∀ n' ∈ m.queueTracking.get? messageId, n' = n

/-- An entry with nothing outstanding is deleted. -/
theorem Indexed.closeTracking (h : m.Indexed)
    (hown : m.SettlesOwn messageId n) : (m.closeTracking messageId n).Indexed := by
  unfold Memory.closeTracking
  split_ifs with hnone
  · refine h.erase fun id inboxId => ?_
    show id ∈ m.queuedIn inboxId ↔ _
    refine ⟨fun hmem => ⟨?_, hmem⟩, And.right⟩
    rintro rfl
    rw [h.mirrored id inboxId] at hmem
    cases hget : m.queueTracking.get? id with
    | none =>
      rw [outstanding_of_none hget] at hmem
      exact nomatch hmem
    | some n' =>
      -- the entry is the one that was held, and has nothing outstanding
      have hsame : n' = n := hown hnone n' hget
      rw [hsame] at hget
      obtain ⟨t, ht⟩ := h.held id n hget
      rw [ht, map_some, some_inj] at hnone
      rw [outstanding_of_some hget ht, hnone] at hmem
      exact nomatch hmem
  · exact h

/-- The entry of a message after one was settled. -/
theorem get?_closeTracking (messageId : String) (n : Nat) (m : Memory) :
    (m.closeTracking messageId n).queueTracking.get? messageId =
      if (m.trackings.get? n).map Tracking.outstandingInboxIds = some [] then none
      else m.queueTracking.get? messageId := by
  unfold closeTracking
  split_ifs
  · exact get?_delete_self _ _
  · rfl

theorem settlesOwn_of_get?
    (hn : m.queueTracking.get? messageId = some n) : m.SettlesOwn messageId n := by
  intro _ n' hn'
  rw [mem_def, hn, some_inj] at hn'
  exact hn'.symm

theorem Indexed.forget (h : m.Indexed) (messageId : String) : (m.forget messageId).Indexed :=
  (h.discardQueueTracking messageId).congr rfl rfl rfl rfl

theorem Indexed.acked (h : m.Indexed) (threadId messageId : String) :
    (m.acked threadId messageId).Indexed := by
  refine Indexed.discardQueueTracking ?_ messageId
  exact h.congr rfl rfl rfl rfl

theorem Indexed.routed (h : m.Indexed) (threadId messageId : String) (now : Int) (r : Routed) :
    (m.routed threadId messageId now r).Indexed := by
  unfold Memory.routed
  split
  · split_ifs
    · exact h
    · exact h.congr rfl rfl rfl rfl
  · refine Indexed.trackQueuedMessage ?_ _ _ _
    exact h.congr rfl rfl rfl rfl
  · exact h
  · exact h
  · exact h

end Entries

end Memory

/-! ## Steps -/

/-- An entry is settled by the procedure that holds it. -/
def Phase.SettlesOwn (m : Memory) : Phase → Prop
  | .settled call _ (.frame _ n _) => m.SettlesOwn call.messageId n
  | _ => True

namespace Service

variable {c : Collation} {w : Service c} {m : Memory}

theorem indexed_trackPeer (h : m.Indexed) (threadId messageId : String)
    (thread : Option ChatThread) : (trackPeer threadId messageId thread m).Indexed := by
  unfold trackPeer
  split
  · exact h
  · split_ifs
    · exact h.trackQueuedMessage _ _ _
    · exact h

theorem indexed_recoverItems (nowMs : Int) (threadId : String) (todo : List String)
    (thread : Option (Option ChatThread)) : ∀ (items : List ChatMessage) {m : Memory}, m.Indexed →
    (recoverItems nowMs threadId todo thread items m).2.Indexed
  | [], _, h => h
  | message :: items, m, h => by
    have hpush : ∀ queuedAtMs, (m.pushQueued threadId message.messageId queuedAtMs).Indexed :=
      fun _ => h.congr rfl rfl rfl rfl
    rw [recoverItems]
    by_cases hqueued : message.status ≠ .queued
    · rw [if_pos hqueued]
      exact indexed_recoverItems nowMs threadId todo thread items h
    · rw [if_neg hqueued]
      by_cases hold : nowMs - message.createdAtMs > queueTtlMs
      · rw [if_pos hold]
        exact h
      · rw [if_neg hold]
        cases thread with
        | none => exact hpush _
        | some t =>
          exact indexed_recoverItems nowMs threadId todo (some t) items
            (indexed_trackPeer (hpush _) _ _ _)

theorem indexed_nextRetry (h : m.Indexed) (force : Bool) (nowMs : Int) :
    ∀ rows : List PendingCommit, (nextRetry force nowMs rows m).2.Indexed
  | [] => h.congr rfl rfl rfl rfl
  | row :: todo => by
    unfold nextRetry
    split_ifs
    · exact indexed_nextRetry h force nowMs todo
    · exact h

/-- A frame, up to its await, for one message. -/
theorem indexed_applyFrame (h : m.Indexed) (f : OutboundFrame) (todo : List String) :
    (applyFrame f todo m).2.Indexed := by
  cases todo with
  | nil => exact h.dropIfEmpty _
  | cons messageId todo =>
    rw [applyFrame]
    cases htracking : (m.leaveInbox f.deliverInboxId messageId).tracking? messageId with
    | none =>
      refine h.leaveInbox ?_
      rw [tracking?_leaveInbox] at htracking
      by_contra hne
      obtain ⟨n, hn⟩ := ne_none_iff_exists'.1 hne
      obtain ⟨t, ht⟩ := h.held messageId n hn
      rw [tracking?_eq_some.2 ⟨hn, ht⟩] at htracking
      cases htracking
    | some r =>
      obtain ⟨n, t⟩ := r
      rw [tracking?_leaveInbox, tracking?_eq_some] at htracking
      obtain ⟨hn, ht⟩ := htracking
      dsimp only
      split_ifs
      · exact h.takeInbox hn ht rfl
      · exact h.takeInbox hn ht rfl
      · refine (h.takeInbox hn ht rfl).closeTracking (settlesOwn_of_get? ?_)
        rw [leaveInbox_eq]
        exact hn

theorem memory_deposit (i : Nat) (call : SendCall) (w : Service c) :
    (w.deposit i call).memory = w.memory := by
  unfold deposit
  split <;> rfl

theorem memory_recordFact (call : SendCall) (w : Service c) :
    (w.recordFact call).memory = w.memory := by
  unfold recordFact
  split_ifs
  · rfl
  · rfl

theorem indexed_factRecorded (h : w.memory.Indexed) (response : Response) (call : SendCall) :
    (match response with
      | .ok | .throwsLate => w.recordFact call
      | .throws => w).memory.Indexed := by
  cases response with
  | ok => rw [memory_recordFact]; exact h
  | throws => exact h
  | throwsLate => rw [memory_recordFact]; exact h

theorem indexed_routed (h : w.memory.Indexed) (call : SendCall) (r : Routed) :
    (routed call r w).2.memory.Indexed :=
  Memory.Indexed.routed h call.threadId call.messageId call.nowMs r

theorem indexed_proceed (h : w.memory.Indexed) {call : StatusCall} {write : StatusWrite}
    {next : Next} (hown : (Phase.settled call write next).SettlesOwn w.memory) :
    ((w.emit call write).proceed call next).2.memory.Indexed := by
  cases next with
  | send send isGroup => exact h
  | deliveryAck acks => exact h.acked _ _
  | commitAck => exact h.acked _ _
  | frame f n todo =>
    have hown : w.memory.SettlesOwn call.messageId n := hown
    show (closeTracking call.messageId n (dropQueued call.messageId
      (if call.status = .sent then w.memory.expectAck call.threadId call.messageId
        else w.memory))).Indexed
    split_ifs
    · have hdropped : ((w.memory.expectAck call.threadId call.messageId).dropQueued
          call.messageId).Indexed := h.congr rfl rfl rfl rfl
      exact hdropped.closeTracking hown
    · have hdropped : (w.memory.dropQueued call.messageId).Indexed := h.congr rfl rfl rfl rfl
      exact hdropped.closeTracking hown
  | recovery r => exact indexed_recoverItems _ _ _ _ _ h

/-- **A turn** keeps the index, unless it settles an entry that is not its own. -/
theorem indexed_advance (h : w.memory.Indexed) (i : Nat) (response : Response) {p : Phase}
    (hown : p.SettlesOwn w.memory) : (advance i response p w).2.memory.Indexed := by
  cases p with
  | depositing call =>
    have hdeposit : (w.deposit i call).memory.Indexed := by
      rw [memory_deposit]
      exact h
    cases response with
    | ok => exact hdeposit
    | throws => exact h
    | throwsLate => exact hdeposit
  | recordingFact call =>
    have hfact := indexed_factRecorded h response call
    unfold advance
    dsimp only
    split_ifs
    · exact hfact
    · exact indexed_routed hfact call _
  | openingCommit call =>
    cases response with
    | ok =>
      unfold advance
      dsimp only
      split
      · exact h
      · split_ifs
        · exact h
        · exact h
    | throws => exact h
    | throwsLate => exact h
  | checkingCommit acks threadId messageId =>
    cases response with
    | ok =>
      unfold advance
      dsimp only
      split
      · exact h
      · exact h
    | throws => exact h
    | throwsLate => exact h
  | findingClaim ack =>
    cases response with
    | ok =>
      unfold advance
      dsimp only
      split
      · exact h
      · exact h
    | throws => exact h
    | throwsLate => exact h
  | findingThread ack threadId =>
    cases response with
    | ok =>
      unfold advance
      dsimp only
      split
      · exact h
      · split_ifs
        · exact h
        · exact h
    | throws => exact h
    | throwsLate => exact h
  | nextOfFrame f todo => exact indexed_applyFrame h f todo
  | listingMessages r =>
    cases response with
    | ok => exact indexed_recoverItems _ _ _ _ _ h
    | throws => exact h
    | throwsLate => exact h
  | loadingThread r messageId =>
    exact indexed_recoverItems _ _ _ _ _ (indexed_trackPeer h _ _ _)
  | listingCommits force =>
    cases response with
    | ok => exact indexed_nextRetry h _ _ _
    | throws => exact h.congr rfl rfl rfl rfl
    | throwsLate => exact h.congr rfl rfl rfl rfl
  | findingOriginal row sweep =>
    cases response with
    | ok =>
      unfold advance
      dsimp only
      split
      · exact h
      · exact h
    | throws => exact indexed_nextRetry h _ _ _
    | throwsLate => exact indexed_nextRetry h _ _ _
  | droppingCommit row sweep => cases response <;> exact indexed_nextRetry h _ _ _
  | rescheduling row sweep =>
    cases response with
    | ok => exact h
    | throws => exact indexed_nextRetry h _ _ _
    | throwsLate => exact indexed_nextRetry h _ _ _
  | redelivering row sweep => exact indexed_nextRetry h _ _ _
  | settling call next =>
    unfold advance
    cases response with
    | ok =>
      dsimp only
      split_ifs
      · exact h
      · exact h
    | throws => exact h
    | throwsLate =>
      dsimp only
      split_ifs
      · exact h
      · exact h
  | settled call write next => exact indexed_proceed h hown
  | _ => cases response <;> exact h

theorem indexed_deliver (h : w.memory.Indexed) (i : Nat) (parts : DeliveryParts) (p : Phase) :
    (deliver i parts p w).2.memory.Indexed := by
  cases p with
  | delivering call thread =>
    unfold deliver
    dsimp only
    split
    · exact h
    · exact indexed_routed h call _
  | _ => exact h

theorem memory_verify (accepted : Bool) (p : Phase) (w : Service c) :
    (verify accepted p w).2.memory = w.memory := by
  cases p with
  | verifying ack pending => cases accepted <;> cases pending <;> rfl
  | _ => rfl

/-- What settles an entry is the procedure that holds it. -/
def SettlesOwn (w : Service c) : Event → Prop
  | .advance i _ => ∀ p ∈ w.ops.get? i, p.SettlesOwn w.memory
  | _ => True

/-- **A step.** -/
theorem indexed_step (h : w.memory.Indexed) (e : Event) (hown : w.SettlesOwn e) :
    (w.step e).memory.Indexed := by
  have hresume : ∀ (i : Nat) (f : Phase → Service c → Phase × Service c),
      (∀ p, w.ops.get? i = some p → (f p w).2.memory.Indexed) → (w.resume i f).memory.Indexed := by
    intro i f hf
    unfold resume
    cases hget : w.ops.get? i with
    | none => exact h
    | some p => exact hf p hget
  cases e with
  | send call =>
    show (w.beginSend call).memory.Indexed
    unfold beginSend
    dsimp only
    split_ifs
    · exact h
    · exact h.forget _
    · exact h.forget _
  | deliveryAck threadId messageIds => exact h
  | commitAck ack =>
    show (w.beginCommitAck ack).memory.Indexed
    unfold beginCommitAck
    dsimp only
    split_ifs
    · exact h
    · exact h
  | outboundStatus deliverInboxId delivered =>
    show (w.beginFrame deliverInboxId delivered).memory.Indexed
    unfold beginFrame
    split
    · exact h
    · exact h.dropIfEmpty _
    · exact indexed_applyFrame h _ _
  | recover => exact h
  | sweep force =>
    show (if _ then _ else _ : Service c).memory.Indexed
    split_ifs
    · exact h
    · exact h.congr rfl rfl rfl rfl
  | stop =>
    refine ⟨fun _ _ hn => (nomatch hn), fun _ _ hn => (nomatch hn), fun _ _ _ hn => (nomatch hn),
      fun _ _ => ⟨fun hmem => (nomatch hmem), fun hmem => (nomatch hmem)⟩⟩
  | advance i response => exact hresume i _ fun p hget => indexed_advance h i response (hown p hget)
  | deliver i parts => exact hresume i _ fun p _ => indexed_deliver h i parts p
  | verify i accepted =>
    refine hresume i _ fun p _ => ?_
    rw [memory_verify]
    exact h
  | store op => exact h
  | storeStatus call => exact h
  | deleteThread threadId => exact h
  | tick clock dice => exact h
  | crash => exact indexed_empty

/-- **The law of a step**: a procedure that settles an older entry of a message leaves the entry that
the message has. -/
def KeepsOthers (w : Service c) (e : Event) : Prop :=
  ∀ i response call write f n todo n', e = .advance i response →
    w.ops.get? i = some (.settled call write (.frame f n todo)) →
    w.memory.queueTracking.get? call.messageId = some n' → n' ≠ n →
    (w.step e).memory.queueTracking.get? call.messageId = some n'

theorem keepsOthers_iff (w : Service c) (e : Event) : w.KeepsOthers e ↔ w.SettlesOwn e := by
  -- the entry of the message after the turn
  have hafter : ∀ i response call write f n todo,
      w.ops.get? i = some (.settled call write (.frame f n todo)) →
      (w.step (.advance i response)).memory.queueTracking.get? call.messageId =
        if (w.memory.trackings.get? n).map Tracking.outstandingInboxIds = some [] then none
        else w.memory.queueTracking.get? call.messageId := by
    intro i response call write f n todo hget
    have hstep : (w.step (.advance i response)).memory = closeTracking call.messageId n
        (dropQueued call.messageId (if call.status = .sent
          then w.memory.expectAck call.threadId call.messageId else w.memory)) := by
      show (w.resume i _).memory = _
      unfold resume
      rw [hget]
      rfl
    rw [hstep, get?_closeTracking]
    by_cases hsent : call.status = .sent
    · rw [if_pos hsent]
      rfl
    · rw [if_neg hsent]
      rfl
  constructor
  · intro h
    cases e with
    | advance i response =>
      intro p hget
      cases p with
      | settled call write next =>
        cases next with
        | frame f n todo =>
          intro hnone n' hn'
          by_contra hne
          have hkept := h i response call write f n todo n' rfl hget hn' hne
          rw [hafter i response call write f n todo hget, if_pos hnone] at hkept
          exact nomatch hkept
        | _ => exact trivial
      | _ => exact trivial
    | _ => exact trivial
  · rintro hown i response call write f n todo n' rfl hget hn' hne
    have hown : w.memory.SettlesOwn call.messageId n := hown _ hget
    rw [hafter i response call write f n todo hget, if_neg (fun hnone => hne (hown hnone n' hn'))]
    exact hn'

end Service

/-! ## Runs -/

/-- **The index.** In every run of sends, resends, frames, acks, recoveries, stops and restarts, with
every interleaving at the awaits: the two directions agree after every step, and no step that
settles an older entry of a message takes the entry that it has, exactly when what settles an entry
with nothing outstanding is always the procedure that holds the entry of the message. -/
theorem queue_index_iff (c : Collation) (ownerAccountId : String) (store : Store c)
    (events : List Event) :
    ((∀ n, ((fresh ownerAccountId store).after (events.take n)).memory.Mirrored) ∧
      Runs.Meets step Service.KeepsOthers (fresh ownerAccountId store) events) ↔
    Runs.Meets step Service.SettlesOwn (fresh ownerAccountId store) events := by
  constructor
  · rintro ⟨-, hkeeps⟩
    exact Runs.Meets.mono step (fun w e h => (w.keepsOthers_iff e).1 h) events hkeeps
  · intro hown
    refine ⟨fun n => ?_, Runs.Meets.mono step (fun w e h => (w.keepsOthers_iff e).2 h) events
      hown⟩
    refine Runs.throughout step (P := fun w => w.memory.Mirrored) (fun es hes => ?_) events
      hown n
    have hindexed := Runs.invariant step (I := fun w => w.memory.Indexed)
      (fun w e h hok => indexed_step h e hok) es _ indexed_empty hes
    exact hindexed.mirrored

/-! ### A message that is sent again while its frame is applied -/

/-- Alice's message is queued; while the frame that tells of its delivery awaits the write of the
status, the message is sent again, and queued again. -/
def queuedThenResent : List Event :=
  [.send hello, .advance 0 .ok, .advance 0 .ok, .advance 0 .ok, .deliver 0 queuedByNode,
    .advance 0 .ok, .advance 0 .ok, .outboundStatus "inbox" true, .advance 1 .ok,
    .send hello, .advance 2 .ok, .advance 2 .ok, .advance 2 .ok, .deliver 2 queuedByNode,
    .advance 1 .ok]

/-- **The frame takes the entry of the resend**, and no later frame moves the message. -/
theorem resend_loses_entry : ¬ ∀ ownerAccountId (store : Store Collation.byCodePoint)
    (events : List Event), ((fresh ownerAccountId store).after events).memory.Mirrored := by
  intro h
  let w := (fresh "alice" withBob).after queuedThenResent
  have hmirrored : w.memory.Mirrored := h "alice" withBob queuedThenResent
  have hqueued : "m" ∈ w.memory.queuedIn "inbox" := by decide
  have hentry : w.memory.outstanding "m" = [] := by decide
  have houtstanding := (hmirrored "m" "inbox").1 hqueued
  rw [hentry] at houtstanding
  exact nomatch houtstanding

end RezChat.Delivery
