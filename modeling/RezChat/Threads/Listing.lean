/-
Which threads the index lists (`storage/ChatThreadIndex.js`, `_saveRecord`, `removeThread`).

The operations on a thread hold its lock, so there is at most one under way for each thread. The
index is one list for all of them, and each operation reads it, changes its own row, and writes
it back. What another thread's operation wrote in between is written over: a thread that it
listed is not listed any more, and one that it removed is listed again (`lost_thread`).

If no other operation has listed a thread or taken one out since an operation read the index,
the write does what it is meant to. In every run of which that holds, the threads that are
listed are those that have a record (`run_listed`).
-/
import RezChat.Threads.Index
import RezChat.Lib.Tasks
import Mathlib.Data.List.Dedup

set_option autoImplicit false

namespace RezChat.Threads

open Inbox (trim)
open Messages (Collation ChatMessage)
open List OrdMap Option

/-! ## Steps -/

/-- What an operation does to the row of its thread. -/
inductive RowChange where
  | put (row : TipPointer)
  | remove

/-- The call of the store that an operation makes next. -/
inductive OpPhase (c : Collation) where
  | reading (op : IndexOp) (nowMs : Int)
  | listing (op : IndexOp) (nowMs : Int) (existing : ThreadIndexEntry)
  | writing (next : ThreadIndexEntry)
  | deleting
  | loading (change : RowChange)
  | saving (change : RowChange) (rows : IndexRows c)

/-- The records, the index, and the operations under way, by thread. -/
structure ThreadIndex (c : Collation) where
  owner : String
  records : OrdMap String ThreadIndexEntry
  index : IndexRows c
  running : OrdMap String (OpPhase c)

variable {c : Collation}

/-- The threads of a list. -/
def listedIn (rows : IndexRows c) : List String := rows.rows.map TipPointer.threadId

/-- `_saveRecord` and `removeThread`, on the list they read. -/
def RowChange.apply (threadId : String) (rows : IndexRows c) : RowChange → IndexRows c
  | .put row => rows.put row
  | .remove => rows.remove threadId

namespace ThreadIndex

def fresh (owner : String) : ThreadIndex c := ⟨owner, empty, Ranking.empty, empty⟩

/-- The operation goes on. -/
def goOn (threadId : String) (p : OpPhase c) (s : ThreadIndex c) : ThreadIndex c :=
  { s with running := s.running.set threadId p }

/-- The operation is over: it has returned, or thrown. -/
def done (threadId : String) (s : ThreadIndex c) : ThreadIndex c :=
  { s with running := s.running.delete threadId }

/-- An operation begins, if it has the ids it needs and the lock of its thread is free. -/
def start (threadId : String) (op : IndexOp) (nowMs : Int) (s : ThreadIndex c) : ThreadIndex c :=
  if op.Callable threadId ∧ s.running.has (trim threadId) = false then
    s.goOn (trim threadId) (if op = .removeThread then .deleting else .reading op nowMs)
  else s

/-- What comes of a record that was worked out, if there is one to write. -/
def write (threadId : String) (next : Option ThreadIndexEntry) (s : ThreadIndex c) :
    ThreadIndex c :=
  match next with
  | some next => s.goOn threadId (.writing next)
  | none => s.done threadId

def saveRecord (next : ThreadIndexEntry) (s : ThreadIndex c) : ThreadIndex c :=
  { s with records := s.records.set next.threadId next }

def deleteRecord (threadId : String) (s : ThreadIndex c) : ThreadIndex c :=
  { s with records := s.records.delete threadId }

def saveIndex (rows : IndexRows c) (s : ThreadIndex c) : ThreadIndex c := { s with index := rows }

/-- The next call of the operation on a thread. -/
def advance (threadId : String) (page : List ChatMessage) (response : Response)
    (s : ThreadIndex c) : ThreadIndex c :=
  match s.running.get? threadId with
  | none => s
  | some (.reading op nowMs) =>
    match response with
    | .ok =>
      let existing := (s.records.get? threadId).getD (emptyEntry threadId nowMs)
      match op with
      | .upsertActivity _ _ => s.write threadId (op.next c s.owner nowMs existing [])
      | _ => s.goOn threadId (.listing op nowMs existing)
    | .throws | .throwsLate => s.done threadId
  | some (.listing op nowMs existing) =>
    match response with
    | .ok => s.write threadId (op.next c s.owner nowMs existing page)
    | .throws | .throwsLate => s.done threadId
  | some (.writing next) =>
    match response with
    | .ok => (s.saveRecord next).goOn threadId (.loading (.put next.tip))
    | .throws => s.done threadId
    | .throwsLate => (s.saveRecord next).done threadId
  | some .deleting =>
    match response with
    | .ok => (s.deleteRecord threadId).goOn threadId (.loading .remove)
    | .throws => s.done threadId
    | .throwsLate => (s.deleteRecord threadId).done threadId
  | some (.loading change) =>
    match response with
    | .ok => s.goOn threadId (.saving change s.index)
    | .throws | .throwsLate => s.done threadId
  | some (.saving change rows) =>
    match response with
    | .ok | .throwsLate => (s.saveIndex (change.apply threadId rows)).done threadId
    | .throws => s.done threadId

end ThreadIndex

/-- What happens to the index. The page is what the store of the messages answers, if it is asked. -/
inductive IndexEvent where
  | start (threadId : String) (op : IndexOp) (nowMs : Int)
  | advance (threadId : String) (page : List ChatMessage) (response : Response)
  | crash

def ThreadIndex.step (s : ThreadIndex c) : IndexEvent → ThreadIndex c
  | .start threadId op nowMs => s.start threadId op nowMs
  | .advance threadId page response => s.advance threadId page response
  | .crash => { s with running := empty }

/-- The index after some events. -/
def ThreadIndex.after (s : ThreadIndex c) (events : List IndexEvent) : ThreadIndex c :=
  Runs.run ThreadIndex.step s events

/-! ## The law -/

/-- The record is written or deleted, and the index is not yet. -/
def OpPhase.Between : OpPhase c → Prop
  | .loading _ | .saving _ _ => True
  | .reading _ _ | .listing _ _ _ | .writing _ | .deleting => False

instance (p : OpPhase c) : Decidable p.Between := by
  unfold OpPhase.Between
  split <;> infer_instance

/-- No operation on the thread is between its two writes. -/
def ThreadIndex.Settled (s : ThreadIndex c) (threadId : String) : Prop :=
  ∀ p, s.running.get? threadId = some p → ¬ p.Between

/-- The index lists the threads that have a record, and no others. -/
def ThreadIndex.Listed (s : ThreadIndex c) : Prop :=
  ∀ threadId, s.Settled threadId → (s.records.has threadId = true ↔ threadId ∈ listedIn s.index)

/-! ## The condition -/

/-- The threads that exist. -/
def ThreadIndex.threads (s : ThreadIndex c) : List String :=
  (s.records.keys ++ listedIn s.index).dedup

/-- Nobody else has listed a thread, or taken one out. -/
def SameListing (threadId : String) (read now : IndexRows c) : Prop :=
  ∀ other ∈ listedIn read ++ listedIn now, other ≠ threadId →
    (other ∈ listedIn read ↔ other ∈ listedIn now)

instance (threadId : String) (read now : IndexRows c) :
    Decidable (SameListing threadId read now) := by
  unfold SameListing
  infer_instance

/-- An operation writes the index as it is but for its own thread. Once it has written its record
it is carried through. -/
def Undisturbed (s : ThreadIndex c) : IndexEvent → Prop
  | .start _ _ _ => True
  | .advance threadId _ response =>
    match s.running.get? threadId with
    | some (.writing _) | some .deleting => response ≠ .throwsLate
    | some (.loading _) => response = .ok
    | some (.saving _ rows) => response ≠ .throws ∧ SameListing threadId rows s.index
    | some (.reading _ _) | some (.listing _ _ _) | none => True
  | .crash => ∀ p ∈ s.running.values, ¬ p.Between

instance (s : ThreadIndex c) (e : IndexEvent) : Decidable (Undisturbed s e) := by
  unfold Undisturbed
  split
  · infer_instance
  · split <;> infer_instance
  · infer_instance

/-- At most five hundred threads exist. -/
def ThreadIndex.Fits (s : ThreadIndex c) : Prop := s.threads.length ≤ maxIndexSize

instance (s : ThreadIndex c) : Decidable s.Fits := inferInstanceAs (Decidable (_ ≤ _))

/-! ## The invariant -/

/-- What an operation knows of its thread. -/
def OpPhase.Knows (s : ThreadIndex c) (threadId : String) : OpPhase c → Prop
  | .reading _ _ | .deleting => True
  | .listing _ _ existing => existing.threadId = threadId
  | .writing next => next.threadId = threadId
  | .loading (.put row) | .saving (.put row) _ =>
    row.threadId = threadId ∧ s.records.has threadId = true
  | .loading .remove | .saving .remove _ => s.records.has threadId = false

structure Sound (s : ThreadIndex c) : Prop where
  listed : s.Listed
  named : ∀ threadId e, s.records.get? threadId = some e → e.threadId = threadId
  knows : ∀ threadId p, s.running.get? threadId = some p → p.Knows s threadId

section Invariant

variable {s v : ThreadIndex c} {threadId : String} {p : OpPhase c}

/-- An operation goes on, and nothing is written. -/
theorem Sound.goOn (h : Sound s) (hp : p.Knows s threadId)
    (hlisted : s.Settled threadId ∨ p.Between) : Sound (s.goOn threadId p) := by
  refine ⟨fun id hid => ?_, h.named, fun id q hq => ?_⟩
  · refine h.listed id ?_
    by_cases hsame : id = threadId
    · rcases hlisted with hsettled | hbetween
      · rw [hsame]
        exact hsettled
      · refine absurd hbetween (hid p ?_)
        rw [hsame]
        exact get?_set_self _ _ _
    · intro q hq
      exact hid q ((get?_set_of_ne _ _ hsame).trans hq)
  · have hget : (s.running.set threadId p).get? id = some q := hq
    rw [get?_set] at hget
    by_cases hsame : id = threadId
    · rw [if_pos hsame, some_inj] at hget
      rw [hsame, ← hget]
      exact hp
    · rw [if_neg hsame] at hget
      exact h.knows id q hget

/-- An operation is over, and its thread is as it should be. -/
theorem Sound.done (h : Sound s)
    (hlisted : s.records.has threadId = true ↔ threadId ∈ listedIn s.index) :
    Sound (s.done threadId) := by
  refine ⟨fun id hid => ?_, h.named, fun id q hq => ?_⟩
  · by_cases hsame : id = threadId
    · rw [hsame]
      exact hlisted
    · refine h.listed id fun q hq => hid q ?_
      exact (get?_delete_of_ne _ hsame).trans hq
  · have hget : (s.running.delete threadId).get? id = some q := hq
    rw [get?_delete] at hget
    by_cases hsame : id = threadId
    · rw [if_pos hsame] at hget
      exact absurd hget (by simp)
    · rw [if_neg hsame] at hget
      exact h.knows id q hget

/-- What the other operations know is about their threads. -/
theorem knows_of_records {id : String} {q : OpPhase c}
    (hrecords : v.records.has id = s.records.has id) (h : q.Knows s id) : q.Knows v id := by
  unfold OpPhase.Knows at h ⊢
  split at h
  · trivial
  · trivial
  · exact h
  · exact h
  · rw [hrecords]
    exact h
  · rw [hrecords]
    exact h
  · rw [hrecords]
    exact h
  · rw [hrecords]
    exact h

/-- A record is written, and the index is next. -/
theorem Sound.saveRecord (h : Sound s) {next : ThreadIndexEntry} (hnext : next.threadId = threadId) :
    Sound ((s.saveRecord next).goOn threadId (.loading (.put next.tip))) := by
  have hset : ∀ id, (s.records.set next.threadId next).has id =
      (decide (id = threadId) || s.records.has id) := by
    intro id
    rw [has_set, hnext]
  refine ⟨fun id hid => ?_, fun id e he => ?_, fun id q hq => ?_⟩
  · by_cases hsame : id = threadId
    · refine absurd trivial (hid (.loading (.put next.tip)) ?_)
      rw [hsame]
      exact get?_set_self _ _ _
    · have hold := h.listed id fun q hq => hid q ((get?_set_of_ne _ _ hsame).trans hq)
      show (s.records.set next.threadId next).has id = true ↔ _
      rw [hset, decide_eq_false hsame, Bool.false_or]
      exact hold
  · have hget : (s.records.set next.threadId next).get? id = some e := he
    rw [get?_set] at hget
    by_cases hsame : id = next.threadId
    · rw [if_pos hsame, some_inj] at hget
      rw [← hget, hsame]
    · rw [if_neg hsame] at hget
      exact h.named id e hget
  · have hget : (s.running.set threadId (.loading (.put next.tip))).get? id = some q := hq
    rw [get?_set] at hget
    by_cases hsame : id = threadId
    · rw [if_pos hsame, some_inj] at hget
      rw [hsame, ← hget]
      refine ⟨hnext, ?_⟩
      show (s.records.set next.threadId next).has threadId = true
      rw [hset, decide_eq_true rfl, Bool.true_or]
    · rw [if_neg hsame] at hget
      refine knows_of_records (s := s) ?_ (h.knows id q hget)
      show (s.records.set next.threadId next).has id = _
      rw [hset, decide_eq_false hsame, Bool.false_or]

/-- A record is deleted, and the index is next. -/
theorem Sound.deleteRecord (h : Sound s) :
    Sound ((s.deleteRecord threadId).goOn threadId (.loading .remove)) := by
  have hdelete : ∀ id, (s.records.delete threadId).has id =
      (!decide (id = threadId) && s.records.has id) := fun id => has_delete _ _ _
  refine ⟨fun id hid => ?_, fun id e he => ?_, fun id q hq => ?_⟩
  · by_cases hsame : id = threadId
    · refine absurd trivial (hid (.loading .remove) ?_)
      rw [hsame]
      exact get?_set_self _ _ _
    · have hold := h.listed id fun q hq => hid q ((get?_set_of_ne _ _ hsame).trans hq)
      show (s.records.delete threadId).has id = true ↔ _
      rw [hdelete, decide_eq_false hsame, Bool.not_false, Bool.true_and]
      exact hold
  · have hget : (s.records.delete threadId).get? id = some e := he
    rw [get?_delete] at hget
    by_cases hsame : id = threadId
    · rw [if_pos hsame] at hget
      exact absurd hget (by simp)
    · rw [if_neg hsame] at hget
      exact h.named id e hget
  · have hget : (s.running.set threadId (.loading .remove)).get? id = some q := hq
    rw [get?_set] at hget
    by_cases hsame : id = threadId
    · rw [if_pos hsame, some_inj] at hget
      rw [hsame, ← hget]
      show (s.records.delete threadId).has threadId = false
      rw [hdelete, decide_eq_true rfl, Bool.not_true, Bool.false_and]
    · rw [if_neg hsame] at hget
      refine knows_of_records (s := s) ?_ (h.knows id q hget)
      show (s.records.delete threadId).has id = _
      rw [hdelete, decide_eq_false hsame, Bool.not_false, Bool.true_and]

/-- With at most five hundred threads there is room in the list for one that has a record. -/
theorem room_of_fits {rows : IndexRows c} {row : TipPointer} (hfits : s.Fits)
    (hrecord : s.records.has row.threadId = true)
    (hrows : SameListing row.threadId rows s.index) :
    row.threadId ∈ rows.rows.map TipPointer.threadId ∨ rows.rows.length < maxIndexSize := by
  by_cases hin : row.threadId ∈ rows.rows.map TipPointer.threadId
  · exact .inl hin
  · refine .inr (Nat.lt_of_lt_of_le ?_ hfits)
    -- the thread and those of the list are threads that exist
    have hnodup : (row.threadId :: listedIn rows).Nodup := nodup_cons.2 ⟨hin, rows.nodup⟩
    have hsub : row.threadId :: listedIn rows ⊆ s.threads := by
      intro id hid
      rw [ThreadIndex.threads, mem_dedup, mem_append]
      rcases mem_cons.1 hid with hid | hid
      · obtain ⟨e, he⟩ := has_iff.1 hrecord
        rw [hid]
        exact .inl (mem_map.2 ⟨(row.threadId, e), mem_entries_iff.2 he, rfl⟩)
      · have hne : id ≠ row.threadId := fun hsame => hin (hsame ▸ hid)
        exact .inr ((hrows id (mem_append_left _ hid) hne).1 hid)
    have hlength := (hnodup.subperm hsub).length_le
    rw [length_cons, listedIn, length_map] at hlength
    exact hlength

/-- The index is written. The threads of the list are those of the index, but for its own. -/
theorem listedIn_apply {change : RowChange} {rows : IndexRows c} (hfits : s.Fits)
    (hknows : (OpPhase.saving change rows).Knows s threadId)
    (hrows : SameListing threadId rows s.index) :
    (s.records.has threadId = true ↔ threadId ∈ listedIn (change.apply threadId rows)) ∧
      ∀ id, id ≠ threadId → (id ∈ listedIn (change.apply threadId rows) ↔ id ∈ listedIn s.index) := by
  have hsame : ∀ id, id ≠ threadId → (id ∈ listedIn rows ↔ id ∈ listedIn s.index) := by
    intro id hid
    by_cases hmem : id ∈ listedIn rows ++ listedIn s.index
    · exact hrows id hmem hid
    · rw [mem_append, not_or] at hmem
      exact iff_of_false hmem.1 hmem.2
  cases change with
  | put row =>
    obtain ⟨rfl, hrecord⟩ := hknows
    have hput : ∀ b, b ∈ (rows.put row).rows ↔ b = row ∨ (b ∈ rows.rows ∧ b.threadId ≠ row.threadId) :=
      fun b => Ranking.mem_put_of_room (room_of_fits hfits hrecord hrows)
    refine ⟨iff_of_true hrecord (mem_map.2 ⟨row, (hput row).2 (.inl rfl), rfl⟩),
      fun id hid => ?_⟩
    rw [← hsame id hid]
    constructor
    · intro hmem
      obtain ⟨b, hb, rfl⟩ := mem_map.1 hmem
      rcases (hput b).1 hb with rfl | ⟨hb, -⟩
      · exact absurd rfl hid
      · exact mem_map.2 ⟨b, hb, rfl⟩
    · intro hmem
      obtain ⟨b, hb, rfl⟩ := mem_map.1 hmem
      exact mem_map.2 ⟨b, (hput b).2 (.inr ⟨hb, hid⟩), rfl⟩
  | remove =>
    have hrecord : s.records.has threadId = false := hknows
    have hremove : ∀ id, id ∈ listedIn (rows.remove threadId) ↔ id ∈ listedIn rows ∧ id ≠ threadId := by
      intro id
      constructor
      · intro hmem
        obtain ⟨b, hb, rfl⟩ := mem_map.1 hmem
        obtain ⟨hb, hne⟩ := mem_filter.1 hb
        exact ⟨mem_map.2 ⟨b, hb, rfl⟩, of_decide_eq_true hne⟩
      · rintro ⟨hmem, hne⟩
        obtain ⟨b, hb, rfl⟩ := mem_map.1 hmem
        exact mem_map.2 ⟨b, mem_filter.2 ⟨hb, decide_eq_true hne⟩, rfl⟩
    refine ⟨?_, fun id hid => ?_⟩
    · rw [hrecord]
      exact iff_of_false (by simp) fun hmem => ((hremove threadId).1 hmem).2 rfl
    · rw [← hsame id hid]
      exact (hremove id).trans (and_iff_left hid)

/-- An operation writes the index, and is over. -/
theorem Sound.saveIndex (h : Sound s) {rows : IndexRows c}
    (hown : s.records.has threadId = true ↔ threadId ∈ listedIn rows)
    (hothers : ∀ id, id ≠ threadId → (id ∈ listedIn rows ↔ id ∈ listedIn s.index)) :
    Sound ((s.saveIndex rows).done threadId) := by
  refine ⟨fun id hid => ?_, h.named, fun id q hq => ?_⟩
  · by_cases hsame : id = threadId
    · rw [hsame]
      exact hown
    · have hold := h.listed id fun q hq => hid q ((get?_delete_of_ne _ hsame).trans hq)
      exact hold.trans (hothers id hsame).symm
  · have hget : (s.running.delete threadId).get? id = some q := hq
    rw [get?_delete] at hget
    by_cases hsame : id = threadId
    · rw [if_pos hsame] at hget
      exact absurd hget (by simp)
    · rw [if_neg hsame] at hget
      exact knows_of_records rfl (h.knows id q hget)

/-- **A call of an operation** that nobody disturbed. -/
theorem Sound.advance (h : Sound s) (hfits : s.Fits) {page : List ChatMessage} {response : Response}
    (hok : Undisturbed s (.advance threadId page response)) :
    Sound (s.advance threadId page response) := by
  unfold ThreadIndex.advance
  unfold Undisturbed at hok
  cases hp : s.running.get? threadId with
  | none => exact h
  | some p =>
    have hknows := h.knows threadId p hp
    dsimp only at hok
    rw [hp] at hok
    -- the thread is as it should be unless the operation is between its writes
    have hsettled : ¬ p.Between → s.Settled threadId := by
      intro hbetween q hq
      rw [hp, some_inj] at hq
      rw [← hq]
      exact hbetween
    have hdone : ¬ p.Between → Sound (s.done threadId) :=
      fun hbetween => h.done (h.listed threadId (hsettled hbetween))
    -- a record that was worked out is written
    have hwrite : ∀ next : Option ThreadIndexEntry, ¬ p.Between →
        (∀ e, next = some e → e.threadId = threadId) → Sound (s.write threadId next) := by
      intro next hbetween hnext
      cases next with
      | none => exact hdone hbetween
      | some next => exact h.goOn (hnext next rfl) (.inl (hsettled hbetween))
    cases p with
    | reading op nowMs =>
      have hexisting : ((s.records.get? threadId).getD (emptyEntry threadId nowMs)).threadId =
          threadId := by
        cases hget : s.records.get? threadId with
        | none => rfl
        | some e => exact h.named threadId e hget
      cases response with
      | throws => exact hdone id
      | throwsLate => exact hdone id
      | ok =>
        dsimp only
        split
        · exact hwrite _ id fun e he => (IndexOp.next_threadId c s.owner he).trans hexisting
        · exact h.goOn hexisting (.inl (hsettled id))
    | listing op nowMs existing =>
      cases response with
      | throws => exact hdone id
      | throwsLate => exact hdone id
      | ok => exact hwrite _ id fun e he => (IndexOp.next_threadId c s.owner he).trans hknows
    | writing next =>
      cases response with
      | ok => exact h.saveRecord hknows
      | throws => exact hdone id
      | throwsLate => exact absurd rfl hok
    | deleting =>
      cases response with
      | ok => exact h.deleteRecord
      | throws => exact hdone id
      | throwsLate => exact absurd rfl hok
    | loading change =>
      cases response with
      | ok =>
        refine h.goOn ?_ (.inr trivial)
        cases change with
        | put row => exact hknows
        | remove => exact hknows
      | throws => exact absurd hok (by simp)
      | throwsLate => exact absurd hok (by simp)
    | saving change rows =>
      obtain ⟨hown, hothers⟩ := listedIn_apply hfits hknows hok.2
      cases response with
      | ok => exact h.saveIndex hown hothers
      | throwsLate => exact h.saveIndex hown hothers
      | throws => exact absurd rfl hok.1

/-- **One step** that nobody disturbed. -/
theorem Sound.step (h : Sound s) {e : IndexEvent} (hok : Undisturbed s e ∧ s.Fits) :
    Sound (s.step e) := by
  cases e with
  | start threadId op nowMs =>
    show Sound (s.start threadId op nowMs)
    unfold ThreadIndex.start
    by_cases hfree : op.Callable threadId ∧ s.running.has (trim threadId) = false
    · rw [if_pos hfree]
      have hsettled : s.Settled (trim threadId) := by
        intro q hq
        rw [has_of_get? hq] at hfree
        exact absurd hfree.2 (by simp)
      refine h.goOn ?_ (.inl hsettled)
      by_cases hremove : op = .removeThread
      · rw [if_pos hremove]
        trivial
      · rw [if_neg hremove]
        trivial
    · rw [if_neg hfree]
      exact h
  | advance threadId page response => exact h.advance hok.2 hok.1
  | crash =>
    refine ⟨fun id _ => ?_, h.named, fun id p hp => absurd hp (by simp [ThreadIndex.step])⟩
    refine h.listed id fun p hp => ?_
    exact hok.1 p (mem_values_iff.2 ⟨id, hp⟩)

theorem sound_fresh (owner : String) : Sound (ThreadIndex.fresh (c := c) owner) := by
  refine ⟨fun id _ => ?_, fun id e he => absurd he (by simp [ThreadIndex.fresh]),
    fun id p hp => absurd hp (by simp [ThreadIndex.fresh])⟩
  exact iff_of_false (by simp [ThreadIndex.fresh]) not_mem_nil

end Invariant

/-- In every run, with at most five hundred threads, in which no operation writes the index over
a thread that another one has listed or taken out, and in which each is carried through once it
has written its record, the threads that are listed are those that have a record. -/
theorem run_listed (c : Collation) (owner : String) (events : List IndexEvent)
    (hok : Runs.Meets ThreadIndex.step (fun s e => Undisturbed s e ∧ s.Fits)
      (ThreadIndex.fresh (c := c) owner) events) :
    ((ThreadIndex.fresh (c := c) owner).after events).Listed := by
  have hsound : Sound ((ThreadIndex.fresh (c := c) owner).after events) :=
    Runs.invariant (I := Sound) ThreadIndex.step (fun _ _ h hok => h.step hok) events _
      (sound_fresh owner) hok
  exact hsound.listed

/-! ### Two threads -/

/-- A new thread with an activity. -/
def newThread (threadId : String) : IndexEvent :=
  .start threadId (.upsertActivity 5 (some "hello")) 5

def goesOn (threadId : String) : IndexEvent := .advance threadId [] .ok

/-- Two new threads, of which the second reads the index when the first has written it. -/
theorem run_listed_inTurn :
    ((ThreadIndex.fresh (c := Collation.byCodePoint) "owner").after
      [newThread "a", newThread "b", goesOn "a", goesOn "b", goesOn "a", goesOn "b", goesOn "a",
        goesOn "a", goesOn "b", goesOn "b"]).Listed :=
  run_listed Collation.byCodePoint "owner" _ (by decide)

/-- Two new threads whose operations read the index before either has written it: the first is
not listed, although it has a record. -/
theorem lost_thread : ¬ ∀ owner events,
    ((ThreadIndex.fresh (c := Collation.byCodePoint) owner).after events).Listed := by
  intro h
  have hrun := h "owner" [newThread "a", newThread "b", goesOn "a", goesOn "b", goesOn "a",
    goesOn "b", goesOn "a", goesOn "b", goesOn "a", goesOn "b"]
  refine absurd ((hrun "a" fun p hp => ?_).1 (by decide)) (by decide)
  rw [show OrdMap.get? _ "a" = none by decide] at hp
  exact absurd hp (by simp)

end RezChat.Threads
