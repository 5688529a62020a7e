/-
What becomes of a message that was queued to several inboxes (`services/ServerMessagesService.js`,
`#handleOutboundStatus`, `#applyOutboundStatusToMessage`).

The node reports each inbox in a frame of its own, `delivered` or `expired`. What the frames come to
is said first of a ledger that has nothing but the inboxes that are outstanding and whether one was
delivered: there the first report of an inbox decides, and the order of the inboxes does not matter
(`status_hearAll`). The service keeps that ledger (`shows_handled`): a frame visits every message
that is queued to its inbox, and awaits two operations for one whose status it settles, so the
invariant says for each of these moments where the ledger stands.
-/
import Mathlib.Data.List.Induction
import RezChat.Delivery.QueueIndex

set_option autoImplicit false

namespace RezChat.Delivery

open Inbox (trim)
open Messages (Collation MessageStatus StatusCall StatusWrite Store canTransitionStatus)
open List Option OrdMap Memory Service Runs

/-! ## The ledger -/

/-- What is known of a message that was queued: the inboxes that are outstanding, and whether one
was delivered; or how it ended. -/
inductive Ledger where
  | waits (outstanding : List String) (anyDelivered : Bool)
  | ended (anyDelivered : Bool)

/-- An inbox, and whether it was delivered or expired. -/
structure Report where
  inboxId : String
  delivered : Bool

namespace Ledger

def status : Ledger → MessageStatus
  | waits _ anyDelivered => if anyDelivered = true then .sent else .queued
  | ended anyDelivered => if anyDelivered = true then .sent else .failed

/-- An inbox that is outstanding is reported. -/
def settle (outstanding : List String) (anyDelivered : Bool) : Ledger :=
  if outstanding = [] then ended anyDelivered else waits outstanding anyDelivered

def hear (r : Report) : Ledger → Ledger
  | waits outstanding anyDelivered =>
    if r.inboxId ∈ outstanding then
      settle (outstanding.filter fun id => decide (id ≠ r.inboxId)) (anyDelivered || r.delivered)
    else waits outstanding anyDelivered
  | ended anyDelivered => ended anyDelivered

def hearAll (reports : List Report) (l : Ledger) : Ledger := run (fun l r => hear r l) l reports

theorem status_settle (outstanding : List String) (any : Bool) :
    (settle outstanding any).status =
      if any = true then .sent else if outstanding = [] then .failed else .queued := by
  unfold settle
  split
  · rw [status]
  · rw [status]

end Ledger

/-- The first report of an inbox. -/
def firstReport (inboxId : String) (reports : List Report) : Option Bool :=
  (reports.find? fun r => decide (r.inboxId = inboxId)).map Report.delivered

theorem firstReport_append (inboxId : String) (reports : List Report) (r : Report) :
    firstReport inboxId (reports ++ [r]) =
      (firstReport inboxId reports).or
        (if r.inboxId = inboxId then some r.delivered else none) := by
  unfold firstReport
  rw [find?_append, map_or]
  congr 1
  by_cases hid : r.inboxId = inboxId
  · simp [hid]
  · simp [hid]

/-- What the reports so far say of the ledger of a message that was queued to `inboxIds`. -/
structure Ledger.Heard (inboxIds : List String) (reports : List Report) (l : Ledger) : Prop where
  waits : ∀ outstanding any, l = .waits outstanding any → outstanding ≠ [] ∧
    (∀ id, id ∈ outstanding ↔ id ∈ inboxIds ∧ firstReport id reports = none) ∧
    (any = true ↔ ∃ id ∈ inboxIds, firstReport id reports = some true)
  ended : ∀ any, l = .ended any → (∀ id ∈ inboxIds, firstReport id reports ≠ none) ∧
    (any = true ↔ ∃ id ∈ inboxIds, firstReport id reports = some true)

variable {reports : List Report}

/-- A report that is not the first of an inbox of the message changes nothing. -/
theorem firstReport_append_of {id : String} {r : Report}
    (h : r.inboxId = id → firstReport id reports ≠ none) :
    firstReport id (reports ++ [r]) = firstReport id reports := by
  rw [firstReport_append]
  by_cases hid : r.inboxId = id
  · obtain ⟨b, hb⟩ := ne_none_iff_exists'.1 (h hid)
    rw [hb]
    rfl
  · rw [if_neg hid, or_none]

/-- The last report is the first of its inbox. -/
theorem firstReport_append_new {id : String} {r : Report}
    (hid : r.inboxId = id) (h : firstReport id reports = none) :
    firstReport id (reports ++ [r]) = some r.delivered := by
  rw [firstReport_append, h, if_pos hid]
  rfl

variable {inboxIds : List String}

/-- Where no inbox of the message is reported for the first time, the reports say what they said. -/
theorem Ledger.Heard.again {r : Report} {l : Ledger}
    (h : l.Heard inboxIds reports)
    (hold : ∀ id ∈ inboxIds, r.inboxId = id → firstReport id reports ≠ none) :
    l.Heard inboxIds (reports ++ [r]) := by
  have hsame : ∀ id ∈ inboxIds, firstReport id (reports ++ [r]) = firstReport id reports :=
    fun id hid => firstReport_append_of (hold id hid)
  have hany : (∃ id ∈ inboxIds, firstReport id (reports ++ [r]) = some true) ↔
      ∃ id ∈ inboxIds, firstReport id reports = some true := by
    constructor
    · rintro ⟨id, hid, hfirst⟩
      exact ⟨id, hid, (hsame id hid).symm.trans hfirst⟩
    · rintro ⟨id, hid, hfirst⟩
      exact ⟨id, hid, (hsame id hid).trans hfirst⟩
  refine ⟨fun outstanding any hl => ?_, fun any hl => ?_⟩
  · obtain ⟨hne, hmem, hbool⟩ := h.waits outstanding any hl
    refine ⟨hne, fun id => ?_, hbool.trans hany.symm⟩
    rw [hmem id]
    exact and_congr_right fun hid => by rw [hsame id hid]
  · obtain ⟨hall, hbool⟩ := h.ended any hl
    refine ⟨fun id hid => ?_, hbool.trans hany.symm⟩
    rw [hsame id hid]
    exact hall id hid

/-- **One report.** -/
theorem Ledger.Heard.hear {l : Ledger}
    (h : l.Heard inboxIds reports) (r : Report) : (l.hear r).Heard inboxIds (reports ++ [r]) := by
  cases l with
  | ended any =>
    refine h.again fun id hid _ => ?_
    exact (h.ended any rfl).1 id hid
  | waits outstanding any =>
    obtain ⟨-, hmem, hbool⟩ := h.waits outstanding any rfl
    rw [Ledger.hear]
    by_cases hwaits : r.inboxId ∈ outstanding
    · rw [if_pos hwaits]
      obtain ⟨hid, hnew⟩ := (hmem r.inboxId).1 hwaits
      have hfirst := firstReport_append_new (r := r) rfl hnew
      have hrest : ∀ id, id ∈ outstanding.filter (fun id => decide (id ≠ r.inboxId)) ↔
          id ∈ inboxIds ∧ firstReport id (reports ++ [r]) = none := by
        intro id
        rw [mem_filter, decide_eq_true_iff, hmem id]
        by_cases hsame : r.inboxId = id
        · subst hsame
          rw [hfirst]
          simp
        · rw [firstReport_append_of fun heq => absurd heq hsame]
          exact ⟨And.left, fun hand => ⟨hand, Ne.symm hsame⟩⟩
      have hany : (any || r.delivered) = true ↔
          ∃ id ∈ inboxIds, firstReport id (reports ++ [r]) = some true := by
        rw [Bool.or_eq_true, hbool]
        constructor
        · rintro (⟨id, hin, hsome⟩ | hdelivered)
          · refine ⟨id, hin, ?_⟩
            rw [firstReport_append_of fun _ => by rw [hsome]; exact some_ne_none _]
            exact hsome
          · exact ⟨r.inboxId, hid, by rw [hfirst, hdelivered]⟩
        · rintro ⟨id, hin, hsome⟩
          by_cases hsame : r.inboxId = id
          · subst hsame
            rw [hfirst, some_inj] at hsome
            exact .inr hsome
          · rw [firstReport_append_of fun heq => absurd heq hsame] at hsome
            exact .inl ⟨id, hin, hsome⟩
      unfold Ledger.settle
      split
      · rename_i hempty
        refine ⟨?_, ?_⟩
        · intro outstanding' any' hl
          cases hl
        · intro any' hl
          cases hl
          refine ⟨fun id hin hnone => ?_, hany⟩
          have hleft := (hrest id).2 ⟨hin, hnone⟩
          rw [hempty] at hleft
          cases hleft
      · rename_i hmore
        refine ⟨?_, ?_⟩
        · intro outstanding' any' hl
          cases hl
          exact ⟨hmore, hrest, hany⟩
        · intro any' hl
          cases hl
    · rw [if_neg hwaits]
      refine h.again fun id hid heq hnone => hwaits ?_
      rw [heq]
      exact (hmem id).2 ⟨hid, hnone⟩

theorem Ledger.heard_start (h : inboxIds ≠ []) :
    (Ledger.waits inboxIds false).Heard inboxIds [] := by
  refine ⟨?_, ?_⟩
  · intro outstanding any hl
    cases hl
    refine ⟨h, fun id => ⟨fun hid => ⟨hid, rfl⟩, And.left⟩, ?_⟩
    simp [firstReport]
  · intro any hl
    cases hl

/-- The induction is on the reports, the last one first. -/
theorem Ledger.heard_hearAll (h : inboxIds ≠ []) (reports : List Report) :
    (Ledger.hearAll reports (.waits inboxIds false)).Heard inboxIds reports := by
  induction reports using reverseRecOn with
  | nil => exact Ledger.heard_start h
  | append_singleton reports r ih =>
    have hstep := ih.hear r
    unfold Ledger.hearAll at hstep ⊢
    rw [run_append]
    exact hstep

/-- What the reports so far come to. -/
def verdict (inboxIds : List String) (reports : List Report) : MessageStatus :=
  if ∃ id ∈ inboxIds, firstReport id reports = some true then .sent
  else if ∀ id ∈ inboxIds, firstReport id reports = some false then .failed
  else .queued

/-- **The order does not matter**: the status is the verdict of the first reports. -/
theorem Ledger.status_hearAll (h : inboxIds ≠ []) (reports : List Report) :
    (Ledger.hearAll reports (.waits inboxIds false)).status = verdict inboxIds reports := by
  have hheard := Ledger.heard_hearAll h reports
  generalize Ledger.hearAll reports (.waits inboxIds false) = l at hheard ⊢
  unfold verdict
  cases l with
  | waits outstanding any =>
    obtain ⟨hne, hmem, hany⟩ := hheard.waits outstanding any rfl
    rw [Ledger.status]
    by_cases hdelivered : any = true
    · rw [if_pos hdelivered, if_pos (hany.1 hdelivered)]
    · rw [if_neg hdelivered, if_neg fun hex => hdelivered (hany.2 hex), if_neg]
      -- an inbox that is outstanding was not reported
      intro hall
      obtain ⟨id, hid⟩ := exists_mem_of_ne_nil outstanding hne
      obtain ⟨hin, hnone⟩ := (hmem id).1 hid
      rw [hall id hin] at hnone
      cases hnone
  | ended any =>
    obtain ⟨hall, hany⟩ := hheard.ended any rfl
    rw [Ledger.status]
    by_cases hdelivered : any = true
    · rw [if_pos hdelivered, if_pos (hany.1 hdelivered)]
    · have hnone : ¬∃ id ∈ inboxIds, firstReport id reports = some true :=
        fun hex => hdelivered (hany.2 hex)
      rw [if_neg hdelivered, if_neg hnone, if_pos]
      intro id hid
      cases hfirst : firstReport id reports with
      | none => exact absurd hfirst (hall id hid)
      | some b =>
        cases b with
        | true => exact absurd ⟨id, hid, hfirst⟩ hnone
        | false => rfl

/-! ## What the memory says of a message -/

namespace Memory

variable {m m' : Memory} {threadId messageId id inboxId : String} {outstanding : List String}
  {any : Bool} {n n' : Nat}

/-- No other entry is of a message whose id is this one but for white space. -/
def Alone (messageId : String) (m : Memory) : Prop :=
  ∀ id n, m.queueTracking.get? id = some n → id ≠ messageId → trim id ≠ messageId

/-- The message has an entry of its own, and the sets of the inboxes agree with it. -/
structure Entered (threadId messageId : String) (outstanding : List String) (any : Bool) (n : Nat)
    (m : Memory) : Prop where
  entry : m.queueTracking.get? messageId = some n
  tracking : m.trackings.get? n = some ⟨threadId, outstanding, any⟩
  own : ∀ id, m.queueTracking.get? id = some n → id = messageId
  queued : ∀ inboxId, messageId ∈ m.queuedIn inboxId ↔ inboxId ∈ outstanding
  alone : m.Alone messageId

/-- The message has no entry, and is queued nowhere. -/
structure Gone (messageId : String) (m : Memory) : Prop where
  entry : m.queueTracking.get? messageId = none
  queued : ∀ inboxId, messageId ∉ m.queuedIn inboxId
  alone : m.Alone messageId

theorem Entered.tracking? (h : m.Entered threadId messageId outstanding any n) :
    m.tracking? messageId = some (n, ⟨threadId, outstanding, any⟩) :=
  tracking?_eq_some.2 ⟨h.entry, h.tracking⟩

theorem Gone.tracking? (h : m.Gone messageId) : m.tracking? messageId = none := by
  unfold Memory.tracking?
  rw [h.entry]
  rfl

theorem Alone.mono (h : m.Alone messageId)
    (hkeys : ∀ id n, m'.queueTracking.get? id = some n → m.queueTracking.get? id = some n) :
    m'.Alone messageId := fun id n hget => h id n (hkeys id n hget)

/-- A frame takes another message. -/
theorem Entered.leaveInbox (h : m.Entered threadId messageId outstanding any n)
    (hne : id ≠ messageId) :
    (m.leaveInbox inboxId id).Entered threadId messageId outstanding any n := by
  have hqueued : ∀ inboxId', messageId ∈ (m.leaveInbox inboxId id).queuedIn inboxId' ↔
      inboxId' ∈ outstanding := by
    intro inboxId'
    rw [mem_leaveInbox, h.queued]
    exact and_iff_left fun hboth => hne hboth.1.symm
  rw [leaveInbox_eq] at hqueued ⊢
  exact ⟨h.entry, h.tracking, h.own, hqueued, h.alone⟩

theorem Gone.leaveInbox (h : m.Gone messageId) : (m.leaveInbox inboxId id).Gone messageId := by
  have hqueued : ∀ inboxId', messageId ∉ (m.leaveInbox inboxId id).queuedIn inboxId' := by
    intro inboxId'
    rw [mem_leaveInbox]
    exact fun hboth => h.queued inboxId' hboth.1
  rw [leaveInbox_eq] at hqueued ⊢
  exact ⟨h.entry, hqueued, h.alone⟩

/-- The entry of another message is written. -/
theorem Entered.putTracking (h : m.Entered threadId messageId outstanding any n) (hne : n' ≠ n)
    (t : Tracking) : (m.putTracking n' t).Entered threadId messageId outstanding any n :=
  ⟨h.entry, (get?_set_of_ne _ _ hne.symm).trans h.tracking, h.own, h.queued, h.alone⟩

theorem Gone.putTracking (h : m.Gone messageId) (n' : Nat) (t : Tracking) :
    (m.putTracking n' t).Gone messageId := ⟨h.entry, h.queued, h.alone⟩

/-- What is left in the table when an entry is closed. -/
theorem get?_of_closeTracking (h : (m.closeTracking id n').queueTracking.get? messageId = some n) :
    m.queueTracking.get? messageId = some n := by
  unfold closeTracking at h
  split_ifs at h
  · have hget : (m.queueTracking.delete id).get? messageId = some n := h
    rw [get?_delete] at hget
    split_ifs at hget
    exact hget
  · exact h

theorem queuedIn_closeTracking : (m.closeTracking id n').queuedIn inboxId = m.queuedIn inboxId := by
  unfold closeTracking
  split_ifs
  · rfl
  · rfl

/-- The entry of another message is closed. -/
theorem Entered.closeTracking (h : m.Entered threadId messageId outstanding any n)
    (hne : id ≠ messageId) (n' : Nat) :
    (m.closeTracking id n').Entered threadId messageId outstanding any n := by
  refine ⟨?_, ?_, fun id' hget => h.own id' (get?_of_closeTracking hget), fun inboxId' => ?_,
    h.alone.mono fun id' n'' hget => get?_of_closeTracking hget⟩
  · unfold Memory.closeTracking
    split_ifs
    · exact (get?_delete_of_ne _ hne.symm).trans h.entry
    · exact h.entry
  · unfold Memory.closeTracking
    split_ifs
    · exact h.tracking
    · exact h.tracking
  · rw [queuedIn_closeTracking]
    exact h.queued inboxId'

theorem Gone.closeTracking (h : m.Gone messageId) (id : String) (n' : Nat) :
    (m.closeTracking id n').Gone messageId := by
  refine ⟨?_, fun inboxId' => ?_, h.alone.mono fun id' n'' hget => get?_of_closeTracking hget⟩
  · cases hget : (m.closeTracking id n').queueTracking.get? messageId with
    | none => rfl
    | some n'' =>
      have hold := get?_of_closeTracking hget
      rw [h.entry] at hold
      cases hold
  · rw [queuedIn_closeTracking]
    exact h.queued inboxId'

/-- A frame takes the message itself. -/
theorem Entered.take (h : m.Entered threadId messageId outstanding any n) (inboxId : String)
    (any' : Bool) : ((m.leaveInbox inboxId messageId).putTracking n
      ⟨threadId, outstanding.filter fun id => decide (id ≠ inboxId), any'⟩).Entered threadId
        messageId (outstanding.filter fun id => decide (id ≠ inboxId)) any' n := by
  have hqueued : ∀ inboxId', messageId ∈ (m.leaveInbox inboxId messageId).queuedIn inboxId' ↔
      inboxId' ∈ outstanding.filter fun id => decide (id ≠ inboxId) := by
    intro inboxId'
    rw [mem_leaveInbox, h.queued, mem_filter, decide_eq_true_iff]
    exact and_congr_right fun _ => ⟨fun hnot heq => hnot ⟨rfl, heq⟩, fun hne hboth => hne hboth.2⟩
  rw [leaveInbox_eq] at hqueued ⊢
  exact ⟨h.entry, get?_set_self _ _ _, h.own, hqueued, h.alone⟩

/-- The entry of the message with nothing outstanding is closed. -/
theorem Entered.close (h : m.Entered threadId messageId [] any n) :
    (m.closeTracking messageId n).Gone messageId := by
  refine ⟨?_, fun inboxId' => ?_, h.alone.mono fun id' n'' hget => get?_of_closeTracking hget⟩
  · unfold Memory.closeTracking
    rw [if_pos (by rw [h.tracking]; rfl)]
    exact get?_delete_self _ _
  · rw [queuedIn_closeTracking, h.queued]
    exact not_mem_nil

/-- One with something outstanding is not. -/
theorem Entered.stay (h : m.Entered threadId messageId outstanding any n)
    (hmore : outstanding ≠ []) : m.closeTracking messageId n = m := by
  unfold Memory.closeTracking
  rw [if_neg]
  rw [h.tracking]
  exact fun heq => hmore (some_inj.1 heq)

theorem queuedIn_dropIfEmpty : (m.dropIfEmpty id).queuedIn inboxId = m.queuedIn inboxId := by
  unfold dropIfEmpty
  split_ifs with hempty
  · unfold queuedIn
    by_cases hsame : inboxId = id
    · rw [hsame, get?_delete_self, hempty]
      rfl
    · rw [get?_delete_of_ne _ hsame]
  · rfl

theorem dropIfEmpty_eq (id : String) (m : Memory) :
    m.dropIfEmpty id = { m with queuedByInbox := (m.dropIfEmpty id).queuedByInbox } := by
  unfold dropIfEmpty
  split_ifs
  · rfl
  · rfl

theorem Entered.dropIfEmpty (h : m.Entered threadId messageId outstanding any n) (id : String) :
    (m.dropIfEmpty id).Entered threadId messageId outstanding any n := by
  have hqueued : ∀ inboxId, messageId ∈ (m.dropIfEmpty id).queuedIn inboxId ↔
      inboxId ∈ outstanding := by
    intro inboxId
    rw [queuedIn_dropIfEmpty]
    exact h.queued inboxId
  rw [dropIfEmpty_eq] at hqueued ⊢
  exact ⟨h.entry, h.tracking, h.own, hqueued, h.alone⟩

theorem Gone.dropIfEmpty (h : m.Gone messageId) (id : String) :
    (m.dropIfEmpty id).Gone messageId := by
  have hqueued : ∀ inboxId, messageId ∉ (m.dropIfEmpty id).queuedIn inboxId := by
    intro inboxId
    rw [queuedIn_dropIfEmpty]
    exact h.queued inboxId
  rw [dropIfEmpty_eq] at hqueued ⊢
  exact ⟨h.entry, hqueued, h.alone⟩

end Memory

/-! ## The service keeps the ledger -/

namespace Service

variable {c : Collation} {w : Service c} {threadId messageId : String} {f : OutboundFrame}
  {l : Ledger}

/-- The service stands where the ledger says: the message is queued to what is outstanding, and its
row has the status. -/
def Shows (threadId messageId : String) (w : Service c) (l : Ledger) : Prop :=
  w.store.statusAt threadId messageId = some l.status ∧
    match l with
    | .waits outstanding any =>
      outstanding ≠ [] ∧ ∃ n, w.memory.Entered threadId messageId outstanding any n
    | .ended _ => w.memory.Gone messageId

/-- A frame as a report. -/
def report (f : OutboundFrame) : Report := ⟨f.deliverInboxId, f.delivered⟩

/-- The frame is about an inbox that is outstanding. -/
def Hits (f : OutboundFrame) (l : Ledger) : Prop :=
  ∃ outstanding any, l = .waits outstanding any ∧ f.deliverInboxId ∈ outstanding

/-- Before the frame visits the message, or after it did; `todo` is what it has yet to visit. -/
def Stands (threadId messageId : String) (f : OutboundFrame) (l : Ledger) (todo : List String)
    (w : Service c) : Prop :=
  (Hits f l ∧ messageId ∈ todo ∧ w.Shows threadId messageId l) ∨
    (w.Shows threadId messageId (l.hear (report f)) ∧ (messageId ∈ todo → Hits f l))

/-- The frame visits the message: its entry is up to date, and its status is to be `status`. -/
structure Visits (threadId messageId : String) (f : OutboundFrame) (l : Ledger) (call : StatusCall)
    (n : Nat) (m : Memory) : Prop where
  thread : call.threadId = threadId
  message : call.messageId = messageId
  status : call.status = (l.hear (report f)).status
  hits : Hits f l
  entered : ∃ outstanding any, l.hear (report f) = Ledger.settle outstanding any ∧
    m.Entered threadId messageId outstanding any n

/-- The status is not of this message. -/
def Elsewhere (messageId : String) (call : StatusCall) : Prop :=
  call.messageId ≠ messageId ∧ trim call.messageId ≠ messageId

/-- Where the ledger stands while a frame is handled. -/
def Midway (threadId messageId : String) (f : OutboundFrame) (l : Ledger) (w : Service c) :
    Phase → Prop
  | .nextOfFrame f' todo => f' = f ∧ Stands threadId messageId f l todo w
  | .settling call (.frame f' n todo) => f' = f ∧
    ((Elsewhere messageId call ∧ Stands threadId messageId f l todo w) ∨
      (Visits threadId messageId f l call n w.memory ∧
        w.store.statusAt threadId messageId = some .queued))
  | .settled call _ (.frame f' n todo) => f' = f ∧
    ((Elsewhere messageId call ∧ Stands threadId messageId f l todo w) ∨
      (Visits threadId messageId f l call n w.memory ∧
        w.store.statusAt threadId messageId = some call.status))
  | .returned => w.Shows threadId messageId (l.hear (report f))
  | _ => False

/-- How many awaits a frame has left at most. -/
def left : Phase → Nat
  | .nextOfFrame _ todo => 3 * todo.length + 1
  | .settled _ _ (.frame _ _ todo) => 3 * todo.length + 2
  | .settling _ (.frame _ _ todo) => 3 * todo.length + 3
  | _ => 0

theorem Shows.withMemory {m : Memory} (h : w.Shows threadId messageId l)
    (hwaits : ∀ outstanding any n, w.memory.Entered threadId messageId outstanding any n →
      m.Entered threadId messageId outstanding any n)
    (hgone : w.memory.Gone messageId → m.Gone messageId) :
    (w.withMemory m).Shows threadId messageId l := by
  obtain ⟨hstatus, hmemory⟩ := h
  refine ⟨hstatus, ?_⟩
  cases l with
  | waits outstanding any =>
    obtain ⟨hmore, n, hentered⟩ := hmemory
    exact ⟨hmore, n, hwaits outstanding any n hentered⟩
  | ended any => exact hgone hmemory

theorem Stands.withMemory {m : Memory} {todo todo' : List String}
    (h : Stands threadId messageId f l todo w)
    (htodo : messageId ∈ todo ↔ messageId ∈ todo')
    (hwaits : ∀ outstanding any n, w.memory.Entered threadId messageId outstanding any n →
      m.Entered threadId messageId outstanding any n)
    (hgone : w.memory.Gone messageId → m.Gone messageId) :
    Stands threadId messageId f l todo' (w.withMemory m) := by
  rcases h with ⟨hhits, hmem, hshows⟩ | ⟨hshows, hmem⟩
  · exact .inl ⟨hhits, htodo.1 hmem, hshows.withMemory hwaits hgone⟩
  · exact .inr ⟨hshows.withMemory hwaits hgone, fun hin => hmem (htodo.2 hin)⟩

/-- Only the memory and the row of the message matter. -/
theorem Shows.congr {w' : Service c} (h : w.Shows threadId messageId l)
    (hmemory : w'.memory = w.memory)
    (hstatus : w'.store.statusAt threadId messageId = w.store.statusAt threadId messageId) :
    w'.Shows threadId messageId l := by
  unfold Shows at h ⊢
  rw [hmemory, hstatus]
  exact h

variable {todo : List String}

theorem Stands.congr {w' : Service c}
    (h : Stands threadId messageId f l todo w) (hmemory : w'.memory = w.memory)
    (hstatus : w'.store.statusAt threadId messageId = w.store.statusAt threadId messageId) :
    Stands threadId messageId f l todo w' := by
  rcases h with ⟨hhits, hmem, hshows⟩ | ⟨hshows, hmem⟩
  · exact .inl ⟨hhits, hmem, hshows.congr hmemory hstatus⟩
  · exact .inr ⟨hshows.congr hmemory hstatus, hmem⟩

/-- What the ledger knows of other entries. -/
theorem Stands.alone (h : Stands threadId messageId f l todo w) :
    w.memory.Alone messageId := by
  have hshows : ∀ {l' : Ledger}, w.Shows threadId messageId l' → w.memory.Alone messageId := by
    intro l' hl
    cases l' with
    | waits outstanding any =>
      obtain ⟨-, -, n, hentered⟩ := hl
      exact hentered.alone
    | ended any => exact hl.2.alone
  rcases h with ⟨-, -, hl⟩ | ⟨hl, -⟩
  · exact hshows hl
  · exact hshows hl

/-- The frame visits another message. -/
theorem midway_other {id : String} (hne : id ≠ messageId)
    (h : Stands threadId messageId f l (id :: todo) w) :
    Midway threadId messageId f l (w.withMemory (applyFrame f (id :: todo) w.memory).2)
      (applyFrame f (id :: todo) w.memory).1 := by
  have htodo : messageId ∈ id :: todo ↔ messageId ∈ todo := by
    rw [mem_cons, or_iff_right hne.symm]
  have hleave : Stands threadId messageId f l todo
      (w.withMemory (w.memory.leaveInbox f.deliverInboxId id)) :=
    h.withMemory htodo (fun _ _ _ he => he.leaveInbox hne) fun hg => hg.leaveInbox
  rw [applyFrame]
  cases htracking : (w.memory.leaveInbox f.deliverInboxId id).tracking? id with
  | none => exact ⟨rfl, hleave⟩
  | some entry =>
    obtain ⟨n, t⟩ := entry
    rw [tracking?_leaveInbox] at htracking
    obtain ⟨hget, -⟩ := tracking?_eq_some.1 htracking
    have helse : ∀ status sentAtMs, Elsewhere messageId ⟨t.threadId, id, status, sentAtMs, none⟩ :=
      fun _ _ => ⟨hne, h.alone id n hget hne⟩
    -- the entry that is written is not the one of the message
    have hput : ∀ t', Stands threadId messageId f l todo
        (w.withMemory ((w.memory.leaveInbox f.deliverInboxId id).putTracking n t')) := by
      intro t'
      refine h.withMemory htodo (fun _ _ n' he => ?_) fun hg => hg.leaveInbox.putTracking n t'
      refine (he.leaveInbox hne).putTracking ?_ t'
      rintro rfl
      exact hne (he.own id hget)
    dsimp only
    split
    · exact ⟨rfl, .inl ⟨helse _ _, hput _⟩⟩
    · split
      · exact ⟨rfl, .inl ⟨helse _ _, hput _⟩⟩
      · refine ⟨rfl, (hput _).withMemory .rfl (fun _ _ _ he => he.closeTracking hne n) ?_⟩
        exact fun hg => hg.closeTracking id n

/-- What a frame that hits the message makes of the ledger. -/
theorem hear_waits {outstanding : List String} {any : Bool} (h : f.deliverInboxId ∈ outstanding) :
    (Ledger.waits outstanding any).hear (report f) = Ledger.settle
      (outstanding.filter fun id => decide (id ≠ f.deliverInboxId)) (any || f.delivered) := by
  rw [Ledger.hear]
  exact if_pos h

/-- The ledger stands on, where the entry was written and is closed if nothing is outstanding. -/
theorem shows_closed {outstanding : List String} {any : Bool} {n : Nat}
    (hstatus : w.store.statusAt threadId messageId = some (Ledger.settle outstanding any).status)
    (hentered : w.memory.Entered threadId messageId outstanding any n) :
    (w.withMemory (w.memory.closeTracking messageId n)).Shows threadId messageId
      (Ledger.settle outstanding any) := by
  refine ⟨hstatus, ?_⟩
  unfold Ledger.settle
  by_cases hempty : outstanding = []
  · rw [if_pos hempty]
    subst hempty
    exact hentered.close
  · rw [if_neg hempty]
    refine ⟨hempty, n, ?_⟩
    show Entered threadId messageId outstanding any n (w.memory.closeTracking messageId n)
    rw [hentered.stay hempty]
    exact hentered

/-- The frame visits the message for the first time. -/
theorem midway_first (hhits : Hits f l)
    (h : w.Shows threadId messageId l) :
    Midway threadId messageId f l (w.withMemory (applyFrame f (messageId :: todo) w.memory).2)
      (applyFrame f (messageId :: todo) w.memory).1 := by
  obtain ⟨outstanding, any, rfl, hin⟩ := hhits
  obtain ⟨hstatus, -, n, hentered⟩ := h
  have hhear : (Ledger.waits outstanding any).hear (report f) = Ledger.settle
      (outstanding.filter fun id => decide (id ≠ f.deliverInboxId)) (any || f.delivered) :=
    hear_waits hin
  have htake := hentered.take f.deliverInboxId
  rw [applyFrame, tracking?_leaveInbox, hentered.tracking?]
  dsimp only
  have hvisits : ∀ (call : StatusCall) (any' : Bool), call.threadId = threadId →
      call.messageId = messageId → (any || f.delivered) = any' →
      call.status = (Ledger.settle (outstanding.filter fun id => decide (id ≠ f.deliverInboxId))
        any').status →
      Visits threadId messageId f (.waits outstanding any) call n
        ((w.memory.leaveInbox f.deliverInboxId messageId).putTracking n ⟨threadId,
          outstanding.filter fun id => decide (id ≠ f.deliverInboxId), any'⟩) := by
    rintro call any' hthread hmessage hany hcall
    rw [hany] at hhear
    exact ⟨hthread, hmessage, by rw [hhear, hcall], ⟨outstanding, any, rfl, hin⟩, _, any', hhear,
      htake any'⟩
  have hqueued : any = false → w.store.statusAt threadId messageId = some .queued := by
    rintro rfl
    exact hstatus
  split
  · rename_i hsent
    obtain ⟨hdelivered, rfl⟩ := hsent
    refine ⟨rfl, .inr ⟨hvisits _ true rfl rfl ?_ ?_, hqueued rfl⟩⟩
    · rw [hdelivered]
      rfl
    · rw [Ledger.status_settle]
      rfl
  · rename_i hunsent
    split
    · rename_i hfailed
      obtain ⟨hexpired, rfl, hempty⟩ := hfailed
      refine ⟨rfl, .inr ⟨hvisits _ false rfl rfl ?_ ?_, hqueued rfl⟩⟩
      · rw [hexpired]
        rfl
      · rw [Ledger.status_settle, if_neg Bool.false_ne_true, if_pos hempty]
    · rename_i hopen
      -- nothing is settled: one was delivered before, or one is still outstanding
      have hany : (any || f.delivered) = any := by
        cases any with
        | true => rfl
        | false =>
          cases hdelivered : f.delivered with
          | true => exact absurd ⟨hdelivered, rfl⟩ hunsent
          | false => rfl
      rw [hany] at hhear
      refine ⟨rfl, .inr ⟨?_, fun _ => ⟨outstanding, any, rfl, hin⟩⟩⟩
      rw [hhear]
      refine shows_closed (w := w.withMemory ((w.memory.leaveInbox f.deliverInboxId
        messageId).putTracking n ⟨threadId, _, any⟩)) ?_ (htake any)
      rw [Ledger.status_settle]
      refine hstatus.trans ?_
      rw [Ledger.status]
      cases any with
      | true => rfl
      | false =>
        rw [if_neg Bool.false_ne_true, if_neg Bool.false_ne_true, if_neg]
        intro hempty
        cases hdelivered : f.delivered with
        | true => exact hunsent ⟨hdelivered, rfl⟩
        | false => exact hopen ⟨hdelivered, rfl, hempty⟩

/-- A frame that visits the message again finds nothing to do. -/
theorem midway_again (hhits : Hits f l)
    (h : w.Shows threadId messageId (l.hear (report f))) :
    Midway threadId messageId f l (w.withMemory (applyFrame f (messageId :: todo) w.memory).2)
      (applyFrame f (messageId :: todo) w.memory).1 := by
  have hshown : ∀ {m : Memory}, (w.withMemory m).Shows threadId messageId (l.hear (report f)) →
      Stands threadId messageId f l todo (w.withMemory m) := fun hs => .inr ⟨hs, fun _ => hhits⟩
  obtain ⟨outstanding, any, rfl, hin⟩ := hhits
  rw [hear_waits hin] at h hshown
  obtain ⟨hstatus, hmemory⟩ := h
  rw [applyFrame, tracking?_leaveInbox]
  unfold Ledger.settle at hmemory
  by_cases hempty : outstanding.filter (fun id => decide (id ≠ f.deliverInboxId)) = []
  · rw [if_pos hempty] at hmemory
    have hgone : w.memory.Gone messageId := hmemory
    rw [hgone.tracking?]
    refine ⟨rfl, hshown ⟨hstatus, ?_⟩⟩
    unfold Ledger.settle
    rw [if_pos hempty]
    exact hgone.leaveInbox
  · rw [if_neg hempty] at hmemory
    obtain ⟨-, n, hentered⟩ := hmemory
    have htake := hentered.take f.deliverInboxId (any || f.delivered)
    have hfilter : (outstanding.filter fun id => decide (id ≠ f.deliverInboxId)).filter
        (fun id => decide (id ≠ f.deliverInboxId)) =
        outstanding.filter fun id => decide (id ≠ f.deliverInboxId) := by
      rw [List.filter_filter]
      congr 1
      funext id
      exact Bool.and_self _
    rw [hentered.tracking?]
    dsimp only
    rw [hfilter] at htake ⊢
    have hunsent : ¬(f.delivered = true ∧ (any || f.delivered) = false) := by
      rintro ⟨hdelivered, hnone⟩
      rw [hdelivered, Bool.or_true] at hnone
      cases hnone
    rw [if_neg hunsent, if_neg fun hfailed => hempty hfailed.2.2]
    refine ⟨rfl, hshown ?_⟩
    exact shows_closed (w := w.withMemory ((w.memory.leaveInbox f.deliverInboxId
      messageId).putTracking n ⟨threadId, _, any || f.delivered⟩)) hstatus htake

/-- The frame goes on to the next message. -/
theorem midway_applyFrame (h : Stands threadId messageId f l todo w) :
    Midway threadId messageId f l (w.withMemory (applyFrame f todo w.memory).2)
        (applyFrame f todo w.memory).1 ∧
      left (applyFrame f todo w.memory).1 ≤ 3 * todo.length := by
  cases todo with
  | nil =>
    refine ⟨?_, Nat.le_refl _⟩
    rcases h with ⟨-, hmem, -⟩ | ⟨hshows, -⟩
    · cases hmem
    · exact hshows.withMemory (fun _ _ _ he => he.dropIfEmpty _) fun hg => hg.dropIfEmpty _
  | cons id todo =>
    have hleft : left (applyFrame f (id :: todo) w.memory).1 ≤ 3 * (id :: todo).length := by
      rw [length_cons, applyFrame]
      split
      · show 3 * todo.length + 1 ≤ 3 * (todo.length + 1)
        omega
      · dsimp only
        split_ifs
        · show 3 * todo.length + 3 ≤ 3 * (todo.length + 1)
          omega
        · show 3 * todo.length + 3 ≤ 3 * (todo.length + 1)
          omega
        · show 3 * todo.length + 1 ≤ 3 * (todo.length + 1)
          omega
    refine ⟨?_, hleft⟩
    by_cases hne : id = messageId
    · subst hne
      rcases h with ⟨hhits, -, hshows⟩ | ⟨hshows, hhits⟩
      · exact midway_first hhits hshows
      · exact midway_again (hhits mem_cons_self) hshows
    · exact midway_other hne h

/-- A write for another row. -/
theorem statusAt_elsewhere {call : StatusCall} (h : Elsewhere messageId call) (now : Int)
    (s : Store c) :
    (s.setMessageStatus now call).1.statusAt threadId messageId = s.statusAt threadId messageId := by
  rcases Store.setMessageStatus_cases now call s with ⟨-, -, hstatus⟩ | ⟨-, hsame, -⟩
  · rw [hstatus, if_neg fun hboth => h.2 hboth.2.symm]
  · rw [hsame]

/-- The write for the row of a message that is queued is accepted. -/
theorem statusAt_written {call : StatusCall} {n : Nat} {m : Memory} {s : Store c}
    (hthread : trim threadId = threadId ∧ threadId ≠ "")
    (hmessage : trim messageId = messageId ∧ messageId ≠ "")
    (h : Visits threadId messageId f l call n m) (hsettles : call.status ≠ .pending)
    (hqueued : s.statusAt threadId messageId = some .queued) (now : Int) :
    (s.setMessageStatus now call).1.statusAt threadId messageId = some call.status ∧
      (s.setMessageStatus now call).2.accepted = true := by
  have htakes : s.Takes call := by
    unfold Store.Takes
    rw [h.thread, h.message, hthread.1, hmessage.1]
    refine ⟨hthread.2, hmessage.2, ?_⟩
    unfold Store.statusAt at hqueued
    obtain ⟨current, hrow, hstatus⟩ := map_eq_some_iff.1 hqueued
    rw [hrow]
    dsimp only
    rw [hstatus]
    cases hcall : call.status with
    | pending => exact absurd hcall hsettles
    | queued => rfl
    | sent => rfl
    | failed => rfl
    | delivered => rfl
  rcases Store.setMessageStatus_cases now call s with ⟨-, ⟨m, hwritten⟩, hstatus⟩ | ⟨hnot, -⟩
  · refine ⟨?_, by rw [hwritten]; rfl⟩
    rw [hstatus, if_pos]
    rw [h.thread, h.message, hthread.1, hmessage.1]
    exact ⟨rfl, rfl⟩
  · exact absurd htakes hnot

/-- A status of the ledger is one that the service writes. -/
theorem status_ne_pending (l : Ledger) : l.status ≠ .pending := by
  cases l with
  | waits outstanding any => cases any <;> exact fun h => (nomatch h)
  | ended any => cases any <;> exact fun h => (nomatch h)

/-- A status is written. -/
theorem advance_settling (i : Nat) (call : StatusCall) (next : Next) (w : Service c) :
    (advance i .ok (.settling call next) w).2.memory = w.memory ∧
      (advance i .ok (.settling call next) w).2.store =
        if (w.store.setMessageStatus w.clock call).2.accepted = true then
          (w.store.setMessageStatus w.clock call).1 else w.store := by
  rw [advance]
  dsimp only
  split
  · exact ⟨rfl, rfl⟩
  · exact ⟨rfl, rfl⟩

variable (hthread : trim threadId = threadId ∧ threadId ≠ "")
  (hmessage : trim messageId = messageId ∧ messageId ≠ "")

include hthread hmessage

/-- **One await** of a frame. -/
theorem midway_advance {p : Phase} (i : Nat) (h : Midway threadId messageId f l w p) :
    Midway threadId messageId f l (advance i .ok p w).2 (advance i .ok p w).1 ∧
      left (advance i .ok p w).1 ≤ left p - 1 := by
  cases p with
  | nextOfFrame f' todo =>
    obtain ⟨rfl, hstands⟩ := h
    exact midway_applyFrame hstands
  | settling call next =>
    cases next with
    | frame f' n todo =>
      obtain ⟨rfl, hcase⟩ := h
      refine ⟨⟨rfl, ?_⟩, Nat.le_refl _⟩
      obtain ⟨hmemory, hstore⟩ := advance_settling i call (.frame f' n todo) w
      rcases hcase with ⟨helse, hstands⟩ | ⟨hvisits, hqueued⟩
      · refine .inl ⟨helse, hstands.congr hmemory ?_⟩
        rw [hstore]
        split
        · exact statusAt_elsewhere helse w.clock w.store
        · rfl
      · have hsettles : call.status ≠ .pending := by
          rw [hvisits.status]
          exact status_ne_pending _
        obtain ⟨hwritten, haccepted⟩ :=
          statusAt_written hthread hmessage hvisits hsettles hqueued w.clock
        refine .inr ⟨?_, ?_⟩
        · rw [hmemory]
          exact hvisits
        · rw [hstore, if_pos haccepted]
          exact hwritten
    | _ => exact h.elim
  | settled call write next =>
    cases next with
    | frame f' n todo =>
      obtain ⟨rfl, hcase⟩ := h
      refine ⟨⟨rfl, ?_⟩, Nat.le_refl _⟩
      -- the rest of the memory is brought up to date, and the entry is closed
      generalize hm : (if call.status = .sent then
        w.memory.expectAck call.threadId call.messageId else w.memory) = m
      have hwaits : ∀ {outstanding : List String} {any : Bool} {n : Nat},
          w.memory.Entered threadId messageId outstanding any n →
          (m.dropQueued call.messageId).Entered threadId messageId outstanding any n := by
        intro outstanding any n he
        rw [← hm]
        split
        · exact ⟨he.entry, he.tracking, he.own, he.queued, he.alone⟩
        · exact ⟨he.entry, he.tracking, he.own, he.queued, he.alone⟩
      have hgone : w.memory.Gone messageId → (m.dropQueued call.messageId).Gone messageId := by
        intro hg
        rw [← hm]
        split
        · exact ⟨hg.entry, hg.queued, hg.alone⟩
        · exact ⟨hg.entry, hg.queued, hg.alone⟩
      rcases hcase with ⟨helse, hstands⟩ | ⟨hvisits, hstatus⟩
      · refine Stands.congr (w := w.withMemory
          ((m.dropQueued call.messageId).closeTracking call.messageId n)) ?_ ?_ rfl
        · exact hstands.withMemory .rfl
            (fun _ _ _ he => (hwaits he).closeTracking helse.1 n)
            fun hg => (hgone hg).closeTracking call.messageId n
        · rw [← hm]
          rfl
      · obtain ⟨outstanding, any, hhear, hentered⟩ := hvisits.entered
        refine .inr ⟨?_, fun _ => hvisits.hits⟩
        have hclosed := shows_closed (w := w.withMemory (m.dropQueued call.messageId))
          (by rw [← hhear, ← hvisits.status]; exact hstatus) (hwaits hentered)
        rw [hhear]
        refine hclosed.congr ?_ rfl
        rw [← hm, ← hvisits.message]
        rfl
    | _ => exact h.elim
  | returned => exact ⟨h, Nat.le_refl _⟩
  | _ => exact h.elim

omit hthread hmessage in
/-- A frame that has no await left has ended. -/
theorem Midway.returned {p : Phase} (h : Midway threadId messageId f l w p) (hleft : left p ≤ 0) :
    p = .returned := by
  cases p with
  | returned => rfl
  | nextOfFrame f' todo =>
    have hpos : 3 * todo.length + 1 ≤ 0 := hleft
    omega
  | settling call next =>
    cases next with
    | frame f' n todo =>
      have hpos : 3 * todo.length + 3 ≤ 0 := hleft
      omega
    | _ => exact h.elim
  | settled call write next =>
    cases next with
    | frame f' n todo =>
      have hpos : 3 * todo.length + 2 ≤ 0 := hleft
      omega
    | _ => exact h.elim
  | _ => exact h.elim

/-- The awaits of a frame, one after another. The induction is on how many there are. -/
theorem shows_after_advances (i : Nat) : ∀ (k : Nat) (w : Service c) (p : Phase),
    w.ops.get? i = some p → Midway threadId messageId f l w p → left p ≤ k →
    (w.after (replicate k (.advance i .ok))).ops.get? i = some .returned ∧
      (w.after (replicate k (.advance i .ok))).Shows threadId messageId (l.hear (report f))
  | 0, w, p, hget, h, hleft => by
    obtain rfl := h.returned hleft
    exact ⟨hget, h⟩
  | k + 1, w, p, hget, h, hleft => by
    obtain ⟨hnext, hless⟩ := midway_advance hthread hmessage i h
    have hstep : w.step (.advance i .ok) = put i (advance i .ok p w) := by
      show w.resume i _ = _
      unfold resume
      rw [hget]
    rw [replicate_succ]
    unfold after
    rw [run_cons, hstep]
    refine shows_after_advances i k (put i (advance i .ok p w)) (advance i .ok p w).1
      (get?_set_self _ _ _) hnext ?_
    omega

omit hthread hmessage

/-! ## One frame after another -/

/-- A frame of the node, and the clock when it comes. -/
structure StatusFrame where
  nowMs : Int
  deliverInboxId : String
  delivered : Bool

def StatusFrame.report (f : StatusFrame) : Report := ⟨trim f.deliverInboxId, f.delivered⟩

/-- The service when a frame has come. -/
def framed (w : Service c) (f : StatusFrame) : Service c :=
  (w.step (.tick f.nowMs w.dice)).step (.outboundStatus f.deliverInboxId f.delivered)

/-- How many messages are queued to the inbox of a frame. -/
def heardBy (w : Service c) (f : StatusFrame) : Nat :=
  (w.memory.queuedIn (trim f.deliverInboxId)).length

/-- The service when the frame was handled to its end, each of its awaits well. There are at most
three for each message (`ended_handled`). -/
def handled (w : Service c) (f : StatusFrame) : Service c :=
  (w.framed f).after (replicate (3 * w.heardBy f) (.advance w.begun .ok))

/-- Where the frame is about a message at all, its handler has returned. -/
def HandlerEnds (w : Service c) (f : StatusFrame) : Prop :=
  w.heardBy f ≠ 0 → (w.handled f).ops.get? w.begun = some .returned

theorem hear_of_not_hits (h : ¬Hits f l) : l.hear (report f) = l := by
  cases l with
  | waits outstanding any =>
    rw [Ledger.hear]
    exact if_neg fun hin => h ⟨outstanding, any, rfl, hin⟩
  | ended any => rfl

/-- The set of an inbox has the message as long as the inbox is outstanding. -/
theorem Shows.mem_queuedIn (h : w.Shows threadId messageId l) :
    messageId ∈ w.memory.queuedIn f.deliverInboxId ↔ Hits f l := by
  cases l with
  | waits outstanding any =>
    obtain ⟨-, -, n, hentered⟩ := h
    rw [hentered.queued]
    constructor
    · exact fun hin => ⟨outstanding, any, rfl, hin⟩
    · rintro ⟨outstanding', any', heq, hin⟩
      cases heq
      exact hin
  | ended any =>
    refine ⟨fun hin => absurd hin (h.2.queued _), ?_⟩
    rintro ⟨outstanding', any', heq, -⟩
    cases heq

/-- **One frame.** It is handled to its end, and the service keeps the ledger. -/
theorem shows_handled (hthread : trim threadId = threadId ∧ threadId ≠ "")
    (hmessage : trim messageId = messageId ∧ messageId ≠ "")
    (h : w.Shows threadId messageId l) (f : StatusFrame) :
    w.HandlerEnds f ∧ (w.handled f).Shows threadId messageId (l.hear f.report) := by
  have hmem := h.mem_queuedIn (f := ⟨trim f.deliverInboxId, f.delivered, f.nowMs⟩)
  have hmiss := hear_of_not_hits (f := ⟨trim f.deliverInboxId, f.delivered, f.nowMs⟩) (l := l)
  have hclock : Shows threadId messageId { w with clock := f.nowMs } l := h
  -- a frame that is about no message at all
  have hnone : w.memory.queuedIn (trim f.deliverInboxId) = [] → w.HandlerEnds f ∧
      ((w.framed f).Shows threadId messageId l →
        (w.handled f).Shows threadId messageId (l.hear f.report)) := by
    intro hempty
    have hzero : w.heardBy f = 0 := by
      unfold heardBy
      rw [hempty]
      rfl
    refine ⟨fun hne => absurd hzero hne, fun hframed => ?_⟩
    unfold handled
    rw [hzero]
    have hhear : l.hear f.report = l := by
      refine hmiss fun hhits => ?_
      have hin := hmem.2 hhits
      rw [hempty] at hin
      cases hin
    rw [hhear]
    exact hframed
  cases hget : w.memory.queuedByInbox.get? (trim f.deliverInboxId) with
  | none =>
    have hempty : w.memory.queuedIn (trim f.deliverInboxId) = [] := by
      unfold queuedIn
      rw [hget]
      rfl
    refine ⟨(hnone hempty).1, (hnone hempty).2 ?_⟩
    unfold framed
    rw [step, step, beginFrame, hget]
    exact hclock
  | some ids =>
    have hids : w.memory.queuedIn (trim f.deliverInboxId) = ids := by
      unfold queuedIn
      rw [hget]
      rfl
    cases ids with
    | nil =>
      refine ⟨(hnone hids).1, (hnone hids).2 ?_⟩
      unfold framed
      rw [step, step, beginFrame, hget]
      exact hclock.withMemory (fun _ _ _ he => he.dropIfEmpty _) fun hg => hg.dropIfEmpty _
    | cons id ids =>
      rw [hids] at hmem
      have hstands : Stands threadId messageId ⟨trim f.deliverInboxId, f.delivered, f.nowMs⟩ l
          (id :: ids) { w with clock := f.nowMs } := by
        by_cases hhits : Hits ⟨trim f.deliverInboxId, f.delivered, f.nowMs⟩ l
        · exact .inl ⟨hhits, hmem.2 hhits, hclock⟩
        · refine .inr ⟨?_, hmem.1⟩
          rw [hmiss hhits]
          exact hclock
      obtain ⟨hmidway, hleft⟩ := midway_applyFrame hstands
      have hframed : w.framed f = start (within (applyFrame
          ⟨trim f.deliverInboxId, f.delivered, f.nowMs⟩ (id :: ids) w.memory)
          { w with clock := f.nowMs }) := by
        unfold framed
        rw [step, step, beginFrame, hget]
      have hheard : w.heardBy f = (id :: ids).length := by
        unfold heardBy
        rw [hids]
      unfold HandlerEnds handled
      rw [hheard, hframed]
      obtain ⟨hreturned, hshows⟩ := shows_after_advances hthread hmessage w.begun
        (3 * (id :: ids).length) (start (within (applyFrame
          ⟨trim f.deliverInboxId, f.delivered, f.nowMs⟩ (id :: ids) w.memory)
          { w with clock := f.nowMs })) _ (get?_set_self _ _ _) hmidway hleft
      exact ⟨fun _ => hreturned, hshows⟩

/-- The message of a thread is queued to these inboxes. -/
structure QueuedTo (threadId messageId : String) (inboxIds : List String) (w : Service c) : Prop where
  thread : trim threadId = threadId ∧ threadId ≠ ""
  message : trim messageId = messageId ∧ messageId ≠ ""
  inboxes : ∀ id ∈ inboxIds, trim id = id ∧ id ≠ ""
  waits : w.Shows threadId messageId (.waits inboxIds false)

/-- The induction is on the frames. -/
theorem shows_run (hthread : trim threadId = threadId ∧ threadId ≠ "")
    (hmessage : trim messageId = messageId ∧ messageId ≠ "") :
    ∀ (frames : List StatusFrame) (w : Service c) (l : Ledger), w.Shows threadId messageId l →
      Meets handled HandlerEnds w frames ∧
        (run handled w frames).Shows threadId messageId
          (l.hearAll (frames.map StatusFrame.report))
  | [], _, _, h => ⟨trivial, h⟩
  | f :: frames, w, l, h => by
    obtain ⟨hends, hshows⟩ := shows_handled hthread hmessage h f
    obtain ⟨hrest, hlast⟩ := shows_run hthread hmessage frames (w.handled f) _ hshows
    exact ⟨⟨hends, hrest⟩, hlast⟩

/-- The status of a message that was queued is the verdict of the frames so far. -/
theorem QueuedTo.status {inboxIds : List String} (h : w.QueuedTo threadId messageId inboxIds)
    (frames : List StatusFrame) : (run handled w frames).store.statusAt threadId messageId =
      some (verdict inboxIds (frames.map StatusFrame.report)) := by
  have hshows := (shows_run h.thread h.message frames w _ h.waits).2
  rw [← Ledger.status_hearAll h.waits.2.1]
  exact hshows.1

end Service

/-! ## What a message comes to -/

variable {c : Collation}

/-- The first frame of an inbox. -/
def firstFrame (inboxId : String) (frames : List StatusFrame) : Option Bool :=
  firstReport inboxId (frames.map StatusFrame.report)

/-- **What frames come to**, one handled after another. When each inbox was reported, the message is
failed if the first frame of each is `expired`, and sent otherwise; and after no part of them it is
failed while an inbox is outstanding. Each handler returns. -/
structure Aggregated (threadId messageId : String) (inboxIds : List String) (w : Service c)
    (frames : List StatusFrame) : Prop where
  ends : Meets handled HandlerEnds w frames
  failed : (∀ id ∈ inboxIds, firstFrame id frames ≠ none) →
    ((run handled w frames).store.statusAt threadId messageId = some .failed ↔
      ∀ id ∈ inboxIds, firstFrame id frames = some false)
  sent : (∀ id ∈ inboxIds, firstFrame id frames ≠ none) →
    ((run handled w frames).store.statusAt threadId messageId = some .sent ↔
      ¬∀ id ∈ inboxIds, firstFrame id frames = some false)
  patient : ∀ n, (run handled w (frames.take n)).store.statusAt threadId messageId =
    some .failed → ∀ id ∈ inboxIds, firstFrame id (frames.take n) ≠ none

/-- **Frames are aggregated** whatever their order is. -/
theorem frames_aggregated (w : Service c) (threadId messageId : String) (inboxIds : List String)
    (h : w.QueuedTo threadId messageId inboxIds) (frames : List Service.StatusFrame) :
    Aggregated threadId messageId inboxIds w frames := by
  have hne : inboxIds ≠ [] := h.waits.2.1
  have hdecided : (∀ id ∈ inboxIds, firstFrame id frames ≠ none) →
      ¬(∀ id ∈ inboxIds, firstFrame id frames = some false) →
      ∃ id ∈ inboxIds, firstFrame id frames = some true := by
    intro hall hnot
    by_contra hnone
    refine hnot fun id hid => ?_
    cases hfirst : firstFrame id frames with
    | none => exact absurd hfirst (hall id hid)
    | some b =>
      cases b with
      | true => exact absurd ⟨id, hid, hfirst⟩ hnone
      | false => rfl
  have hnot : (∀ id ∈ inboxIds, firstFrame id frames = some false) →
      ¬∃ id ∈ inboxIds, firstFrame id frames = some true := by
    rintro hall ⟨id, hid, hfirst⟩
    rw [hall id hid] at hfirst
    cases hfirst
  have hstatus : (run handled w frames).store.statusAt threadId messageId =
      some (if ∃ id ∈ inboxIds, firstFrame id frames = some true then .sent
        else if ∀ id ∈ inboxIds, firstFrame id frames = some false then .failed
        else .queued) := h.status frames
  refine ⟨(shows_run h.thread h.message frames w _ h.waits).1, fun hall => ?_, fun hall => ?_,
    fun n hfailed => ?_⟩
  · rw [hstatus]
    constructor
    · intro hfailed
      by_contra hexpired
      rw [if_pos (hdecided hall hexpired)] at hfailed
      cases hfailed
    · intro hexpired
      rw [if_neg (hnot hexpired), if_pos hexpired]
  · rw [hstatus]
    constructor
    · intro hsent hexpired
      rw [if_neg (hnot hexpired), if_pos hexpired] at hsent
      cases hsent
    · intro hexpired
      rw [if_pos (hdecided hall hexpired)]
  · rw [h.status] at hfailed
    unfold verdict at hfailed
    split at hfailed
    · cases hfailed
    · split at hfailed
      · rename_i hexpired
        intro id hid hnone
        have hfirst := hexpired id hid
        unfold firstFrame at hnone
        rw [hnone] at hfirst
        cases hfirst
      · cases hfailed

/-! ### An inbox that is reported both ways -/

/-- Alice's message, queued to Bob's inbox. -/
def queued : Service Collation.byCodePoint :=
  (fresh "alice" withBob).after
    [.send hello, .advance 0 .ok, .advance 0 .ok, .advance 0 .ok, .deliver 0 queuedByNode,
      .advance 0 .ok, .advance 0 .ok]

theorem queued_queuedTo : queued.QueuedTo "th_1" "m" ["inbox"] := by
  have hentries : queued.memory.queueTracking.entries = [("m", 0)] := by decide
  have hsets : queued.memory.queuedByInbox.entries = [("inbox", ["m"])] := by decide
  have hentry : ∀ id n, queued.memory.queueTracking.get? id = some n → id = "m" := by
    intro id n hget
    have hmem := mem_entries_iff.2 hget
    rw [hentries, mem_singleton] at hmem
    exact congrArg Prod.fst hmem
  refine ⟨by decide, by decide, by decide, by decide, by decide, 0, by decide, by decide,
    fun id hget => hentry id 0 hget, fun inboxId => ?_, fun id n hget hne => ?_⟩
  · unfold queuedIn get?
    rw [hsets]
    by_cases hinbox : inboxId = "inbox"
    · subst hinbox
      decide
    · rw [lookup_cons_eq, if_neg hinbox]
      simp [hinbox]
  · exact absurd (hentry id n hget) hne

def expired : StatusFrame := ⟨1, "inbox", false⟩

def delivered : StatusFrame := ⟨2, "inbox", true⟩

/-- **The first frame of an inbox decides.** Bob's inbox is reported expired and then delivered, and
the message stays failed. -/
theorem expired_then_delivered :
    ¬((run handled queued [expired, delivered]).store.statusAt "th_1" "m" =
        some .failed ↔ ∀ f ∈ [expired, delivered], f.delivered = false) := by
  decide

/-- Two frames of one inbox, the first of which says that it was delivered. -/
theorem frames_aggregated_delivered :
    Aggregated "th_1" "m" ["inbox"] queued [delivered, expired] :=
  frames_aggregated queued "th_1" "m" ["inbox"] queued_queuedTo [delivered, expired]

end RezChat.Delivery
