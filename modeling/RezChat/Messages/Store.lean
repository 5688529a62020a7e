/-
The messages of one account (`storage/ChatThreadStore.js`).

A thread has a list of messages, newest first, with different ids and at most five hundred
of them: a `Ranking`. A mutation whose target is not there is buffered under the id of its
target, until a message with that id is deposited. Every call holds the lock of its thread,
so it is one function of the store here; where the writes of a call can be told apart by a
crash, in the log of originals, they are (`Messages.Facts`).

A message id is chosen by its sender. If a message of one account is there, the same id from
another account is stored under `id@account`, so that neither can hide the other.

The last field of the store is not part of it. It is the history of the rows that a mutation
changed: which mutation it was, in which thread the row was, and what the row was before.
-/
import RezChat.Lib.Ranking
import RezChat.Messages.Row
import RezChat.Messages.Facts

set_option autoImplicit false

namespace RezChat.Messages

open Option Ranking

open Inbox (trim trim_trim trimmed)
open Events (Payload)

/-! ## The order of the messages -/

/-- `String.prototype.localeCompare`, by whether its result is positive. -/
structure Collation where
  le : String → String → Bool
  trans : ∀ a b c, le a b = true → le b c = true → le a c = true
  total : ∀ a b, le a b = true ∨ le b a = true

/-- The collation by code points. -/
def Collation.byCodePoint : Collation where
  le a b := decide (a ≤ b)
  trans _ _ _ hab hbc :=
    decide_eq_true (String.le_trans (of_decide_eq_true hab) (of_decide_eq_true hbc))
  total a b := (String.le_total a b).imp decide_eq_true decide_eq_true

/-- `compareNewestFirst`, by whether its result is positive. -/
def newestFirst (c : Collation) (a b : ChatMessage) : Prop :=
  b.createdAtMs < a.createdAtMs ∨
    (b.createdAtMs = a.createdAtMs ∧ c.le b.messageId a.messageId = true)

instance (c : Collation) : DecidableRel (newestFirst c) := fun _ _ =>
  inferInstanceAs (Decidable (_ ∨ (_ ∧ _)))

instance (c : Collation) : Std.Total (newestFirst c) := ⟨fun a b => by
  rcases lt_trichotomy b.createdAtMs a.createdAtMs with h | h | h
  · exact .inl (.inl h)
  · rcases c.total b.messageId a.messageId with hle | hle
    · exact .inl (.inr ⟨h, hle⟩)
    · exact .inr (.inr ⟨h.symm, hle⟩)
  · exact .inr (.inl h)⟩

instance (c : Collation) : IsTrans ChatMessage (newestFirst c) := ⟨fun x y z hxy hyz => by
  rcases hxy with hxy | ⟨hxy, hle⟩
  · rcases hyz with hyz | ⟨hyz, _⟩
    · exact .inl (lt_trans hyz hxy)
    · exact .inl (hyz ▸ hxy)
  · rcases hyz with hyz | ⟨hyz, hle'⟩
    · exact .inl (hxy ▸ hyz)
    · exact .inr ⟨hyz.trans hxy, c.trans _ _ _ hle' hle⟩⟩

/-- `MAX_MESSAGES_PER_THREAD`. -/
def maxMessagesPerThread : Nat := 500

/-- The messages of a thread. -/
abbrev Rows (c : Collation) : Type :=
  Ranking ChatMessage.messageId (newestFirst c) maxMessagesPerThread

/-! ## The store -/

/-- `THREAD_TYPES`. -/
inductive ThreadType where
  | direct
  | group
  deriving DecidableEq

structure ChatThread where
  threadType : ThreadType
  peerAccountId : String
  peerInboxId : String
  updatedAtMs : Int
  lastActivityAtMs : Int
  deriving DecidableEq

/-- `isReadyForMessaging`. -/
def ChatThread.isReady (t : ChatThread) : Bool :=
  decide (t.threadType = .group ∨ (t.peerAccountId ≠ "" ∧ t.peerInboxId ≠ ""))

/-- `PendingMutation`. The last field is not part of the record: it tells which fact the
mutation was signed for, if it was signed. -/
structure PendingMutation where
  threadId : String
  targetMessageId : String
  senderAccountId : String
  change : Change
  receivedAtMs : Int
  targetFingerprint : String

/-- A row that a mutation changed: the mutation, the thread of the row, and the row as it
was. -/
structure Applied where
  mutation : PendingMutation
  threadId : String
  row : ChatMessage

/-- The threads, their messages, the messages by thread, sender key and wire id, the
mutations that wait for their target, the log of originals, and the history. -/
structure Store (c : Collation) where
  threads : OrdMap String ChatThread
  messages : OrdMap String (Rows c)
  idempotency : OrdMap (String × String × String) ChatMessage
  pending : OrdMap String (List PendingMutation)
  facts : FactLog
  applied : List Applied

variable {c : Collation}

namespace Store

def empty : Store c :=
  ⟨OrdMap.empty, OrdMap.empty, OrdMap.empty, OrdMap.empty, FactLog.empty, []⟩

def rows (s : Store c) (threadId : String) : Rows c :=
  (s.messages.get? threadId).getD Ranking.empty

/-- The row of a thread with an id. -/
def row? (s : Store c) (threadId messageId : String) : Option ChatMessage :=
  (s.rows threadId).get? messageId

def withRows (s : Store c) (threadId : String) (rows : Rows c) : Store c :=
  { s with messages := s.messages.set threadId rows }

/-- A thread that is ready for messages, or nothing: then the caller throws. -/
def readyThread? (s : Store c) (threadId : String) : Option ChatThread :=
  (s.threads.get? threadId).filter ChatThread.isReady

/-- The mutations that wait for a target. -/
def pendingFor (s : Store c) (targetMessageId : String) : List PendingMutation :=
  (s.pending.get? targetMessageId).getD []

/-- A row is kept under its idempotency key as well, if it has a sender key. -/
def withIdempotency (s : Store c) (m : ChatMessage) (messageId : String) : Store c :=
  if m.senderKey = "" then s
  else { s with idempotency := s.idempotency.set (m.threadId, m.senderKey, messageId) m }

/-- A row of a thread is written over. -/
def withRow (s : Store c) (threadId : String) (m : ChatMessage) : Store c :=
  (s.withRows threadId ((s.rows threadId).put m)).withIdempotency m m.messageId

end Store

/-! ## Mutations -/

/-- What a core, or a call, reports. -/
structure ApplyResult where
  applied : Bool
  rejected : Bool
  reason : String
  message : Option ChatMessage
  buffered : Bool

/-- A reaction needs an account and an emoji. -/
def PendingMutation.malformed (mu : PendingMutation) : Bool :=
  match mu.change with
  | .edit _ _ => false
  | .tombstone _ => false
  | .reaction emoji _ => decide (trim mu.senderAccountId = "" ∨ trim emoji = "")

/-- `PendingMutation.validate`: what is not accepted is not buffered, and the call throws. -/
def PendingMutation.valid (mu : PendingMutation) : Bool :=
  decide (trim mu.threadId ≠ "" ∧ trim mu.targetMessageId ≠ "" ∧ trim mu.senderAccountId ≠ "" ∧
    0 < mu.receivedAtMs) &&
  match mu.change with
  | .edit _ editedAtMs => decide (0 < editedAtMs)
  | .tombstone tombstonedAtMs => decide (0 < tombstonedAtMs)
  | .reaction emoji _ => decide (trim emoji ≠ "")

/-- The mutation as the core decides it on a row. -/
def PendingMutation.verdict (mu : PendingMutation) (m : ChatMessage) : Verdict :=
  mu.change.verdict mu.senderAccountId m

/-- A call for a message of a thread. -/
def PendingMutation.Targets (mu : PendingMutation) (threadId messageId : String) : Prop :=
  trim mu.threadId = trim threadId ∧ trim mu.targetMessageId = trim messageId

/-- `MAX_PENDING_MUTATIONS_PER_TARGET`. -/
def maxPendingMutationsPerTarget : Nat := 64

/-- In the order in which they were received. -/
def byReceipt (mus : List PendingMutation) : List PendingMutation :=
  mus.insertionSort fun a b => a.receivedAtMs ≤ b.receivedAtMs

/-- The last sixty-four. -/
def lastPending (mus : List PendingMutation) : List PendingMutation :=
  mus.drop (mus.length - maxPendingMutationsPerTarget)

namespace Store

/-- `_applyEditCoreUnlocked`, `_applyTombstoneCoreUnlocked` and
`_applyReactionCoreUnlocked`, on the target and in the thread they are given. -/
def applyCoreUnlocked (mu : PendingMutation) (threadId targetMessageId : String) (s : Store c) :
    Store c × ApplyResult :=
  if threadId = "" ∨ targetMessageId = "" ∨ mu.malformed then
    (s, ⟨false, true, "invalid_input", none, false⟩)
  else match s.row? threadId targetMessageId with
    | none => (s, ⟨false, false, "target_not_found", none, false⟩)
    | some m => match mu.verdict m with
      | .applied m' => ({ s.withRow threadId m' with applied := s.applied ++ [⟨mu, threadId, m⟩] },
          ⟨true, false, "", some m', false⟩)
      | .refused rejected reason => (s, ⟨false, rejected, reason, some m, false⟩)

/-- `_writePendingMutations`. -/
def writePendingMutations (targetMessageId : String) (mus : List PendingMutation) (s : Store c) :
    Store c :=
  if mus = [] then { s with pending := s.pending.delete targetMessageId }
  else { s with pending := s.pending.set targetMessageId (lastPending mus) }

/-- `_bufferMutationUnlocked`. -/
def bufferMutationUnlocked (mu : PendingMutation) (s : Store c) : Store c :=
  s.writePendingMutations (trim mu.targetMessageId)
    (byReceipt (s.pendingFor (trim mu.targetMessageId) ++ [mu]))

/-- `_drainPendingMutationsUnlocked`: the mutations that wait for the target are applied in
the thread that is given, and dropped. The last row that one of them reports is returned. -/
def drainPendingMutationsUnlocked (threadId targetMessageId : String) (s : Store c) :
    Store c × Option ChatMessage :=
  if s.pendingFor targetMessageId = [] then (s, none)
  else
    let drained := (byReceipt (s.pendingFor targetMessageId)).foldl (fun acc mu =>
      let r := acc.1.applyCoreUnlocked mu threadId targetMessageId
      (r.1, r.2.message.or acc.2)) (s, none)
    (drained.1.writePendingMutations targetMessageId [], drained.2)

/-- `applyEdit`, `applyTombstone` and `applyReaction`. Nothing is returned where they
throw. -/
def applyMutation (mu : PendingMutation) (allowBuffer : Bool) (s : Store c) :
    Store c × Option ApplyResult :=
  if trim mu.threadId = "" ∨ trim mu.targetMessageId = "" then (s, none)
  else
    let r := s.applyCoreUnlocked mu (trim mu.threadId) (trim mu.targetMessageId)
    if !r.2.applied && decide (r.2.reason = "target_not_found") && allowBuffer then
      if mu.valid then (r.1.bufferMutationUnlocked mu, some { r.2 with buffered := true })
      else (r.1, none)
    else (r.1, some r.2)

def applyEdit (threadId targetMessageId senderAccountId newText : String) (editedAtMs : Int)
    (receivedAtMs : Int) (targetFingerprint : String) (allowBuffer : Bool) (s : Store c) :
    Store c × Option ApplyResult :=
  s.applyMutation ⟨threadId, targetMessageId, senderAccountId, .edit newText editedAtMs,
    receivedAtMs, targetFingerprint⟩ allowBuffer

def applyTombstone (threadId targetMessageId senderAccountId : String) (tombstonedAtMs : Int)
    (receivedAtMs : Int) (targetFingerprint : String) (allowBuffer : Bool) (s : Store c) :
    Store c × Option ApplyResult :=
  s.applyMutation ⟨threadId, targetMessageId, senderAccountId, .tombstone tombstonedAtMs,
    receivedAtMs, targetFingerprint⟩ allowBuffer

def applyReaction (threadId targetMessageId senderAccountId emoji : String) (op : ReactionOp)
    (receivedAtMs : Int) (targetFingerprint : String) (allowBuffer : Bool) (s : Store c) :
    Store c × Option ApplyResult :=
  s.applyMutation ⟨threadId, targetMessageId, senderAccountId, .reaction emoji op,
    receivedAtMs, targetFingerprint⟩ allowBuffer

end Store

/-! ## Deposits -/

/-- The arguments of `upsertDepositedMessage`. A status that is none is taken to be
`delivered`. -/
structure Deposit where
  messageId : String
  threadId : String
  senderKey : String
  packetB64 : String
  acceptedAtMs : Int
  senderAccountId : String
  status : Option MessageStatus
  text : String
  payload : Option Payload

namespace Deposit

/-- The row that a deposit makes, under the id it is stored under. -/
def row (d : Deposit) (messageId : String) : ChatMessage :=
  let status := d.status.getD .delivered
  { threadId := trim d.threadId
    messageId := messageId
    senderAccountId := trim d.senderAccountId
    senderKey := trim d.senderKey
    packetB64 := d.packetB64
    status := status
    text := d.text
    payload := d.payload
    createdAtMs := d.acceptedAtMs
    acceptedAtMs := if status = .delivered then some d.acceptedAtMs else none
    sentAtMs := if status = .pending then none else some d.acceptedAtMs
    editedAtMs := none
    tombstonedAtMs := none
    reactions := OrdMap.empty
    conflicted := false
    wireId := trim d.messageId }

/-- `contentHash` of the payload. -/
def contentHash (d : Deposit) : String :=
  (d.payload.map fun p => trimmed p.contentHash).getD ""

/-- The id under which a message of another account is stored whose own id is taken. -/
def disambiguated (d : Deposit) : String := trim d.messageId ++ "@" ++ trim d.senderAccountId

/-- The deposit is of the account whose row is there, or one of them has none. -/
def SameSender (d : Deposit) (existing : ChatMessage) : Prop :=
  trim d.senderAccountId = "" ∨ existing.senderAccountId = "" ∨
    existing.senderAccountId = trim d.senderAccountId

instance (d : Deposit) (existing : ChatMessage) : Decidable (d.SameSender existing) :=
  inferInstanceAs (Decidable (_ ∨ _ ∨ _))

/-- Both are signed by the one account, and differ. -/
def Conflicts (d : Deposit) (existing : ChatMessage) : Prop :=
  d.contentHash ≠ "" ∧ existing.contentHash ≠ "" ∧ d.contentHash ≠ existing.contentHash ∧
    trim d.senderAccountId ≠ "" ∧ existing.senderAccountId = trim d.senderAccountId

instance (d : Deposit) (existing : ChatMessage) : Decidable (d.Conflicts existing) :=
  inferInstanceAs (Decidable (_ ∧ _ ∧ _ ∧ _ ∧ _))

end Deposit

structure DepositResult where
  inserted : Bool
  message : ChatMessage
  mutated : Bool
  conflict : Bool

namespace Store

/-- `_ensureThreadUnlocked` for a thread that is there: its times move on. -/
def touchThread (now createdAtMs : Int) (threadId : String) (s : Store c) : Store c :=
  match s.threads.get? threadId with
  | none => s
  | some t => { s with threads := s.threads.set threadId { t with
      updatedAtMs := now
      lastActivityAtMs := max t.lastActivityAtMs createdAtMs } }

/-- `_upsertMessageUnlocked`, for a thread that is ready. -/
def upsertMessageUnlocked (now : Int) (m : ChatMessage) (s : Store c) : Store c :=
  (s.withRows m.threadId ((s.rows m.threadId).put m)).touchThread now m.createdAtMs m.threadId

/-- The row of a deposit is stored under the id that was found for it. -/
def stored (now : Int) (d : Deposit) (effectiveMid : String) (s : Store c) : Store c :=
  (s.upsertMessageUnlocked now (d.row effectiveMid)).withIdempotency (d.row effectiveMid)
    (trim d.messageId)

/-- The end of `upsertDepositedMessage`: the row is stored, and what waits for its id is
applied. -/
def insertDeposited (now : Int) (d : Deposit) (effectiveMid : String) (s : Store c) :
    Store c × DepositResult :=
  let drained :=
    (s.stored now d effectiveMid).drainPendingMutationsUnlocked (trim d.threadId) effectiveMid
  (drained.1, ⟨true, drained.2.getD (d.row effectiveMid), drained.2.isSome, false⟩)

/-- `upsertDepositedMessage`. Nothing is returned where it throws. -/
def upsertDepositedMessage (now : Int) (d : Deposit) (s : Store c) :
    Store c × Option DepositResult :=
  if trim d.threadId = "" ∨ trim d.messageId = "" then (s, none)
  else match s.readyThread? (trim d.threadId) with
    | none => (s, none)
    | some _ => match s.row? (trim d.threadId) (trim d.messageId) with
      | none =>
        let r := s.insertDeposited now d (trim d.messageId)
        (r.1, some r.2)
      | some existing =>
        if d.SameSender existing then
          if d.Conflicts existing then
            (s.withRow (trim d.threadId) { existing with conflicted := true },
              some ⟨false, { existing with conflicted := true }, false, true⟩)
          else (s, some ⟨false, existing, false, false⟩)
        else match s.row? (trim d.threadId) d.disambiguated with
          | some dupe => (s, some ⟨false, dupe, false, false⟩)
          | none =>
            let r := s.insertDeposited now d d.disambiguated
            (r.1, some r.2)

/-- `markMessageConflicted`. -/
def markMessageConflicted (threadId messageId : String) (s : Store c) :
    Store c × Option ChatMessage :=
  if trim threadId = "" ∨ trim messageId = "" then (s, none)
  else match s.row? (trim threadId) (trim messageId) with
    | none => (s, none)
    | some m =>
      if m.conflicted then (s, some m)
      else (s.withRow (trim threadId) { m with conflicted := true },
        some { m with conflicted := true })

/-- `recordOutboundDeposit`. A message of the owner is written, whatever is under its id. -/
def recordOutboundDeposit (now : Int) (d : Deposit) (s : Store c) : Store c × Option ChatMessage :=
  if trim d.threadId = "" ∨ trim d.senderKey = "" ∨ trim d.messageId = "" then (s, none)
  else match s.readyThread? (trim d.threadId) with
    | none => (s, none)
    | some _ =>
      let canonical := { d.row (trim d.messageId) with
        status := .pending, acceptedAtMs := none, sentAtMs := none }
      ((s.upsertMessageUnlocked now canonical).withIdempotency canonical (trim d.messageId),
        some canonical)

/-- `applyLocalDelete`. -/
def applyLocalDelete (threadId targetMessageId : String) (s : Store c) : Store c × Bool :=
  if trim threadId = "" ∨ trim targetMessageId = "" then (s, false)
  else match s.row? (trim threadId) (trim targetMessageId) with
    | none => (s, false)
    | some m =>
      let s' := s.withRows (trim threadId) ((s.rows (trim threadId)).remove (trim targetMessageId))
      (if m.senderKey = "" then s'
        else { s' with
          idempotency := s'.idempotency.delete (trim threadId, m.senderKey, m.messageId) }, true)

/-- `appendOriginalFact`, when nothing interrupts it. -/
def appendFact (call : AppendCall) (s : Store c) : Store c × Option Appended :=
  let e := appendOriginalFact call [] s.facts
  ({ s with facts := e.state }, returnedOf e)

/-! ## What a call does to the rows -/

section Rows

variable {s : Store c} {threadId threadId' messageId : String} {m : ChatMessage}

theorem rows_withRows (s : Store c) (threadId threadId' : String) (rows : Rows c) :
    (s.withRows threadId rows).rows threadId' =
      if threadId' = threadId then rows else s.rows threadId' := by
  rw [Store.rows, withRows, OrdMap.get?_set]
  by_cases h : threadId' = threadId
  · rw [if_pos h, if_pos h]
    rfl
  · rw [if_neg h, if_neg h]
    rfl

@[simp] theorem messages_withIdempotency (s : Store c) (m : ChatMessage) (messageId : String) :
    (s.withIdempotency m messageId).messages = s.messages := by
  rw [withIdempotency]
  split_ifs
  · rfl
  · rfl

@[simp] theorem pending_withIdempotency (s : Store c) (m : ChatMessage) (messageId : String) :
    (s.withIdempotency m messageId).pending = s.pending := by
  rw [withIdempotency]
  split_ifs
  · rfl
  · rfl

@[simp] theorem facts_withIdempotency (s : Store c) (m : ChatMessage) (messageId : String) :
    (s.withIdempotency m messageId).facts = s.facts := by
  rw [withIdempotency]
  split_ifs
  · rfl
  · rfl

@[simp] theorem applied_withIdempotency (s : Store c) (m : ChatMessage) (messageId : String) :
    (s.withIdempotency m messageId).applied = s.applied := by
  rw [withIdempotency]
  split_ifs
  · rfl
  · rfl

@[simp] theorem threads_withIdempotency (s : Store c) (m : ChatMessage) (messageId : String) :
    (s.withIdempotency m messageId).threads = s.threads := by
  rw [withIdempotency]
  split_ifs
  · rfl
  · rfl

theorem rows_congr {s s' : Store c} (h : s'.messages = s.messages) : s'.rows = s.rows := by
  funext threadId
  rw [Store.rows, Store.rows, h]

theorem row?_congr {s s' : Store c} (h : s'.messages = s.messages) : s'.row? = s.row? := by
  funext threadId messageId
  rw [row?, row?, rows_congr h]

theorem rows_withRow (s : Store c) (threadId threadId' : String) (m : ChatMessage) :
    (s.withRow threadId m).rows threadId' =
      if threadId' = threadId then (s.rows threadId).put m else s.rows threadId' := by
  rw [withRow, rows_congr (messages_withIdempotency _ _ _), rows_withRows]

/-- A row that is written over one with its id is all that changes. -/
theorem row?_withRow (hm : s.row? threadId m.messageId ≠ none) (threadId' messageId : String) :
    (s.withRow threadId m).row? threadId' messageId =
      if threadId' = threadId ∧ messageId = m.messageId then some m
      else s.row? threadId' messageId := by
  have hin : m.messageId ∈ (s.rows threadId).rows.map ChatMessage.messageId := by
    by_contra hnot
    exact hm (get?_eq_none.2 hnot)
  rw [row?, rows_withRow]
  by_cases ht : threadId' = threadId
  · rw [if_pos ht, get?_put_of_has hin, ht]
    by_cases hk : messageId = m.messageId
    · rw [if_pos hk, if_pos ⟨rfl, hk⟩]
    · rw [if_neg hk, if_neg fun h => hk h.2]
      rfl
  · rw [if_neg ht, if_neg fun h => ht h.1]
    rfl

theorem row?_messageId (h : s.row? threadId messageId = some m) : m.messageId = messageId :=
  (get?_eq_some.1 h).2

end Rows

/-! ### Mutations -/

end Store

/-- The row that a mutation makes of the row of its target. -/
def PendingMutation.settle (mu : PendingMutation) (m : ChatMessage) : ChatMessage :=
  if mu.malformed then m else (mu.verdict m).row m

theorem PendingMutation.alike_settle (mu : PendingMutation) (m : ChatMessage) :
    Alike m (mu.settle m) := by
  rw [settle]
  split_ifs
  · exact Alike.refl m
  · exact alike_apply mu.senderAccountId mu.change m

namespace Store

section Mutations

variable {s : Store c} {mu : PendingMutation} {threadId target : String} {m m' : ChatMessage}

/-- What a core does if it finds the row: it writes the row that the mutation makes of it,
or it changes nothing. -/
theorem applyCore_found (mu : PendingMutation) (ht : threadId ≠ "") (hi : target ≠ "")
    (hm : s.row? threadId target = some m) :
    (∃ m', mu.malformed = false ∧ mu.verdict m = .applied m' ∧
      s.applyCoreUnlocked mu threadId target = ({ s.withRow threadId m' with
        applied := s.applied ++ [⟨mu, threadId, m⟩] }, ⟨true, false, "", some m', false⟩)) ∨
    (mu.settle m = m ∧ (s.applyCoreUnlocked mu threadId target).1 = s ∧
      (s.applyCoreUnlocked mu threadId target).2.applied = false ∧
      (s.applyCoreUnlocked mu threadId target).2.reason ≠ "target_not_found") := by
  by_cases hmal : mu.malformed = true
  · have hcore : s.applyCoreUnlocked mu threadId target =
        (s, ⟨false, true, "invalid_input", none, false⟩) := by
      rw [applyCoreUnlocked, if_pos (.inr (.inr hmal))]
    have hreason : "invalid_input" ≠ "target_not_found" := by decide
    rw [hcore]
    refine .inr ⟨?_, rfl, rfl, hreason⟩
    rw [PendingMutation.settle, if_pos hmal]
  · have hargs : ¬ (threadId = "" ∨ target = "" ∨ mu.malformed = true) := by
      rintro (h | h | h)
      · exact ht h
      · exact hi h
      · exact hmal h
    rw [applyCoreUnlocked, if_neg hargs, hm]
    dsimp only
    cases hv : mu.verdict m with
    | applied m' => exact .inl ⟨m', Bool.eq_false_of_not_eq_true hmal, rfl, rfl⟩
    | refused rejected reason =>
      refine .inr ⟨?_, rfl, rfl, reason_of_refused hv⟩
      rw [PendingMutation.settle, if_neg hmal, hv]
      rfl

/-- A core that does not find the row changes nothing. -/
theorem applyCore_missing (hm : s.row? threadId target = none) :
    (s.applyCoreUnlocked mu threadId target).1 = s := by
  rw [applyCoreUnlocked, hm]
  split_ifs
  · rfl
  · rfl

/-- **The rows after a core**: the row of the target is what the mutation makes of it, and
every other row is as it was. -/
theorem row?_applyCore (ht : threadId ≠ "") (hi : target ≠ "") (threadId' messageId : String) :
    (s.applyCoreUnlocked mu threadId target).1.row? threadId' messageId =
      if threadId' = threadId ∧ messageId = target then (s.row? threadId target).map mu.settle
      else s.row? threadId' messageId := by
  cases hm : s.row? threadId target with
  | none =>
    rw [applyCore_missing hm]
    split_ifs with h
    · rw [h.1, h.2]
      exact hm
    · rfl
  | some m =>
    rcases applyCore_found mu ht hi hm with ⟨m', hmal, hv, hcore⟩ | ⟨hsame, hcore, _⟩
    · have hkey : m'.messageId = target :=
        (alike_of_applied hv).messageId.trans (row?_messageId hm)
      have hsettle : mu.settle m = m' := by
        rw [PendingMutation.settle, hmal, if_neg Bool.false_ne_true, hv]
        rfl
      rw [hcore]
      show (s.withRow threadId m').row? threadId' messageId = _
      rw [row?_withRow (by rw [hkey, hm]; exact some_ne_none m), hkey, map_some,
        hsettle]
    · rw [hcore, map_some, hsame]
      split_ifs with h
      · rw [h.1, h.2]
        exact hm
      · rfl

/-- The row with an id, as a mutation leaves it; every other row as it is. -/
def settleAt (mu : PendingMutation) (target : String) (m : ChatMessage) : ChatMessage :=
  if m.messageId = target then mu.settle m else m

/-- The rows of the thread after a core, in their order. -/
theorem rows_applyCore (ht : threadId ≠ "") (hi : target ≠ "") :
    ((s.applyCoreUnlocked mu threadId target).1.rows threadId).rows =
      (s.rows threadId).rows.map (settleAt mu target) := by
  have hunique : ∀ x ∈ (s.rows threadId).rows, x.messageId = target →
      s.row? threadId target = some x := fun x hx hk => get?_eq_some.2 ⟨hx, hk⟩
  have hsame : (∀ x ∈ (s.rows threadId).rows, x.messageId = target → mu.settle x = x) →
      (s.rows threadId).rows = (s.rows threadId).rows.map (settleAt mu target) := by
    intro h
    refine ((List.map_congr_left fun x hx => ?_).trans (List.map_id _)).symm
    rw [settleAt]
    by_cases hk : x.messageId = target
    · rw [if_pos hk, h x hx hk]
      rfl
    · rw [if_neg hk]
      rfl
  cases hm : s.row? threadId target with
  | none =>
    rw [applyCore_missing hm]
    refine hsame fun x hx hk => ?_
    rw [hunique x hx hk] at hm
    exact absurd hm (by simp)
  | some m =>
    rcases applyCore_found mu ht hi hm with ⟨m', hmal, hv, hcore⟩ | ⟨hsettle, hcore, _⟩
    · have halike := alike_of_applied hv
      have hkey : m'.messageId = target := halike.messageId.trans (row?_messageId hm)
      rw [hcore]
      show ((s.withRow threadId m').rows threadId).rows = _
      rw [rows_withRow, if_pos rfl, rows_put_of_alike (b := m) (by rw [hkey]; exact hm)]
      · refine List.map_congr_left fun x hx => ?_
        rw [settleAt, hkey]
        by_cases hk : x.messageId = target
        · rw [if_pos hk, if_pos hk]
          have hxm : x = m := some_inj.1 ((hunique x hx hk).symm.trans hm)
          rw [hxm, PendingMutation.settle, hmal, if_neg Bool.false_ne_true, hv]
          rfl
        · rw [if_neg hk, if_neg hk]
      · intro x
        rw [newestFirst, newestFirst, halike.createdAtMs, halike.messageId]
      · intro x
        rw [newestFirst, newestFirst, halike.createdAtMs, halike.messageId]
    · rw [hcore]
      refine hsame fun x hx hk => ?_
      have hxm : x = m := some_inj.1 ((hunique x hx hk).symm.trans hm)
      rw [hxm, hsettle]

theorem messages_writePending (target : String) (mus : List PendingMutation) (s : Store c) :
    (s.writePendingMutations target mus).messages = s.messages := by
  rw [writePendingMutations]
  split_ifs
  · rfl
  · rfl

/-- **The rows after a call**: of `applyEdit`, `applyTombstone` or `applyReaction`. -/
theorem row?_applyMutation (ht : trim mu.threadId ≠ "") (hi : trim mu.targetMessageId ≠ "")
    (allowBuffer : Bool) (threadId' messageId : String) :
    (s.applyMutation mu allowBuffer).1.row? threadId' messageId =
      if threadId' = trim mu.threadId ∧ messageId = trim mu.targetMessageId then
        (s.row? (trim mu.threadId) (trim mu.targetMessageId)).map mu.settle
      else s.row? threadId' messageId := by
  have hargs : ¬ (trim mu.threadId = "" ∨ trim mu.targetMessageId = "") := by
    rintro (h | h)
    · exact ht h
    · exact hi h
  have hbuffer : ∀ s' : Store c, (s'.bufferMutationUnlocked mu).row? = s'.row? := fun s' =>
    row?_congr (messages_writePending _ _ _)
  rw [← row?_applyCore ht hi, applyMutation, if_neg hargs]
  dsimp only
  split_ifs
  · rw [hbuffer]
  · rfl
  · rfl

/-- A call without a thread or a target throws. -/
theorem applyMutation_throws (h : trim mu.threadId = "" ∨ trim mu.targetMessageId = "")
    (allowBuffer : Bool) : s.applyMutation mu allowBuffer = (s, none) := by
  rw [applyMutation, if_pos h]

/-- **What a call can do**: it changes nothing, or it writes the row that the mutation makes of
its target, or, if its target is not there, it buffers. -/
theorem applyMutation_cases (mu : PendingMutation) (allowBuffer : Bool) (s : Store c) :
    (s.applyMutation mu allowBuffer).1 = s ∨
    (∃ m m', s.row? (trim mu.threadId) (trim mu.targetMessageId) = some m ∧
      mu.malformed = false ∧ mu.verdict m = .applied m' ∧
      (s.applyMutation mu allowBuffer).1 = { s.withRow (trim mu.threadId) m' with
        applied := s.applied ++ [⟨mu, trim mu.threadId, m⟩] }) ∨
    (s.row? (trim mu.threadId) (trim mu.targetMessageId) = none ∧ mu.valid = true ∧
      (s.applyMutation mu allowBuffer).1 = s.bufferMutationUnlocked mu) := by
  by_cases hargs : trim mu.threadId = "" ∨ trim mu.targetMessageId = ""
  · rw [applyMutation_throws hargs]
    exact .inl rfl
  · rw [applyMutation, if_neg hargs]
    dsimp only
    rw [not_or] at hargs
    cases hrow : s.row? (trim mu.threadId) (trim mu.targetMessageId) with
    | none =>
      rw [applyCore_missing hrow]
      by_cases hv : mu.valid = true
      · rw [if_pos hv]
        split_ifs
        · exact .inr (.inr ⟨rfl, hv, rfl⟩)
        · exact .inl rfl
      · rw [if_neg hv]
        split_ifs
        · exact .inl rfl
        · exact .inl rfl
    | some m =>
      rcases applyCore_found mu hargs.1 hargs.2 hrow with
        ⟨m', hmal, hv, hcore⟩ | ⟨_, hcore, happlied, hreason⟩
      · -- what was applied is not buffered
        rw [hcore, if_neg (by simp)]
        exact .inr (.inl ⟨m, m', rfl, hmal, hv, rfl⟩)
      · rw [decide_eq_false hreason, Bool.and_false, Bool.false_and, if_neg Bool.false_ne_true,
          hcore]
        exact .inl rfl

theorem pending_applyCore (mu : PendingMutation) (threadId target : String) (s : Store c) :
    (s.applyCoreUnlocked mu threadId target).1.pending = s.pending := by
  rw [applyCoreUnlocked]
  split_ifs
  · rfl
  · cases s.row? threadId target with
    | none => rfl
    | some m =>
      dsimp only
      cases mu.verdict m with
      | applied m' => exact pending_withIdempotency _ _ _
      | refused rejected reason => rfl

/-- What every mutation of a list keeps, applied to one target, holds after all of them. -/
theorem drained_keeps (threadId target : String) : ∀ (mus : List PendingMutation)
    (acc : Store c × Option ChatMessage) {P : Store c → Prop},
    (∀ s, ∀ mu ∈ mus, P s → P (s.applyCoreUnlocked mu threadId target).1) → P acc.1 →
    P (mus.foldl (fun acc mu => ((acc.1.applyCoreUnlocked mu threadId target).1,
      (acc.1.applyCoreUnlocked mu threadId target).2.message.or acc.2)) acc).1
  | [], _, _, _, h => h
  | mu :: mus, acc, _, hstep, h =>
    drained_keeps threadId target mus _ (fun s nu hnu => hstep s nu (List.mem_cons_of_mem mu hnu))
      (hstep acc.1 mu List.mem_cons_self h)

/-- A drain only touches the row of its target, and what waits for it. -/
theorem drain_frame {threadId target : String} (ht : threadId ≠ "") (hi : target ≠ "") :
    (∀ threadId' messageId, ¬ (threadId' = threadId ∧ messageId = target) →
      (s.drainPendingMutationsUnlocked threadId target).1.row? threadId' messageId =
        s.row? threadId' messageId) ∧
    ∀ target', target' ≠ target →
      (s.drainPendingMutationsUnlocked threadId target).1.pendingFor target' =
        s.pendingFor target' := by
  rw [drainPendingMutationsUnlocked]
  by_cases hnil : s.pendingFor target = []
  · rw [if_pos hnil]
    exact ⟨fun _ _ _ => rfl, fun _ _ => rfl⟩
  · rw [if_neg hnil]
    dsimp only
    have hfold := drained_keeps (c := c) threadId target (byReceipt (s.pendingFor target)) (s, none)
      (P := fun s' => (∀ threadId' messageId, ¬ (threadId' = threadId ∧ messageId = target) →
        s'.row? threadId' messageId = s.row? threadId' messageId) ∧ s'.pending = s.pending)
      (fun s' mu _ h => ⟨fun threadId' messageId hne => by
        rw [row?_applyCore ht hi, if_neg hne, h.1 threadId' messageId hne], by
        rw [pending_applyCore, h.2]⟩) ⟨fun _ _ _ => rfl, rfl⟩
    refine ⟨fun threadId' messageId hne => ?_, fun target' hne => ?_⟩
    · rw [row?_congr (messages_writePending _ _ _)]
      exact hfold.1 threadId' messageId hne
    · rw [writePendingMutations, if_pos rfl, pendingFor]
      dsimp only
      rw [OrdMap.get?_delete_of_ne _ hne, hfold.2]
      rfl

/-- The rows after several mutations of one target. -/
theorem row?_drained (ht : threadId ≠ "") (hi : target ≠ "") (threadId' messageId : String) :
    ∀ (mus : List PendingMutation) (acc : Store c × Option ChatMessage),
    (mus.foldl (fun acc mu => ((acc.1.applyCoreUnlocked mu threadId target).1,
      (acc.1.applyCoreUnlocked mu threadId target).2.message.or acc.2)) acc).1.row? threadId'
        messageId =
      if threadId' = threadId ∧ messageId = target then
        (acc.1.row? threadId target).map fun m => mus.foldl (fun m mu => mu.settle m) m
      else acc.1.row? threadId' messageId
  | [], acc => by
    split_ifs with h
    · rw [h.1, h.2]
      exact map_id'.symm
    · rfl
  | mu :: mus, acc => by
    rw [List.foldl_cons, row?_drained ht hi threadId' messageId mus]
    dsimp only
    have hself : (acc.1.applyCoreUnlocked mu threadId target).1.row? threadId target =
        (acc.1.row? threadId target).map mu.settle :=
      (row?_applyCore ht hi threadId target).trans (if_pos ⟨rfl, rfl⟩)
    rw [hself, row?_applyCore ht hi, map_map]
    by_cases h : threadId' = threadId ∧ messageId = target
    · rw [if_pos h, if_pos h]
      rfl
    · rw [if_neg h, if_neg h, if_neg h]

/-- **The rows after a drain**: what waits for the target is applied to its row, in the order
of receipt. -/
theorem row?_drain (ht : threadId ≠ "") (hi : target ≠ "") (threadId' messageId : String) :
    (s.drainPendingMutationsUnlocked threadId target).1.row? threadId' messageId =
      if threadId' = threadId ∧ messageId = target then
        (s.row? threadId target).map fun m =>
          (byReceipt (s.pendingFor target)).foldl (fun m mu => mu.settle m) m
      else s.row? threadId' messageId := by
  rw [drainPendingMutationsUnlocked]
  by_cases hnil : s.pendingFor target = []
  · rw [if_pos hnil, hnil]
    split_ifs with h
    · rw [h.1, h.2]
      exact map_id'.symm
    · rfl
  · rw [if_neg hnil]
    dsimp only
    rw [row?_congr (messages_writePending _ _ _), row?_drained ht hi]

end Mutations

end Store

/-! ## Runs -/

/-- What happens to the store. -/
inductive Op where
  | deposit (now : Int) (d : Deposit)
  | mutate (mu : PendingMutation) (allowBuffer : Bool)
  | mark (threadId messageId : String)
  | send (now : Int) (d : Deposit)
  | deleteLocal (threadId targetMessageId : String)
  | append (call : AppendCall)

/-- One call. -/
def Store.step (s : Store c) : Op → Store c
  | .deposit now d => (s.upsertDepositedMessage now d).1
  | .mutate mu allowBuffer => (s.applyMutation mu allowBuffer).1
  | .mark threadId messageId => (s.markMessageConflicted threadId messageId).1
  | .send now d => (s.recordOutboundDeposit now d).1
  | .deleteLocal threadId targetMessageId => (s.applyLocalDelete threadId targetMessageId).1
  | .append call => (s.appendFact call).1

/-- A store with threads and nothing in them. -/
def Store.withThreads (threads : OrdMap String ChatThread) : Store c :=
  { Store.empty with threads := threads }

end RezChat.Messages
