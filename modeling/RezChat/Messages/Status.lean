/-
The status of a stored message (`storage/ChatThreadStore.js`, `setMessageStatus`).

A status only moves forward: from `pending` to any other, from `queued` to all but `pending`, and
from `sent` to `delivered` or `failed`. A call for a row that is not there does nothing, and one
for a step that is not allowed throws. Every other call of the store writes whole rows, or drops
them; the rows whose status it changes are its `renewed` ones.
-/
import RezChat.Messages.Store

set_option autoImplicit false

namespace RezChat.Messages

open Inbox (trim)

/-! ## The call -/

def canTransitionStatus (current next : MessageStatus) : Bool :=
  decide (current = next ∨
    (current = .pending ∧ (next = .queued ∨ next = .sent ∨ next = .failed ∨ next = .delivered)) ∨
    (current = .queued ∧ (next = .sent ∨ next = .failed ∨ next = .delivered)) ∨
    (current = .sent ∧ (next = .delivered ∨ next = .failed)))

/-- Nothing comes after `delivered`. -/
theorem delivered_final {next : MessageStatus} (h : canTransitionStatus .delivered next = true) :
    next = .delivered := by
  cases next with
  | delivered => rfl
  | pending => exact absurd h (by decide)
  | queued => exact absurd h (by decide)
  | sent => exact absurd h (by decide)
  | failed => exact absurd h (by decide)

/-- The arguments of `setMessageStatus`. -/
structure StatusCall where
  threadId : String
  messageId : String
  status : MessageStatus
  sentAtMs : Option Int
  acceptedAtMs : Option Int
  deriving DecidableEq

/-- The row with its new status. -/
def StatusCall.update (call : StatusCall) (now : Int) (m : ChatMessage) : ChatMessage :=
  { m with
    status := call.status
    sentAtMs := call.sentAtMs.or m.sentAtMs
    acceptedAtMs :=
      if call.status = .delivered then some ((call.acceptedAtMs.or call.sentAtMs).getD now)
      else m.acceptedAtMs }

/-- What the call comes to. -/
inductive StatusWrite where
  | threw
  | missing
  | written (m : ChatMessage)
  deriving DecidableEq

def StatusWrite.accepted : StatusWrite → Bool
  | .written _ => true
  | .threw | .missing => false

variable {c : Collation}

namespace Store

def setMessageStatus (now : Int) (call : StatusCall) (s : Store c) : Store c × StatusWrite :=
  if trim call.threadId = "" ∨ trim call.messageId = "" then (s, .threw)
  else match s.row? (trim call.threadId) (trim call.messageId) with
    | none => (s, .missing)
    | some current =>
      if canTransitionStatus current.status call.status = true then
        (s.withRow (trim call.threadId) (call.update now current),
          .written (call.update now current))
      else (s, .threw)

/-- `deleteThread`. -/
def deleteThread (threadId : String) (s : Store c) : Store c :=
  if trim threadId = "" ∨ s.threads.get? (trim threadId) = none then s
  else { s with
    threads := s.threads.delete (trim threadId)
    messages := s.messages.delete (trim threadId) }

/-- The status of a row. -/
def statusAt (s : Store c) (threadId messageId : String) : Option MessageStatus :=
  (s.row? threadId messageId).map ChatMessage.status

/-- The rows of all threads. -/
def listed (s : Store c) : List (String × String) :=
  s.messages.entries.flatMap fun e => e.2.rows.map fun m => (e.1, m.messageId)

/-- The rows that one store has with another status than the other, or alone. -/
def renewed (s s' : Store c) : List (String × String) :=
  (s.listed ++ s'.listed).filter fun k => s.statusAt k.1 k.2 ≠ s'.statusAt k.1 k.2

/-- The row of the call is there, and may take its status. -/
def Takes (s : Store c) (call : StatusCall) : Prop :=
  trim call.threadId ≠ "" ∧ trim call.messageId ≠ "" ∧
    match s.row? (trim call.threadId) (trim call.messageId) with
    | none => False
    | some current => canTransitionStatus current.status call.status = true

instance (s : Store c) (call : StatusCall) : Decidable (s.Takes call) := by
  unfold Takes
  cases s.row? (trim call.threadId) (trim call.messageId) with
  | none => exact inferInstanceAs (Decidable (_ ∧ _ ∧ False))
  | some current => exact inferInstanceAs (Decidable (_ ∧ _ ∧ (_ = true)))

/-! ## What it does -/

variable {s s' : Store c} {call : StatusCall} {now : Int} {threadId messageId : String}

/-- A row that is written over with the same rank. -/
theorem statusAt_update {current : ChatMessage} {thread : String}
    (hrow : s.row? thread messageId = some current) (threadId messageId' : String) :
    (s.withRow thread (call.update now current)).statusAt threadId messageId' =
      if threadId = thread ∧ messageId' = messageId then some call.status
      else s.statusAt threadId messageId' := by
  obtain ⟨hmem, hid⟩ := Ranking.get?_eq_some.1 hrow
  have hkey : (call.update now current).messageId = messageId := hid
  have hin : (call.update now current).messageId ∈ (s.rows thread).rows.map ChatMessage.messageId :=
    List.mem_map.2 ⟨current, hmem, rfl⟩
  have hrows : (s.withRow thread (call.update now current)).rows threadId =
      if threadId = thread then (s.rows thread).put (call.update now current)
      else s.rows threadId := by
    have h := rows_withRows s thread threadId ((s.rows thread).put (call.update now current))
    unfold withRow Store.rows
    rw [messages_withIdempotency]
    exact h
  unfold statusAt row?
  rw [hrows]
  by_cases hthread : threadId = thread
  · rw [if_pos hthread, Ranking.get?_put_of_has hin, hkey, hthread]
    by_cases hsame : messageId' = messageId
    · rw [if_pos hsame, if_pos ⟨rfl, hsame⟩]
      rfl
    · rw [if_neg hsame, if_neg fun hand => hsame hand.2]
  · rw [if_neg hthread, if_neg fun hand => hthread hand.1]

/-- **What the call does**: the row takes the status, or nothing happens. -/
theorem setMessageStatus_cases (now : Int) (call : StatusCall) (s : Store c) :
    (s.Takes call ∧ (∃ m, (s.setMessageStatus now call).2 = .written m) ∧
      ∀ threadId messageId, (s.setMessageStatus now call).1.statusAt threadId messageId =
        if threadId = trim call.threadId ∧ messageId = trim call.messageId then some call.status
        else s.statusAt threadId messageId) ∨
    (¬ s.Takes call ∧ (s.setMessageStatus now call).1 = s ∧
      (s.setMessageStatus now call).2.accepted = false) := by
  unfold setMessageStatus Takes
  by_cases hids : trim call.threadId = "" ∨ trim call.messageId = ""
  · refine .inr ⟨fun h => ?_, by rw [if_pos hids], by rw [if_pos hids]; rfl⟩
    exact hids.elim h.1 h.2.1
  · rw [if_neg hids]
    rw [not_or] at hids
    cases hrow : s.row? (trim call.threadId) (trim call.messageId) with
    | none => exact .inr ⟨fun h => h.2.2, rfl, rfl⟩
    | some current =>
      dsimp only
      by_cases hstep : canTransitionStatus current.status call.status = true
      · rw [if_pos hstep]
        exact .inl ⟨⟨hids.1, hids.2, hstep⟩, ⟨_, rfl⟩, statusAt_update hrow⟩
      · rw [if_neg hstep]
        exact .inr ⟨fun h => hstep h.2.2, rfl, rfl⟩

/-- A row that the call may move is there, in a status that precedes its own. -/
theorem Takes.statusAt (h : s.Takes call) : ∃ current,
    s.statusAt (trim call.threadId) (trim call.messageId) = some current ∧
      canTransitionStatus current call.status = true := by
  have hrow := h.2.2
  unfold Store.statusAt
  cases hget : s.row? (trim call.threadId) (trim call.messageId) with
  | none =>
    rw [hget] at hrow
    exact absurd hrow id
  | some current =>
    rw [hget] at hrow
    exact ⟨current.status, rfl, hrow⟩

/-- A row with a status is listed. -/
theorem mem_listed (h : s.statusAt threadId messageId ≠ none) :
    (threadId, messageId) ∈ s.listed := by
  unfold statusAt at h
  cases hrow : s.row? threadId messageId with
  | none =>
    rw [hrow] at h
    exact absurd rfl h
  | some m =>
    obtain ⟨hmem, hid⟩ := Ranking.get?_eq_some.1 hrow
    have hmem : m ∈ (s.rows threadId).rows := hmem
    unfold Store.rows at hmem
    cases hrows : s.messages.get? threadId with
    | none =>
      rw [hrows] at hmem
      exact absurd hmem List.not_mem_nil
    | some rows =>
      rw [hrows] at hmem
      refine List.mem_flatMap.2 ⟨(threadId, rows), OrdMap.mem_entries_iff.2 hrows, ?_⟩
      exact List.mem_map.2 ⟨m, hmem, by rw [hid]⟩

/-- **A row whose status changed is renewed.** -/
theorem mem_renewed (h : s.statusAt threadId messageId ≠ s'.statusAt threadId messageId) :
    (threadId, messageId) ∈ s.renewed s' := by
  refine List.mem_filter.2 ⟨List.mem_append.2 ?_, decide_eq_true h⟩
  by_cases hbefore : s.statusAt threadId messageId = none
  · exact .inr (mem_listed fun hafter => h (hbefore.trans hafter.symm))
  · exact .inl (mem_listed hbefore)

end Store

end RezChat.Messages
