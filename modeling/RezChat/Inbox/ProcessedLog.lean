/-
The processed-deposit log (`inbox/ProcessedDepositLog.js`).

Two families of markers in the global key-value store, both kept per mailbox
and event: "already decrypted and consumed", which lets the pipeline skip the
one step it cannot repeat, and the failed-decrypt attempt counter that bounds
the retries of a poison deposit. Each marker is a single key, and each key is
the concatenation of a prefix, the mailbox, a colon and the event.
-/
import RezChat.Lib.Async
import RezChat.Lib.OrdMap
import RezChat.Inbox.Frame

set_option autoImplicit false

namespace RezChat.Inbox

open List Proc

structure ProcessedMarker where
  mailboxId : String
  eventId : String
  processedAtMs : Int

structure AttemptRecord where
  mailboxId : String
  eventId : String
  attempts : Nat
  firstSeenAtMs : Int
  lastAttemptAtMs : Int

/-- The part of the key-value store the log owns. -/
structure ProcessedKv where
  processed : OrdMap String ProcessedMarker := OrdMap.empty
  attempts : OrdMap String AttemptRecord := OrdMap.empty

namespace ProcessedLog

def keyPrefix : String := "chat-server:inbox:processed:v1:"

def attemptPrefix : String := "chat-server:inbox:attempts:v1:"

/-- What the two keys of an event have in common. -/
def logKey (id : DepositId) : String := id.mailboxId ++ ":" ++ id.dedupId

def key (id : DepositId) : String := keyPrefix ++ logKey id

def attemptKey (id : DepositId) : String := attemptPrefix ++ logKey id

/-- `#ids`: both halves trimmed, or `none` when one of them is empty. -/
def ids (mailboxId eventId : String) : Option DepositId :=
  if trim mailboxId = "" ∨ trim eventId = "" then none
  else some ⟨trim mailboxId, trim eventId⟩

/-- `has`: whether the event was already decrypted and consumed. -/
def has (mailboxId eventId : String) : Proc ProcessedKv Bool :=
  match ids mailboxId eventId with
  | none => pure false
  | some id => await fun kv => (kv.processed.has (key id), kv)

/-- The store with a marker written under the key of the deposit. -/
def withMarker (kv : ProcessedKv) (id : DepositId) (nowMs : Int) : ProcessedKv :=
  { kv with processed := kv.processed.set (key id) ⟨id.mailboxId, id.dedupId, nowMs⟩ }

/-- The store without a marker under the key of the deposit. -/
def withoutMarker (kv : ProcessedKv) (id : DepositId) : ProcessedKv :=
  { kv with processed := kv.processed.delete (key id) }

def mark (mailboxId eventId : String) (nowMs : Int) : Proc ProcessedKv Unit :=
  match ids mailboxId eventId with
  | none => pure ()
  | some id => await fun kv => ((), withMarker kv id nowMs)

def forget (mailboxId eventId : String) : Proc ProcessedKv Unit :=
  match ids mailboxId eventId with
  | none => pure ()
  | some id => await fun kv => ((), withoutMarker kv id)

/-- Increment the failed-decrypt attempt counter and return the new count. The
time of the first failure is set once and preserved. -/
def recordAttempt (mailboxId eventId : String) (nowMs : Int) : Proc ProcessedKv Nat :=
  match ids mailboxId eventId with
  | none => pure 0
  | some id => do
    let stored ← await fun kv => (kv.attempts.get? (attemptKey id), kv)
    let attempts := (stored.map AttemptRecord.attempts).getD 0 + 1
    let firstSeenAtMs := (stored.map AttemptRecord.firstSeenAtMs).getD nowMs
    await fun kv => ((), { kv with
      attempts := kv.attempts.set (attemptKey id)
        ⟨id.mailboxId, id.dedupId, attempts, firstSeenAtMs, nowMs⟩ })
    pure attempts

/-- The time of the first recorded failure, 0 if there is none. -/
def firstSeenAtMs (mailboxId eventId : String) : Proc ProcessedKv Int :=
  match ids mailboxId eventId with
  | none => pure 0
  | some id => await fun kv =>
      (((kv.attempts.get? (attemptKey id)).map AttemptRecord.firstSeenAtMs).getD 0, kv)

def clearAttempts (mailboxId eventId : String) : Proc ProcessedKv Unit :=
  match ids mailboxId eventId with
  | none => pure ()
  | some id => await fun kv => ((), { kv with
      attempts := kv.attempts.delete (attemptKey id) })

/-! ## Markers and keys -/

/-- A processed marker stands under the key of the deposit. -/
def Marked (kv : ProcessedKv) (id : DepositId) : Prop := kv.processed.has (key id) = true

instance (kv : ProcessedKv) (id : DepositId) : Decidable (Marked kv id) :=
  inferInstanceAs (Decidable (_ = true))

theorem key_eq_iff {id id' : DepositId} : key id = key id' ↔ logKey id = logKey id' := by
  constructor
  · intro h
    have hl := congrArg String.toList h
    rw [key, key, String.toList_append, String.toList_append] at hl
    exact String.toList_inj.1 (append_cancel_left hl)
  · intro h
    rw [key, key, h]

/-- The identities a durable home hands out: a mailbox and a sequence number. -/
def Sequenced (id : DepositId) : Prop := ∃ n, id.dedupId = seqKey n

/-- No two sequenced deposits share a key, whatever characters their mailboxes
are named with: the digits after the last colon are the sequence number, and
what is before them ends in the same four characters. -/
theorem logKey_injOn_sequenced {id id' : DepositId} (h : Sequenced id) (h' : Sequenced id')
    (hk : logKey id = logKey id') : id = id' := by
  obtain ⟨m, n⟩ := id
  obtain ⟨m', n'⟩ := id'
  obtain ⟨i, rfl⟩ := h
  obtain ⟨j, rfl⟩ := h'
  have hl := congrArg (fun s : String => s.toList.reverse) hk
  simp only [logKey, String.toList_append, toList_seqKey, reverse_append] at hl
  -- reversed, both lists start with digits, and a colon follows the digits
  have hspan : ∀ (k : Nat) (rest : List Char),
      ((Nat.toDigits 10 k).reverse ++ (':' :: rest)).takeWhile Char.isDigit
        = (Nat.toDigits 10 k).reverse := by
    intro k rest
    rw [takeWhile_append_of_pos, takeWhile_cons_of_neg, append_nil]
    · decide
    · intro c hc
      exact Nat.isDigit_of_mem_toDigits (by decide) (by decide) (mem_reverse.1 hc)
  have hdigits : (Nat.toDigits 10 i).reverse = (Nat.toDigits 10 j).reverse := by
    have := congrArg (takeWhile Char.isDigit) hl
    simpa [append_assoc, hspan] using this
  have hij : i = j := by
    have := congrArg (fun l => Nat.ofDigitChars 10 l.reverse 0) hdigits
    simpa [Nat.ofDigitChars_ten_toDigits] using this
  subst hij
  have hm : m.toList = m'.toList := by
    have := append_cancel_left hl
    simpa using this
  rw [String.toList_inj.1 hm]

/-! ## What each operation can do -/

section Rules

variable {mailboxId eventId : String} {kv : ProcessedKv} {E D : ProcessedKv → Prop}

theorem has_spec {R : Bool → ProcessedKv → Prop}
    (nameless : ids mailboxId eventId = none → R false kv)
    (read : ∀ id, ids mailboxId eventId = some id → R (kv.processed.has (key id)) kv)
    (hE : E kv) (hD : D kv) : wp (has mailboxId eventId) R E D kv := by
  rw [has]
  cases hid : ids mailboxId eventId with
  | none => exact wp_pure (nameless hid)
  | some id => exact wp_await_read (read id hid) hE hD

theorem mark_spec {nowMs : Int} {R : Unit → ProcessedKv → Prop}
    (nameless : ids mailboxId eventId = none → R () kv)
    (marked : ∀ id, ids mailboxId eventId = some id →
      R () (withMarker kv id nowMs) ∧ E (withMarker kv id nowMs))
    (hE : E kv) (hD : D kv) : wp (mark mailboxId eventId nowMs) R E D kv := by
  rw [mark]
  cases hid : ids mailboxId eventId with
  | none => exact wp_pure (nameless hid)
  | some id => exact wp_await (marked id hid).1 hE (marked id hid).2 hD

theorem forget_spec {R : Unit → ProcessedKv → Prop}
    (nameless : ids mailboxId eventId = none → R () kv)
    (forgotten : ∀ id, ids mailboxId eventId = some id →
      R () (withoutMarker kv id) ∧ E (withoutMarker kv id))
    (hE : E kv) (hD : D kv) : wp (forget mailboxId eventId) R E D kv := by
  rw [forget]
  cases hid : ids mailboxId eventId with
  | none => exact wp_pure (nameless hid)
  | some id => exact wp_await (forgotten id hid).1 hE (forgotten id hid).2 hD

end Rules

/-- Marking marks that deposit, and leaves every other marker as it was. -/
theorem marked_withMarker {kv : ProcessedKv} {id id' : DepositId} {nowMs : Int} :
    Marked (withMarker kv id nowMs) id' ↔ logKey id' = logKey id ∨ Marked kv id' := by
  simp only [Marked, withMarker, OrdMap.has_set, Bool.or_eq_true, decide_eq_true_eq,
    key_eq_iff]

/-- Forgetting removes a marker and adds none. -/
theorem marked_withoutMarker {kv : ProcessedKv} {id id' : DepositId}
    (h : Marked (withoutMarker kv id) id') : Marked kv id' := by
  simp only [Marked, withoutMarker, OrdMap.has_delete, Bool.and_eq_true] at h
  exact h.2

theorem ids_self {id : DepositId} (hm : trim id.mailboxId = id.mailboxId)
    (hd : trim id.dedupId = id.dedupId) (hm' : id.mailboxId ≠ "") (hd' : id.dedupId ≠ "") :
    ids id.mailboxId id.dedupId = some id := by
  rw [ids, hm, hd, if_neg (by tauto)]

end ProcessedLog

end RezChat.Inbox
