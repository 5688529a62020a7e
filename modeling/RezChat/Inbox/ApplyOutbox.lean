/-
The durable apply-outbox (`inbox/InboundApplyOutbox.js`).

Once a deposit is decrypted the ratchet has advanced past its ciphertext, so
the plaintext is staged here before the deposit may be acknowledged. The staged
entries of one mailbox live in one key-value record, a plain object from the
deduplication id to the entry, and every mutation reads that record, changes it
and writes it back in a single `set` (or deletes it, when the last entry went).
Each of those two storage calls is an await of its own.

The record being a plain object shows in one place. The code asks
`map[dedupId] != null`, and for a name that every object inherits from
`Object.prototype` the answer is yes although nothing is staged under it.
-/
import RezChat.Lib.Async
import RezChat.Lib.OrdMap
import RezChat.Inbox.Frame

set_option autoImplicit false

namespace RezChat.Inbox

open OrdMap Proc

/-- One staged payload and the accounting of its apply failures. -/
structure OutboxEntry (μ : Type) where
  mailboxId : String
  dedupId : String
  userMessage : μ
  attempts : Nat
  firstStagedAtMs : Int
  lastAttemptAtMs : Option Int

/-- The staged entries of one mailbox. -/
abbrev MailboxMap (μ : Type) := OrdMap String (OutboxEntry μ)

/-- The part of the key-value store the outbox owns. -/
abbrev OutboxKv (μ : Type) := OrdMap String (MailboxMap μ)

namespace ApplyOutbox

variable {μ : Type}

def mailboxPrefix : String := "chat-server:inbox:apply-outbox:v1:"

def mailboxKey (mailboxId : String) : String := mailboxPrefix ++ mailboxId

/-- The names every object inherits from `Object.prototype`. -/
def inheritedNames : List String :=
  ["constructor", "__defineGetter__", "__defineSetter__", "hasOwnProperty",
   "__lookupGetter__", "__lookupSetter__", "isPrototypeOf", "propertyIsEnumerable",
   "toString", "valueOf", "__proto__", "toLocaleString"]

/-- `#ids`: both halves trimmed, or `none` when one of them is empty. -/
def ids (mailboxId dedupId : String) : Option DepositId :=
  if trim mailboxId = "" ∨ trim dedupId = "" then none
  else some ⟨trim mailboxId, trim dedupId⟩

/-- `map[dedupId] != null`. -/
def present (map : MailboxMap μ) (dedupId : String) : Bool :=
  inheritedNames.contains dedupId || map.has dedupId

/-- The record of a mailbox, normalized to an empty object. -/
def mapOf (kv : OutboxKv μ) (mailboxId : String) : MailboxMap μ :=
  (kv.get? (mailboxKey mailboxId)).getD OrdMap.empty

/-- The store with the record of a mailbox replaced, an empty record leaving no
key behind. -/
def withMap (kv : OutboxKv μ) (mailboxId : String) (map : MailboxMap μ) : OutboxKv μ :=
  if map.entries = [] then kv.delete (mailboxKey mailboxId)
  else kv.set (mailboxKey mailboxId) map

def loadMap (mailboxId : String) : Proc (OutboxKv μ) (MailboxMap μ) :=
  Proc.await fun kv => (mapOf kv mailboxId, kv)

def saveMap (mailboxId : String) (map : MailboxMap μ) : Proc (OutboxKv μ) Unit :=
  Proc.await fun kv => ((), withMap kv mailboxId map)

/-- Durably stage a decrypted payload. Idempotent: an existing entry keeps its
attempt counter. Returns `true` if a new entry was written. -/
def stage (mailboxId dedupId : String) (userMessage : μ) (nowMs : Int) :
    Proc (OutboxKv μ) Bool :=
  match ids mailboxId dedupId with
  | none => pure false
  | some id => do
    let map ← loadMap id.mailboxId
    if present map id.dedupId then pure false
    else do
      saveMap id.mailboxId (map.set id.dedupId
        { mailboxId := id.mailboxId, dedupId := id.dedupId, userMessage := userMessage
          attempts := 0, firstStagedAtMs := nowMs, lastAttemptAtMs := none })
      pure true

/-- Applied: remove the entry. -/
def markApplied (mailboxId dedupId : String) : Proc (OutboxKv μ) Unit :=
  match ids mailboxId dedupId with
  | none => pure ()
  | some id => do
    let map ← loadMap id.mailboxId
    if present map id.dedupId then saveMap id.mailboxId (map.delete id.dedupId)
    else pure ()

/-- What `recordApplyFailure` returns. -/
structure FailureCount where
  attempts : Nat
  firstStagedAtMs : Option Int

/-- Count an apply failure; the entry stays staged for retry. Under an inherited
name there is no entry to count on: the object the code writes there has neither
a `dedupId` nor a payload, no reader of the record makes anything of it, and the
record is modelled as written back unchanged. -/
def recordApplyFailure (mailboxId dedupId : String) (nowMs : Int) :
    Proc (OutboxKv μ) FailureCount :=
  match ids mailboxId dedupId with
  | none => pure ⟨0, none⟩
  | some id => do
    let map ← loadMap id.mailboxId
    match map.get? id.dedupId with
    | some entry => do
      saveMap id.mailboxId (map.set id.dedupId
        { entry with attempts := entry.attempts + 1, lastAttemptAtMs := some nowMs })
      pure ⟨entry.attempts + 1, some entry.firstStagedAtMs⟩
    | none =>
      if inheritedNames.contains id.dedupId then do
        saveMap id.mailboxId map
        pure ⟨1, none⟩
      else pure ⟨0, none⟩

/-- All currently staged entries of a mailbox, for the retry pass. -/
def listPending (mailboxId : String) : Proc (OutboxKv μ) (List (OutboxEntry μ)) :=
  if trim mailboxId = "" then pure []
  else do
    let map ← loadMap (trim mailboxId)
    pure map.values

/-! ## The records of the store -/

/-- The outbox holds an entry of the deposit. -/
def Holds (kv : OutboxKv μ) (id : DepositId) : Prop :=
  (mapOf kv id.mailboxId).has id.dedupId = true

instance (kv : OutboxKv μ) (id : DepositId) : Decidable (Holds kv id) :=
  inferInstanceAs (Decidable (_ = true))

theorem mailboxKey_injective {m n : String} (h : mailboxKey m = mailboxKey n) : m = n := by
  have hl := congrArg String.toList h
  rw [mailboxKey, mailboxKey, String.toList_append, String.toList_append] at hl
  exact String.toList_inj.1 (List.append_cancel_left hl)

/-- Replacing the record of one mailbox is seen by that mailbox alone. -/
theorem mapOf_withMap (kv : OutboxKv μ) (m m' : String) (map : MailboxMap μ) :
    mapOf (withMap kv m map) m' = if m' = m then map else mapOf kv m' := by
  have hkey : ∀ h : m' ≠ m, mailboxKey m' ≠ mailboxKey m :=
    fun h he => h (mailboxKey_injective he)
  by_cases hmap : map.entries = []
  · rw [withMap, if_pos hmap, mapOf]
    by_cases hm : m' = m
    · rw [if_pos hm, hm, get?_delete_self]
      exact OrdMap.ext hmap.symm
    · rw [if_neg hm, get?_delete_of_ne _ (hkey hm), mapOf]
  · rw [withMap, if_neg hmap, mapOf]
    by_cases hm : m' = m
    · rw [if_pos hm, hm, get?_set_self, Option.getD_some]
    · rw [if_neg hm, get?_set_of_ne _ _ (hkey hm), mapOf]

/-- The store after an entry was written for the deposit. -/
def written (kv : OutboxKv μ) (id : DepositId) (entry : OutboxEntry μ) : OutboxKv μ :=
  withMap kv id.mailboxId ((mapOf kv id.mailboxId).set id.dedupId entry)

/-- The store after the entry of the deposit was removed. -/
def removed (kv : OutboxKv μ) (id : DepositId) : OutboxKv μ :=
  withMap kv id.mailboxId ((mapOf kv id.mailboxId).delete id.dedupId)

/-- The entry the outbox holds for a deposit. -/
def entryOf (kv : OutboxKv μ) (id : DepositId) : Option (OutboxEntry μ) :=
  (mapOf kv id.mailboxId).get? id.dedupId

theorem holds_iff {kv : OutboxKv μ} {id : DepositId} :
    Holds kv id ↔ ∃ entry, entryOf kv id = some entry :=
  has_iff

theorem entryOf_written (kv : OutboxKv μ) (id id' : DepositId) (entry : OutboxEntry μ) :
    entryOf (written kv id entry) id' = if id' = id then some entry else entryOf kv id' := by
  rw [entryOf, written, mapOf_withMap]
  by_cases hm : id'.mailboxId = id.mailboxId
  · rw [if_pos hm, get?_set]
    by_cases hd : id'.dedupId = id.dedupId
    · rw [if_pos hd, if_pos (by cases id; cases id'; cases hm; cases hd; rfl)]
    · rw [if_neg hd, if_neg (fun h => hd (congrArg DepositId.dedupId h)), entryOf, hm]
  · rw [if_neg hm, if_neg (fun h => hm (congrArg DepositId.mailboxId h)), entryOf]

@[simp] theorem entryOf_withMap_self (kv : OutboxKv μ) (id : DepositId) (m : String) :
    entryOf (withMap kv m (mapOf kv m)) id = entryOf kv id := by
  rw [entryOf, mapOf_withMap]
  by_cases hm : id.mailboxId = m
  · rw [if_pos hm, entryOf, hm]
  · rw [if_neg hm, entryOf]

/-- An entry stays there unless the very deposit is removed. -/
theorem holds_written {kv : OutboxKv μ} {id id' : DepositId} {entry : OutboxEntry μ}
    (h : Holds kv id') : Holds (written kv id entry) id' := by
  rw [holds_iff] at h ⊢
  rw [entryOf_written]
  by_cases hid : id' = id
  · exact ⟨entry, if_pos hid⟩
  · rwa [if_neg hid]

theorem holds_written_self (kv : OutboxKv μ) (id : DepositId) (entry : OutboxEntry μ) :
    Holds (written kv id entry) id := by
  rw [holds_iff, entryOf_written]
  exact ⟨entry, if_pos rfl⟩

/-! ## What each operation can do

One rule for each method: it names every store the method can leave behind and
every value it can return, so that no caller looks inside. -/

section Rules

variable {mailboxId dedupId : String} {kv : OutboxKv μ} {E D : OutboxKv μ → Prop}

/-- **Staging.** Nothing happens for a deposit without an identity or for one
that is already present; else a fresh entry is written. -/
theorem stage_spec {userMessage : μ} {nowMs : Int} {R : Bool → OutboxKv μ → Prop}
    (nameless : ids mailboxId dedupId = none → R false kv)
    (held : ∀ id, ids mailboxId dedupId = some id →
      present (mapOf kv id.mailboxId) id.dedupId = true → R false kv)
    (fresh : ∀ id, ids mailboxId dedupId = some id →
      present (mapOf kv id.mailboxId) id.dedupId = false →
      ∀ kv', kv' = written kv id
        ⟨id.mailboxId, id.dedupId, userMessage, 0, nowMs, none⟩ → R true kv' ∧ E kv')
    (hE : E kv) (hD : D kv) :
    wp (stage mailboxId dedupId userMessage nowMs) R E D kv := by
  rw [stage]
  cases hid : ids mailboxId dedupId with
  | none => exact wp_pure (nameless hid)
  | some id =>
    refine wp_bind (wp_await_read ?_ hE hD)
    by_cases hp : present (mapOf kv id.mailboxId) id.dedupId = true
    · rw [if_pos hp]
      exact wp_pure (held id hid hp)
    · rw [if_neg hp]
      have hf := fresh id hid (Bool.eq_false_iff.2 hp) _ rfl
      exact wp_bind (wp_await (wp_pure hf.1) hE hf.2 hD)

/-- **Removal.** The entry of the deposit goes, and nothing else. -/
theorem markApplied_spec {R : Unit → OutboxKv μ → Prop}
    (unchanged : R () kv) (gone : ∀ id, ids mailboxId dedupId = some id →
      R () (removed kv id) ∧ E (removed kv id))
    (hE : E kv) (hD : D kv) :
    wp (markApplied mailboxId dedupId) R E D kv := by
  rw [markApplied]
  cases hid : ids mailboxId dedupId with
  | none => exact wp_pure unchanged
  | some id =>
    refine wp_bind (wp_await_read ?_ hE hD)
    by_cases hp : present (mapOf kv id.mailboxId) id.dedupId = true
    · rw [if_pos hp]
      exact wp_await (gone id hid).1 hE (gone id hid).2 hD
    · rw [if_neg hp]
      exact wp_pure unchanged

/-- **Counting a failure.** Either nothing is counted, or the entry of the
deposit is there and stays there, with one attempt more. -/
theorem recordApplyFailure_spec {nowMs : Int} {R : FailureCount → OutboxKv μ → Prop}
    (unchanged : ∀ c kv', (∀ id, entryOf kv' id = entryOf kv id) → R c kv' ∧ E kv')
    (counted : ∀ id entry, ids mailboxId dedupId = some id → entryOf kv id = some entry →
      ∀ kv', kv' = written kv id
        { entry with attempts := entry.attempts + 1, lastAttemptAtMs := some nowMs } →
      R ⟨entry.attempts + 1, some entry.firstStagedAtMs⟩ kv' ∧ E kv')
    (hD : D kv) :
    wp (recordApplyFailure mailboxId dedupId nowMs) R E D kv := by
  have hE : E kv := (unchanged ⟨0, none⟩ kv fun _ => rfl).2
  rw [recordApplyFailure]
  cases hid : ids mailboxId dedupId with
  | none => exact wp_pure (unchanged _ kv fun _ => rfl).1
  | some id =>
    refine wp_bind (wp_await_read ?_ hE hD)
    cases he : (mapOf kv id.mailboxId).get? id.dedupId with
    | some entry =>
      have hc := counted id entry hid he _ rfl
      exact wp_bind (wp_await (wp_pure hc.1) hE hc.2 hD)
    | none =>
      by_cases hn : inheritedNames.contains id.dedupId = true
      · simp only [if_pos hn]
        have hu := unchanged ⟨1, none⟩ (withMap kv id.mailboxId (mapOf kv id.mailboxId))
          fun id' => entryOf_withMap_self kv id' id.mailboxId
        exact wp_bind (wp_await (wp_pure hu.1) hE hu.2 hD)
      · simp only [if_neg hn]
        exact wp_pure (unchanged _ kv fun _ => rfl).1

/-- **Listing.** Only reads; what is listed is held, under the key it is listed
from. -/
theorem listPending_spec {R : List (OutboxEntry μ) → OutboxKv μ → Prop}
    (listed : ∀ l : List (OutboxEntry μ),
      (∀ e ∈ l, ∃ d, entryOf kv ⟨trim mailboxId, d⟩ = some e) → R l kv)
    (hE : E kv) (hD : D kv) : wp (listPending mailboxId) R E D kv := by
  rw [listPending]
  by_cases hm : trim mailboxId = ""
  · rw [if_pos hm]
    exact wp_pure (listed [] (by simp))
  · rw [if_neg hm]
    refine wp_bind (wp_await_read (wp_pure (listed _ ?_)) hE hD)
    intro e he
    exact mem_values_iff.1 he

end Rules

/-- An identity whose halves are trimmed and not empty is its own key. -/
theorem ids_self {id : DepositId} (hm : trim id.mailboxId = id.mailboxId)
    (hd : trim id.dedupId = id.dedupId) (hm' : id.mailboxId ≠ "") (hd' : id.dedupId ≠ "") :
    ids id.mailboxId id.dedupId = some id := by
  rw [ids, hm, hd, if_neg (by tauto)]

end ApplyOutbox

end RezChat.Inbox
