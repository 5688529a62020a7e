/-
Signed mutations and the facts that they were signed for.

A signed edit or tombstone names the fact it is for, by its fingerprint; the message id is
there to find the row. The fingerprint is checked when the mutation is admitted: that it was
signed. It is not handed on: `handleIncomingEdit` passes the id, the row is found by the id,
and what is buffered for an id has no fingerprint either. So a mutation for one fact changes
the row of another, wherever two facts have one id.

Nothing but the id and the author stands between them. A run in which signed mutations only
change rows of their fact is one in which each finds its fact under the id
(`run_bound_iff`).
-/
import RezChat.Messages.History
import RezChat.Messages.Disambiguated

set_option autoImplicit false

namespace RezChat.Messages

open Bool Store

open Inbox (trim trim_trim trimmed)

variable {c : Collation}

/-! ## The handlers -/

/-- The fields of `ChatMessageEditPayloadV1` and `ChatMessageTombstonePayloadV1` that the
handlers read, and the fingerprint that they do not. -/
structure MutationRecord where
  threadId : String
  targetMessageId : String
  senderAccountId : String
  change : Change
  targetFingerprint : String

/-- `ctx.senderAccountId` or `ctx.threadId`, if there is one, and else what the record says. -/
def fromContext (ctx own : String) : String := if trim ctx = "" then own else trim ctx

/-- What `handleIncomingEdit` and `handleIncomingTombstone` call the store with. -/
def MutationRecord.mutation (r : MutationRecord) (ctxThreadId ctxSenderAccountId : String)
    (now : Int) : PendingMutation :=
  ⟨fromContext ctxThreadId r.threadId, r.targetMessageId,
    fromContext ctxSenderAccountId r.senderAccountId, r.change, now, r.targetFingerprint⟩

/-- `handleIncomingEdit` and `handleIncomingTombstone`. -/
def handleIncoming (r : MutationRecord) (ctxThreadId ctxSenderAccountId : String) (now : Int)
    (s : Store c) : Store c :=
  (s.applyMutation (r.mutation ctxThreadId ctxSenderAccountId now) true).1

/-! ## The law -/

/-- An edit or a tombstone that was signed for a fact. -/
def PendingMutation.Signed (mu : PendingMutation) : Prop :=
  mu.change.ofAuthor = true ∧ mu.targetFingerprint ≠ ""

/-- The fact with the fingerprint is in the log of the thread. -/
def Store.HasFact (s : Store c) (threadId fingerprint : String) : Prop :=
  s.facts.fact? threadId fingerprint ≠ none

/-- A row was changed by a mutation for its own fact, and the fact is there. -/
def Store.Bound (s : Store c) (e : Applied) : Prop :=
  e.mutation.Signed → e.row.contentHash = e.mutation.targetFingerprint ∧
    s.HasFact e.threadId e.mutation.targetFingerprint

/-- Every row that the call changes is changed by a mutation for its own fact. -/
def Store.ChangesBound (s : Store c) (op : Op) : Prop :=
  ∀ new, (s.step op).applied = s.applied ++ new → ∀ e ∈ new, s.Bound e

/-! ## When a row is changed -/

section Applies

variable {mu : PendingMutation} {m : ChatMessage}

/-- A mutation of the author changes a row that is of the author, or nobody's, and that is
not taken back; an edit, if it is later than the last. -/
def PendingMutation.Passes (mu : PendingMutation) (m : ChatMessage) : Prop :=
  m.isForeign mu.senderAccountId = false ∧ isSet m.tombstonedAtMs = false ∧
  match mu.change with
  | .edit _ editedAtMs => 0 < editedAtMs ∧
      (isSet m.editedAtMs = true → m.editedAtMs.getD 0 < editedAtMs)
  | .tombstone tombstonedAtMs => 0 < tombstonedAtMs
  | .reaction _ _ => False

theorem applies_iff (h : mu.change.ofAuthor = true) : mu.Applies m ↔ mu.Passes m := by
  rw [PendingMutation.Applies, PendingMutation.Passes, PendingMutation.malformed,
    PendingMutation.verdict]
  cases hch : mu.change with
  | edit x a =>
    rw [Change.verdict, editRow]
    constructor
    · rintro ⟨_, m', hm'⟩
      split_ifs at hm' with htomb hforeign hpos hstale
      refine ⟨eq_false_of_not_eq_true hforeign, eq_false_of_not_eq_true htomb,
        not_le.1 hpos, fun hset => ?_⟩
      by_contra hle
      exact hstale ⟨hset, not_lt.1 hle⟩
    · rintro ⟨hforeign, htomb, hpos, hlate⟩
      have hstale : ¬ (isSet m.editedAtMs = true ∧ a ≤ m.editedAtMs.getD 0) := by
        rintro ⟨hset, hle⟩
        exact absurd (hlate hset) (not_lt.2 hle)
      rw [htomb, hforeign, if_neg Bool.false_ne_true, if_neg Bool.false_ne_true,
        if_neg (not_le.2 hpos), if_neg hstale]
      exact ⟨rfl, _, rfl⟩
  | tombstone a =>
    rw [Change.verdict, tombstoneRow]
    constructor
    · rintro ⟨_, m', hm'⟩
      split_ifs at hm' with hforeign htomb hpos
      exact ⟨eq_false_of_not_eq_true hforeign, eq_false_of_not_eq_true htomb,
        not_le.1 hpos⟩
    · rintro ⟨hforeign, htomb, hpos⟩
      rw [htomb, hforeign, if_neg Bool.false_ne_true, if_neg Bool.false_ne_true,
        if_neg (not_le.2 hpos)]
      exact ⟨rfl, _, rfl⟩
  | reaction e op =>
    rw [hch] at h
    exact absurd h false_ne_true

end Applies

/-! ## The condition -/

/-- Under the ids of a call, signed mutations find their own facts:
* a mutation, if it passes on the row that is under its target;
* a deposit, if what waits for it passes on its row, each at its turn. -/
def Store.FindsOwnFact (s : Store c) : Op → Prop
  | .mutate mu _ =>
    mu.Signed → trim mu.threadId ≠ "" → trim mu.targetMessageId ≠ "" →
      ∀ m, s.row? (trim mu.threadId) (trim mu.targetMessageId) = some m → mu.Passes m →
      m.contentHash = mu.targetFingerprint ∧ s.HasFact (trim mu.threadId) mu.targetFingerprint
  | .deposit _ d =>
    trim d.threadId ≠ "" → trim d.messageId ≠ "" → s.readyThread? (trim d.threadId) ≠ none →
      ∀ effectiveMid, s.freeId? d = some effectiveMid →
      s.HasRoom (trim d.threadId) (d.row effectiveMid) →
      EachApplied (fun mu _ => mu.Signed → d.contentHash = mu.targetFingerprint ∧
        s.HasFact (trim d.threadId) mu.targetFingerprint)
        (byReceipt (s.pendingFor effectiveMid)) (d.row effectiveMid)
  | _ => True

section Law

variable {s : Store c}

/-- The fingerprint of a row stays what it is, until nothing passes any more. -/
theorem eachApplied_hash_iff {threadId hash : String} (mus : List PendingMutation)
    (m : ChatMessage) (hm : m.contentHash = hash ∨ isSet m.tombstonedAtMs = true) :
    EachApplied (fun mu m => s.Bound ⟨mu, threadId, m⟩) mus m ↔
      EachApplied (fun mu _ => mu.Signed → hash = mu.targetFingerprint ∧
        s.HasFact threadId mu.targetFingerprint) mus m := by
  induction mus generalizing m with
  | nil => exact .rfl
  | cons mu mus ih =>
    have hnext : (mu.settle m).contentHash = hash ∨ isSet (mu.settle m).tombstonedAtMs = true := by
      rcases settle_body mu m with ⟨hhash, htomb⟩ | ⟨_, htomb⟩
      · rw [hhash, htomb]
        exact hm
      · exact Or.inr htomb
    rw [EachApplied, EachApplied, ih _ hnext]
    refine and_congr_left fun _ => forall_congr' fun happ => forall_congr' fun hsigned => ?_
    -- a mutation of the author that changes the row finds it not taken back
    have hpass := (applies_iff hsigned.1).1 happ
    have hhash : m.contentHash = hash := by
      refine hm.resolve_right fun htomb => ?_
      rw [hpass.2.1] at htomb
      exact false_ne_true htomb
    rw [hhash]

theorem lawful_bound_iff (s : Store c) (op : Op) :
    s.Lawful s.Bound op ↔ s.FindsOwnFact op := by
  cases op with
  | deposit now d =>
    rw [lawful_deposit_iff]
    refine forall_congr' fun ht => forall_congr' fun hi => forall_congr' fun hready => ?_
    refine forall_congr' fun mid => forall_congr' fun hfree => forall_congr' fun hroom => ?_
    exact eachApplied_hash_iff _ _ (Or.inl rfl)
  | mutate mu allowBuffer =>
    rw [lawful_mutate_iff]
    constructor
    · intro h hsigned ht hi m hm hpass
      exact h ht hi m hm ((applies_iff hsigned.1).2 hpass) hsigned
    · intro h ht hi m hm happ hsigned
      exact h hsigned ht hi m hm ((applies_iff hsigned.1).1 happ)
  | mark threadId messageId => exact iff_of_true (fun e he => absurd he List.not_mem_nil) trivial
  | send now d => exact iff_of_true (fun e he => absurd he List.not_mem_nil) trivial
  | deleteLocal threadId messageId =>
    exact iff_of_true (fun e he => absurd he List.not_mem_nil) trivial
  | append call => exact iff_of_true (fun e he => absurd he List.not_mem_nil) trivial

/-- **One call** changes only rows of their own facts if signed mutations find these under
the ids. -/
theorem changesBound_iff (s : Store c) (op : Op) : s.ChangesBound op ↔ s.FindsOwnFact op := by
  rw [← lawful_bound_iff]
  constructor
  · intro h
    exact h (s.news op) (applied_step s op)
  · intro h new hnew
    rw [applied_step] at hnew
    rw [← List.append_cancel_left hnew]
    exact h

end Law

/-- A message `m1` of Alice, signed with a fingerprint. -/
def aliceSays (fingerprint text : String) : Op :=
  .deposit 1 ⟨"m1", "t1", "alice", "", 1, "alice", none, text,
    some { contentHash := some fingerprint }⟩

/-- Two texts that Alice signed under one id are in the log, and the first is shown. -/
def twoFacts : Store Collation.byCodePoint :=
  Runs.run step (withThreads groupThread)
    [.append (aliceSigned "F1"), aliceSays "F1" "one", .append (aliceSigned "F2")]

/-- An edit by Alice that was signed for a fact. -/
def aliceEdits (targetFingerprint : String) : MutationRecord :=
  ⟨"t1", "m1", "alice", .edit "edited" 5, targetFingerprint⟩

end RezChat.Messages
