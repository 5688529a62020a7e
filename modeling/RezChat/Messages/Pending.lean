/-
Mutations that come before their message.

A mutation whose target is not there waits under the id of its target. When a message with
that id is deposited, what waits is applied to its row, in the order of receipt. So a
deposit may come at any point among the mutations of its message: the row at the end is the
one that the deposit and then the mutations lead to (`interleaved_eq_in_order`), unless the
buffer loses one of them, or they hide what the deposit should have been compared with.

The mutations of a message wait under its id alone, and not under its thread, although each
of them knows its thread. A deposit in another thread, under the same id, takes them. The
runs in which that does not happen are those in which every mutation is only applied in its
own thread (`run_ownThread_iff`).
-/
import RezChat.Messages.History
import RezChat.Messages.Convergence

set_option autoImplicit false

namespace RezChat.Messages

open Store PendingMutation Ranking List Collation ChatMessage Sublist

open Inbox (trim trim_trim trimmed)

variable {c : Collation}

/-! ## Several mutations of one row -/

/-- The row with an id, as the mutations leave it; every other row as it is. -/
def settleAllAt (mus : List PendingMutation) (target : String) (m : ChatMessage) : ChatMessage :=
  if m.messageId = target then settleAll mus m else m

/-- A mutation that leaves every row as it is: one that is malformed, or has no time. -/
def PendingMutation.idle (mu : PendingMutation) : Bool :=
  mu.malformed ||
  match mu.change with
  | .edit _ editedAtMs => decide (editedAtMs ≤ 0)
  | .tombstone tombstonedAtMs => decide (tombstonedAtMs ≤ 0)
  | .reaction _ _ => false

/-- The buffer takes the mutation, or nothing is lost if it does not. -/
def PendingMutation.Accepted (mu : PendingMutation) : Prop := mu.valid = true ∨ mu.idle = true

section Settle

variable {mu : PendingMutation} {mus : List PendingMutation} {m : ChatMessage}
  {target : String}

theorem settle_idle (h : mu.idle = true) : mu.settle m = m := by
  rw [idle, Bool.or_eq_true] at h
  rcases h with h | h
  · rw [settle, if_pos h]
  · rw [settle]
    by_cases hmal : mu.malformed = true
    · rw [if_pos hmal]
    · rw [if_neg hmal, verdict]
      obtain ⟨t, i, sender, ch, at_, fp⟩ := mu
      cases ch with
      | edit x a =>
        have ha : a ≤ 0 := of_decide_eq_true h
        rw [Change.verdict, editRow]
        split_ifs
        · rfl
        · rfl
        · rfl
      | tombstone a =>
        have ha : a ≤ 0 := of_decide_eq_true h
        rw [Change.verdict, tombstoneRow]
        split_ifs
        · rfl
        · rfl
        · rfl
      | reaction e op => exact absurd h Bool.false_ne_true

/-- What the buffer does not take need not be applied. -/
theorem settleAll_filter_valid (h : ∀ mu ∈ mus, mu.Accepted) :
    settleAll (mus.filter valid) m = settleAll mus m := by
  induction mus generalizing m with
  | nil => rfl
  | cons mu mus ih =>
    have hrest : ∀ nu ∈ mus, nu.Accepted := fun nu hnu => h nu (mem_cons_of_mem mu hnu)
    rw [filter_cons]
    by_cases hv : mu.valid = true
    · rw [if_pos hv]
      exact ih hrest
    · rw [if_neg hv, ih hrest]
      have hidle := (h mu mem_cons_self).resolve_left hv
      show settleAll mus m = settleAll mus (mu.settle m)
      rw [settle_idle hidle]

theorem alike_settleAllAt (mus : List PendingMutation) (target : String) (m : ChatMessage) :
    Alike m (settleAllAt mus target m) := by
  rw [settleAllAt]
  split_ifs
  · exact alike_settleAll mus m
  · exact Alike.refl m

theorem newestFirst_alike {m m' n n' : ChatMessage} (hm : Alike m m') (hn : Alike n n') :
    newestFirst c m' n' ↔ newestFirst c m n := by
  rw [newestFirst, newestFirst, hm.createdAtMs, hm.messageId, hn.createdAtMs, hn.messageId]

/-- A flag and a mutation do not notice each other. -/
theorem settle_flag (mu : PendingMutation) (m : ChatMessage) :
    mu.settle { m with conflicted := true } = { mu.settle m with conflicted := true } := by
  have hforeign : ∀ sender : String,
      isForeign { m with conflicted := true } sender = m.isForeign sender := fun _ => rfl
  have hreactors : ∀ emoji : String,
      reactors { m with conflicted := true } emoji = m.reactors emoji := fun _ => rfl
  rw [settle, settle]
  by_cases hmal : mu.malformed = true
  · rw [if_pos hmal, if_pos hmal]
  · rw [if_neg hmal, if_neg hmal, verdict, verdict]
    cases mu.change with
    | edit x a =>
      rw [Change.verdict, editRow, editRow, hforeign]
      split_ifs
      · rfl
      · rfl
      · rfl
      · rfl
      · rfl
    | tombstone a =>
      rw [Change.verdict, tombstoneRow, tombstoneRow, hforeign]
      split_ifs
      · rfl
      · rfl
      · rfl
      · rfl
    | reaction e op =>
      rw [Change.verdict, reactionRow, reactionRow, hreactors]
      split_ifs
      · rfl
      · rfl

theorem settleAll_flag (mus : List PendingMutation) (m : ChatMessage) :
    settleAll mus { m with conflicted := true } = { settleAll mus m with conflicted := true } := by
  induction mus generalizing m with
  | nil => rfl
  | cons mu mus ih =>
    show settleAll mus (mu.settle { m with conflicted := true }) = _
    rw [settle_flag]
    exact ih (mu.settle m)

theorem contentHash_settleAll (mus : List PendingMutation) (m : ChatMessage) :
    (settleAll mus m).contentHash = m.contentHash ∨ (settleAll mus m).contentHash = "" := by
  induction mus generalizing m with
  | nil => exact .inl rfl
  | cons mu mus ih =>
    rcases ih (mu.settle m) with h | h
    · rcases settle_body mu m with ⟨h', _⟩ | ⟨h', _⟩
      · exact .inl (h.trans h')
      · exact .inr (h.trans h')
    · exact .inr h

end Settle

/-! ## Calls before the deposit -/

section Before

variable {s : Store c} {mu : PendingMutation} {threadId messageId : String}

theorem threads_applyMutation (mu : PendingMutation) (allowBuffer : Bool) (s : Store c) :
    (s.applyMutation mu allowBuffer).1.threads = s.threads := by
  rcases applyMutation_cases mu allowBuffer s with h | ⟨m, m', _, _, _, h⟩ | ⟨_, _, h⟩
  · rw [h]
  · rw [h]
    exact threads_withIdempotency _ _ _
  · rw [h, bufferMutationUnlocked, writePendingMutations]
    split_ifs
    · rfl
    · rfl

theorem pendingFor_writePending (s : Store c) (target target' : String)
    (mus : List PendingMutation) : (s.writePendingMutations target mus).pendingFor target' =
      if target' = target then lastPending mus else s.pendingFor target' := by
  rw [writePendingMutations]
  by_cases hnil : mus = []
  · rw [if_pos hnil, pendingFor]
    dsimp only
    rw [OrdMap.get?_delete, hnil]
    split_ifs
    · rfl
    · rfl
  · rw [if_neg hnil, pendingFor]
    dsimp only
    rw [OrdMap.get?_set]
    split_ifs
    · rfl
    · rfl

/-- A call leaves what waits for other ids. -/
theorem pendingFor_applyMutation_of_ne (allowBuffer : Bool) {target : String}
    (h : target ≠ trim mu.targetMessageId) :
    (s.applyMutation mu allowBuffer).1.pendingFor target = s.pendingFor target := by
  rcases applyMutation_cases mu allowBuffer s with hs | ⟨m, m', _, _, _, hs⟩ | ⟨_, _, hs⟩
  · rw [hs]
  · rw [hs, pendingFor, pendingFor]
    exact congrArg (fun p => (p.get? target).getD []) (pending_withIdempotency _ _ _)
  · rw [hs, bufferMutationUnlocked, pendingFor_writePending, if_neg h]

/-- A call for a message that is not there is put behind what waits for it, if the buffer
takes it. -/
theorem pendingFor_applyMutation_missing (htargets : mu.Targets threadId messageId)
    (ht : trim threadId ≠ "") (hi : trim messageId ≠ "")
    (hmissing : s.row? (trim threadId) (trim messageId) = none)
    (hsorted : (s.pendingFor (trim messageId) ++ [mu]).Pairwise
      fun a b => a.receivedAtMs ≤ b.receivedAtMs)
    (hlen : (s.pendingFor (trim messageId)).length < maxPendingMutationsPerTarget) :
    (s.applyMutation mu true).1.pendingFor (trim messageId) =
      s.pendingFor (trim messageId) ++ [mu].filter valid := by
  obtain ⟨hthread, htarget⟩ := htargets
  have hargs : ¬ (trim mu.threadId = "" ∨ trim mu.targetMessageId = "") := by
    rw [hthread, htarget]
    rintro (h | h)
    · exact ht h
    · exact hi h
  have hcore : (s.applyCoreUnlocked mu (trim mu.threadId) (trim mu.targetMessageId)).1 = s :=
    applyCore_missing (by rw [hthread, htarget]; exact hmissing)
  have hlast : lastPending (byReceipt (s.pendingFor (trim messageId) ++ [mu])) =
      s.pendingFor (trim messageId) ++ [mu] := by
    have hle : (s.pendingFor (trim messageId) ++ [mu]).length - maxPendingMutationsPerTarget = 0 := by
      rw [length_append, length_singleton]
      omega
    rw [byReceipt, hsorted.insertionSort_eq, lastPending, hle, drop_zero]
  rw [applyMutation, if_neg hargs]
  dsimp only
  by_cases hv : mu.valid = true
  · -- a valid mutation is well formed, so that it is the row that is missing
    have hmal : mu.malformed = false := by
      rw [valid, Bool.and_eq_true] at hv
      rw [malformed]
      cases hch : mu.change with
      | edit x a => rfl
      | tombstone a => rfl
      | reaction e op =>
        rw [hch] at hv
        refine decide_eq_false fun h => ?_
        rcases h with h | h
        · exact (of_decide_eq_true hv.1).2.2.1 h
        · exact of_decide_eq_true hv.2 h
    have hresult : s.applyCoreUnlocked mu (trim mu.threadId) (trim mu.targetMessageId) =
        (s, ⟨false, false, "target_not_found", none, false⟩) := by
      have hall : ¬ (trim mu.threadId = "" ∨ trim mu.targetMessageId = "" ∨
          mu.malformed = true) := by
        rw [hmal, ← or_assoc]
        rintro (h | h)
        · exact hargs h
        · exact Bool.false_ne_true h
      rw [applyCoreUnlocked, if_neg hall, hthread, htarget, hmissing]
    rw [hresult]
    dsimp only
    have hbuffer : (!false && decide ("target_not_found" = "target_not_found") && true) = true := by
      rfl
    rw [hv, if_pos rfl, if_pos hbuffer, bufferMutationUnlocked, htarget,
      pendingFor_writePending, if_pos rfl, hlast, filter_singleton, hv]
    rfl
  · have hfilter : [mu].filter valid = [] := by
      rw [filter_singleton, Bool.eq_false_of_not_eq_true hv]
      rfl
    rw [hfilter, append_nil]
    split_ifs
    · rw [hcore]
    · rw [hcore]

/-- What calls for one message leave of a store in which it is not there. -/
structure Waiting (s s' : Store c) (threadId messageId : String) (mus : List PendingMutation) :
    Prop where
  rows : (s'.rows threadId).rows = (s.rows threadId).rows.map (settleAllAt mus messageId)
  threads : s'.threads = s.threads
  elsewhere : ∀ target, target ≠ messageId → s'.pendingFor target = s.pendingFor target

/-- The rows, and what waits elsewhere, after the calls. -/
theorem waiting_applyCalls (ht : trim threadId ≠ "") (hi : trim messageId ≠ "")
    (mus : List PendingMutation) (hmus : ∀ mu ∈ mus, mu.Targets threadId messageId)
    (s : Store c) :
    Waiting s (s.applyCalls mus) (trim threadId) (trim messageId) mus := by
  induction mus generalizing s with
  | nil =>
    refine ⟨?_, rfl, fun _ _ => rfl⟩
    refine ((map_congr_left fun x _ => ?_).trans (map_id _)).symm
    rw [settleAllAt]
    split_ifs
    · rfl
    · rfl
  | cons mu mus ih =>
    obtain ⟨hthread, htarget⟩ := hmus mu mem_cons_self
    have hrest := ih (fun nu hnu => hmus nu (mem_cons_of_mem mu hnu))
      (s.applyMutation mu true).1
    have hargs : ¬ (trim mu.threadId = "" ∨ trim mu.targetMessageId = "") := by
      rw [hthread, htarget]
      rintro (h | h)
      · exact ht h
      · exact hi h
    have hrows : ((s.applyMutation mu true).1.rows (trim threadId)).rows =
        (s.rows (trim threadId)).rows.map (settleAt mu (trim messageId)) := by
      have hbuffer : ∀ s' : Store c, (s'.bufferMutationUnlocked mu).rows = s'.rows := fun s' =>
        rows_congr (messages_writePending _ _ _)
      rw [← htarget, ← hthread, ← rows_applyCore (hthread ▸ ht) (htarget ▸ hi),
        applyMutation, if_neg hargs]
      dsimp only
      split_ifs
      · rw [hbuffer]
      · rfl
      · rfl
    refine ⟨?_, hrest.threads.trans (threads_applyMutation mu true s), fun target hne => ?_⟩
    · rw [applyCalls_cons, hrest.rows, hrows, map_map]
      refine map_congr_left fun x _ => ?_
      rw [Function.comp_apply, settleAllAt, settleAllAt, settleAt]
      by_cases hx : x.messageId = trim messageId
      · rw [if_pos hx, if_pos ((mu.alike_settle x).messageId.trans hx), if_pos hx]
        rfl
      · rw [if_neg hx, if_neg hx, if_neg hx]
    · rw [applyCalls_cons, hrest.elsewhere target hne]
      exact pendingFor_applyMutation_of_ne true (htarget.symm ▸ hne)

/-- What waits for the message after the calls. -/
theorem pendingFor_applyCalls (ht : trim threadId ≠ "") (hi : trim messageId ≠ "") :
    ∀ (mus : List PendingMutation) (s : Store c),
    (∀ mu ∈ mus, mu.Targets threadId messageId) →
    s.row? (trim threadId) (trim messageId) = none →
    (s.pendingFor (trim messageId) ++ mus).Pairwise (fun a b => a.receivedAtMs ≤ b.receivedAtMs) →
    (s.pendingFor (trim messageId) ++ mus).length ≤ maxPendingMutationsPerTarget →
    (s.applyCalls mus).pendingFor (trim messageId) =
      s.pendingFor (trim messageId) ++ mus.filter valid
  | [], s, _, _, _, _ => (append_nil _).symm
  | mu :: mus, s, hmus, hmissing, hsorted, hlen => by
    have htargets := hmus mu mem_cons_self
    have hone : (s.pendingFor (trim messageId) ++ [mu]).Pairwise
        fun a b => a.receivedAtMs ≤ b.receivedAtMs := by
      refine hsorted.sublist ?_
      exact append_left (singleton_sublist.2 mem_cons_self) _
    rw [length_append, length_cons] at hlen
    have hstep := pendingFor_applyMutation_missing htargets ht hi hmissing hone (by omega)
    have hmissing' : (s.applyMutation mu true).1.row? (trim threadId) (trim messageId) = none := by
      rw [row?_applyMutation (htargets.1 ▸ ht) (htargets.2 ▸ hi), htargets.1, htargets.2,
        if_pos ⟨rfl, rfl⟩, hmissing]
      rfl
    have hsub : ((s.applyMutation mu true).1.pendingFor (trim messageId) ++ mus).Sublist
        (s.pendingFor (trim messageId) ++ mu :: mus) := by
      rw [hstep, append_assoc]
      refine append_left ?_ _
      exact append_right filter_sublist mus
    have hrest := pendingFor_applyCalls ht hi mus (s.applyMutation mu true).1
      (fun nu hnu => hmus nu (mem_cons_of_mem mu hnu)) hmissing' (hsorted.sublist hsub)
      (le_trans hsub.length_le (by rw [length_append, length_cons]; omega))
    rw [applyCalls_cons, hrest, hstep, append_assoc, ← filter_append]
    rfl

end Before

/-! ## A deposit among the mutations -/

section Deposit

variable {s : Store c} {d : Deposit} {now : Int}

/-- What the mutations that come before a deposit may not do: overflow the buffer or be turned
away by it, if its message is not there yet; and if it is there, hide that the deposit differs
from it. -/
structure InOrder (s : Store c) (d : Deposit) (pre : List PendingMutation) : Prop where
  accepted : s.row? (trim d.threadId) (trim d.messageId) = none → ∀ mu ∈ pre, mu.Accepted
  received : s.row? (trim d.threadId) (trim d.messageId) = none →
    (s.pendingFor (trim d.messageId) ++ pre).Pairwise fun a b => a.receivedAtMs ≤ b.receivedAtMs
  bounded : s.row? (trim d.threadId) (trim d.messageId) = none →
    (s.pendingFor (trim d.messageId) ++ pre).length ≤ maxPendingMutationsPerTarget
  flags : ∀ existing, s.row? (trim d.threadId) (trim d.messageId) = some existing →
    d.Conflicts existing → d.Conflicts (settleAll pre existing)

variable {mus : List PendingMutation}

theorem conflicts_settleAll_iff {existing : ChatMessage}
    (h : d.Conflicts existing → d.Conflicts (settleAll mus existing)) :
    d.Conflicts (settleAll mus existing) ↔ d.Conflicts existing := by
  refine ⟨fun hc => ?_, h⟩
  obtain ⟨hd, he, hne, hsender, hsame⟩ := hc
  have hhash : (settleAll mus existing).contentHash = existing.contentHash :=
    (contentHash_settleAll mus existing).resolve_right he
  rw [hhash] at he hne
  rw [(alike_settleAll mus existing).senderAccountId] at hsame
  exact ⟨hd, he, hne, hsender, hsame⟩

theorem settleAllAt_of_ne {target : String} {m : ChatMessage}
    (h : m.messageId ≠ target) : settleAllAt mus target m = m := by
  rw [settleAllAt, if_neg h]

variable {s' : Store c}

/-- The rows of a store and of one in which mutations of a message were applied, by their
ids. -/
theorem row?_of_map {threadId target : String}
    (h : (s'.rows threadId).rows = (s.rows threadId).rows.map (settleAllAt mus target))
    (id : String) :
    s'.row? threadId id = (s.row? threadId id).map (settleAllAt mus target) :=
  get?_map (fun x => (alike_settleAllAt mus target x).messageId) h id

/-- The id that is free for a deposit is the same after mutations of its message. -/
theorem freeId?_of_map
    (h : (s'.rows (trim d.threadId)).rows =
      (s.rows (trim d.threadId)).rows.map (settleAllAt mus (trim d.messageId))) :
    s'.freeId? d = s.freeId? d :=
  freeId?_of_rows (fun x => (alike_settleAllAt mus _ x).messageId)
    (fun x => (alike_settleAllAt mus _ x).senderAccountId) h

theorem settleAll_append (mus nus : List PendingMutation) (m : ChatMessage) :
    settleAll (mus ++ nus) m = settleAll nus (settleAll mus m) := foldl_append

theorem byReceipt_sorted
    (h : mus.Pairwise fun a b => a.receivedAtMs ≤ b.receivedAtMs) : byReceipt mus = mus :=
  h.insertionSort_eq

/-- A deposit stored under another id than its own does not meet the mutations of its own. -/
theorem row?_insertDeposited_apart
    (h : Waiting s s' (trim d.threadId) (trim d.messageId) mus) (ht : trim d.threadId ≠ "")
    {effectiveMid : String} (he : effectiveMid ≠ "") (hne : effectiveMid ≠ trim d.messageId)
    (id : String) :
    (s'.insertDeposited now d effectiveMid).1.row? (trim d.threadId) id =
      ((s.insertDeposited now d effectiveMid).1.row? (trim d.threadId) id).map
        (settleAllAt mus (trim d.messageId)) := by
  have hput : ((s'.rows (trim d.threadId)).put (d.row effectiveMid)).rows =
      ((s.rows (trim d.threadId)).put (d.row effectiveMid)).rows.map
        (settleAllAt mus (trim d.messageId)) := by
    refine rows_put_map (fun x => (alike_settleAllAt mus _ x).messageId) (fun x y => ?_)
      h.rows (settleAllAt_of_ne hne)
    exact newestFirst_alike (alike_settleAllAt mus _ x) (alike_settleAllAt mus _ y)
  have hget : ∀ id', ((s'.rows (trim d.threadId)).put (d.row effectiveMid)).get? id' =
      (((s.rows (trim d.threadId)).put (d.row effectiveMid)).get? id').map
        (settleAllAt mus (trim d.messageId)) := fun id' =>
    get?_map (fun x => (alike_settleAllAt mus _ x).messageId) hput id'
  rw [row?_insertDeposited ht he, row?_insertDeposited ht he, h.elsewhere effectiveMid hne]
  by_cases hid : id = effectiveMid
  · rw [if_pos hid, if_pos hid, hget]
    cases hrow : ((s.rows (trim d.threadId)).put (d.row effectiveMid)).get? effectiveMid with
    | none => rw [Option.map_none, Option.map_none, Option.map_none]
    | some x =>
      -- the row has another id, before and after what waited for it
      have hx : x.messageId ≠ trim d.messageId := (get?_eq_some.1 hrow).2 ▸ hne
      have hx' : (settleAll (byReceipt (s.pendingFor effectiveMid)) x).messageId ≠
          trim d.messageId := by
        rw [(alike_settleAll _ x).messageId]
        exact hx
      rw [Option.map_some, settleAllAt_of_ne hx, Option.map_some, Option.map_some,
        settleAllAt_of_ne hx']
  · rw [if_neg hid, if_neg hid, hget]

/-- A deposit under its own id meets its mutations in the buffer. -/
theorem row?_insertDeposited_waiting
    (h : Waiting s s' (trim d.threadId) (trim d.messageId) mus) (ht : trim d.threadId ≠ "")
    (hi : trim d.messageId ≠ "")
    (hmissing : s.row? (trim d.threadId) (trim d.messageId) = none)
    (hpending : s'.pendingFor (trim d.messageId) =
      s.pendingFor (trim d.messageId) ++ mus.filter valid)
    (hin : InOrder s d mus) (id : String) :
    (s'.insertDeposited now d (trim d.messageId)).1.row? (trim d.threadId) id =
      ((s.insertDeposited now d (trim d.messageId)).1.row? (trim d.threadId) id).map
        (settleAllAt mus (trim d.messageId)) := by
  have hrows : s'.rows (trim d.threadId) = s.rows (trim d.threadId) := by
    refine rows_inj (h.rows.trans ?_)
    refine (map_congr_left fun x hx => ?_).trans (map_id _)
    refine settleAllAt_of_ne fun hk => ?_
    have hsome : s.row? (trim d.threadId) (trim d.messageId) = some x :=
      get?_eq_some.2 ⟨hx, hk⟩
    rw [hmissing] at hsome
    exact absurd hsome (by simp)
  have hsorted := hin.received hmissing
  have hbefore : byReceipt (s.pendingFor (trim d.messageId)) = s.pendingFor (trim d.messageId) :=
    byReceipt_sorted (hsorted.sublist (sublist_append_left _ _))
  have hafter : byReceipt (s'.pendingFor (trim d.messageId)) =
      s.pendingFor (trim d.messageId) ++ mus.filter valid := by
    rw [hpending]
    exact byReceipt_sorted (hsorted.sublist (append_left filter_sublist _))
  rw [row?_insertDeposited ht hi, row?_insertDeposited ht hi, hrows, hbefore, hafter]
  by_cases hid : id = trim d.messageId
  · rw [if_pos hid, if_pos hid, Option.map_map]
    cases hrow : ((s.rows (trim d.threadId)).put (d.row (trim d.messageId))).get?
        (trim d.messageId) with
    | none => rw [Option.map_none, Option.map_none]
    | some x =>
      have hkey : (settleAll (s.pendingFor (trim d.messageId)) x).messageId = trim d.messageId :=
        (alike_settleAll _ x).messageId.trans (get?_eq_some.1 hrow).2
      rw [Option.map_some, Option.map_some, Function.comp_apply, settleAll_append,
        settleAll_filter_valid (hin.accepted hmissing), settleAllAt, if_pos hkey]
  · rw [if_neg hid, if_neg hid]
    cases hrow : ((s.rows (trim d.threadId)).put (d.row (trim d.messageId))).get? id with
    | none => rfl
    | some x =>
      rw [Option.map_some, settleAllAt_of_ne ((get?_eq_some.1 hrow).2.symm ▸ hid)]

/-- **A deposit after mutations of its message** leaves the rows that the mutations make of
those that it leaves without them. -/
theorem row?_depositStep_after
    (h : Waiting s s' (trim d.threadId) (trim d.messageId) mus) (ht : trim d.threadId ≠ "")
    (hi : trim d.messageId ≠ "")
    (hpending : s.row? (trim d.threadId) (trim d.messageId) = none →
      s'.pendingFor (trim d.messageId) =
        s.pendingFor (trim d.messageId) ++ mus.filter valid)
    (hin : InOrder s d mus) (id : String) :
    (depositStep s' (now, d)).row? (trim d.threadId) id =
      ((depositStep s (now, d)).row? (trim d.threadId) id).map
        (settleAllAt mus (trim d.messageId)) := by
  have hthread : s'.readyThread? (trim d.threadId) = s.readyThread? (trim d.threadId) :=
    congrFun (readyThread?_congr h.threads) _
  rw [depositStep, depositStep]
  by_cases hready : s.readyThread? (trim d.threadId) = none
  · -- both throw
    rw [upsertDeposited_throws (.inr (.inr hready)),
      upsertDeposited_throws (.inr (.inr (hthread.trans hready)))]
    exact row?_of_map h.rows id
  · have hready' : s'.readyThread? (trim d.threadId) ≠ none := hthread ▸ hready
    cases hrow : s.row? (trim d.threadId) (trim d.messageId) with
    | none =>
      have hrow' : s'.row? (trim d.threadId) (trim d.messageId) = none := by
        rw [row?_of_map h.rows, hrow]
        rfl
      rw [upsertDeposited_absent ht hi hready hrow, upsertDeposited_absent ht hi hready' hrow']
      exact row?_insertDeposited_waiting h ht hi hrow (hpending hrow) hin id
    | some existing =>
      have hkey := row?_messageId hrow
      have hrow' : s'.row? (trim d.threadId) (trim d.messageId) =
          some (settleAll mus existing) := by
        rw [row?_of_map h.rows, hrow, Option.map_some, settleAllAt, if_pos hkey]
      rw [upsertDeposited_present ht hi hready hrow, upsertDeposited_present ht hi hready' hrow',
        freeId?_of_map h.rows]
      by_cases hconf : d.Conflicts existing
      · -- the flag is put on the row that the mutations left
        rw [if_pos hconf, if_pos (hin.flags existing hrow hconf), row?_withFlag hrow,
          row?_withFlag hrow']
        by_cases hid : id = trim d.messageId
        · have hflag : settleAllAt mus (trim d.messageId) { existing with conflicted := true } =
              settleAll mus { existing with conflicted := true } := if_pos hkey
          rw [if_pos hid, if_pos hid, Option.map_some, hflag, settleAll_flag]
        · rw [if_neg hid, if_neg hid]
          exact row?_of_map h.rows id
      · rw [if_neg hconf,
          if_neg fun h => hconf ((conflicts_settleAll_iff (hin.flags existing hrow)).1 h)]
        cases hfree : s.freeId? d with
        | none => exact row?_of_map h.rows id
        | some effectiveMid =>
          have hfresh := freeId?_free hfree
          have hne : effectiveMid ≠ trim d.messageId := by
            rintro rfl
            rw [hrow] at hfresh
            exact absurd hfresh (by simp)
          have he : effectiveMid ≠ "" := freeId?_ne_empty hi hfree
          exact row?_insertDeposited_apart h ht he hne id

end Deposit

/-! ## The order of a deposit and its mutations -/

section Order

variable {s : Store c}

/-- The rows of the thread after calls for one message of it. -/
theorem row?_after_calls {threadId messageId : String} (ht : trim threadId ≠ "")
    (hi : trim messageId ≠ "") (mus : List PendingMutation)
    (hmus : ∀ mu ∈ mus, mu.Targets threadId messageId) (s : Store c) (id : String) :
    (s.applyCalls mus).row? (trim threadId) id =
      (s.row? (trim threadId) id).map (settleAllAt mus (trim messageId)) :=
  row?_of_map (waiting_applyCalls ht hi mus hmus s).rows id

/-- Mutations that are applied before a deposit, and those that come after it. -/
theorem interleaved_eq_in_order (now : Int) (d : Deposit) (pre post : List PendingMutation)
    (ht : trim d.threadId ≠ "") (hi : trim d.messageId ≠ "")
    (hmus : ∀ mu ∈ pre ++ post, mu.Targets d.threadId d.messageId) (hin : InOrder s d pre)
    (id : String) :
    (applyCalls (depositStep (s.applyCalls pre) (now, d)) post).row? (trim d.threadId) id =
      (applyCalls (depositStep s (now, d)) (pre ++ post)).row? (trim d.threadId) id := by
  rw [forall_mem_append] at hmus
  have hwaiting := waiting_applyCalls ht hi pre hmus.1 s
  have hpending := fun hmissing : s.row? (trim d.threadId) (trim d.messageId) = none =>
    pendingFor_applyCalls ht hi pre s hmus.1 hmissing (hin.received hmissing) (hin.bounded hmissing)
  have hdeposit : (depositStep (s.applyCalls pre) (now, d)).row? (trim d.threadId) id =
      ((depositStep s (now, d)).row? (trim d.threadId) id).map
        (settleAllAt pre (trim d.messageId)) :=
    row?_depositStep_after hwaiting ht hi hpending hin id
  rw [applyCalls_append, row?_after_calls ht hi post hmus.2,
    row?_after_calls ht hi post hmus.2, row?_after_calls ht hi pre hmus.1, hdeposit]

end Order

/-! ## The thread of a mutation -/

/-- What waits for a deposit, and changes its row, was sent for its thread. -/
def Store.TakesOwn (s : Store c) : Op → Prop
  | .deposit _ d =>
    trim d.threadId ≠ "" → trim d.messageId ≠ "" → s.readyThread? (trim d.threadId) ≠ none →
      ∀ effectiveMid, s.freeId? d = some effectiveMid →
      s.HasRoom (trim d.threadId) (d.row effectiveMid) →
      EachApplied (fun mu _ => trim mu.threadId = trim d.threadId)
        (byReceipt (s.pendingFor effectiveMid)) (d.row effectiveMid)
  | _ => True

/-- The mutation was applied in the thread it was sent for. -/
def Applied.InOwnThread (e : Applied) : Prop := trim e.mutation.threadId = e.threadId

theorem lawful_inOwnThread_iff (s : Store c) (op : Op) :
    s.Lawful Applied.InOwnThread op ↔ s.TakesOwn op := by
  cases op with
  | deposit now d => exact lawful_deposit_iff s now d
  | mutate mu allowBuffer =>
    -- a mutation whose target is there is applied in the thread it names
    rw [lawful_mutate_iff]
    exact iff_of_true (fun _ _ _ _ _ => rfl) trivial
  | mark threadId messageId => exact iff_of_true (fun e he => absurd he not_mem_nil) trivial
  | send now d => exact iff_of_true (fun e he => absurd he not_mem_nil) trivial
  | deleteLocal threadId messageId =>
    exact iff_of_true (fun e he => absurd he not_mem_nil) trivial
  | append call => exact iff_of_true (fun e he => absurd he not_mem_nil) trivial

/-- **Which runs keep mutations in their thread.** After a run every mutation was applied in
the thread it was sent for, if and only if no deposit took one that waited for another. -/
theorem run_ownThread_iff (threads : OrdMap String ChatThread) (ops : List Op) :
    (∀ e ∈ (Runs.run step (withThreads threads : Store c) ops).applied,
        e.InOwnThread) ↔
      Runs.Meets step TakesOwn (withThreads threads : Store c) ops := by
  rw [run_lawful_iff]
  have hempty : ∀ e ∈ (withThreads threads : Store c).applied, e.InOwnThread :=
    fun e he => absurd he not_mem_nil
  rw [and_iff_right hempty]
  constructor
  · exact Runs.Meets.mono step (fun s op => (lawful_inOwnThread_iff s op).1) ops
  · exact Runs.Meets.mono step (fun s op => (lawful_inOwnThread_iff s op).2) ops

/-- An edit of Bob's message `m` in a thread. -/
def bobEdits (threadId newText : String) : PendingMutation :=
  ⟨threadId, "m", "bob", .edit newText 5, 2, ""⟩

end RezChat.Messages
