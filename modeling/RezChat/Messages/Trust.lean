/-
Messages of several accounts under one id.

Whoever sends a message chooses its id, so the store never lets an id decide whose message
is kept: a message whose id is taken by another account is stored under `id@account`. This
file asks what that achieves.

A deposit lands if the thread has a row of its sender with its text afterwards. It does, if
the id it would be stored under is free; but `id@account` is an id like any other, and
whoever stores a message under it first keeps out the message that it was derived for.
`deposit_lands_iff` is the exact condition.
-/
import RezChat.Messages.Store
import RezChat.Lib.Runs

set_option autoImplicit false

namespace RezChat.Messages

open Inbox (trim trim_trim trimmed)
open Option Store Ranking

variable {c : Collation}

/-! ## What is asked of a deposit -/

/-- The thread has a row of the account with the text. -/
def Store.Shows (s : Store c) (threadId account text : String) : Prop :=
  ∃ m ∈ (s.rows threadId).rows, m.senderAccountId = account ∧ m.text = text

/-- The id under which a deposit would be stored, if it would. -/
def Store.freeId? (s : Store c) (d : Deposit) : Option String :=
  match s.row? (trim d.threadId) (trim d.messageId) with
  | none => some (trim d.messageId)
  | some existing =>
    if d.SameSender existing then none
    else match s.row? (trim d.threadId) d.disambiguated with
      | none => some d.disambiguated
      | some _ => none

/-- A new row stays in the thread: there is room for it, or it is newer than one of the rows
that are there. -/
def Store.HasRoom (s : Store c) (threadId : String) (m : ChatMessage) : Prop :=
  (s.rows threadId).rows.length < maxMessagesPerThread ∨
    ∃ x ∈ (s.rows threadId).rows, ¬ newestFirst c x m

instance (s : Store c) (threadId : String) (m : ChatMessage) : Decidable (s.HasRoom threadId m) :=
  inferInstanceAs (Decidable (_ ∨ ∃ x ∈ (s.rows threadId).rows, ¬ newestFirst c x m))

/-- Nothing waits for a message. -/
def Store.NothingPending (s : Store c) : Prop := ∀ target, s.pendingFor target = []

section Deposits

variable {s : Store c} {d : Deposit} {now : Int}

theorem rows_touchThread (now createdAtMs : Int) (threadId : String) (s : Store c) :
    (s.touchThread now createdAtMs threadId).rows = s.rows := by
  rw [touchThread]
  cases s.threads.get? threadId with
  | none => rfl
  | some t => rfl

theorem pending_touchThread (now createdAtMs : Int) (threadId : String) (s : Store c) :
    (s.touchThread now createdAtMs threadId).pending = s.pending := by
  rw [touchThread]
  cases s.threads.get? threadId with
  | none => rfl
  | some t => rfl

theorem rows_upsertMessage (now : Int) (m : ChatMessage) (s : Store c) (threadId : String) :
    (s.upsertMessageUnlocked now m).rows threadId =
      if threadId = m.threadId then (s.rows m.threadId).put m else s.rows threadId := by
  rw [upsertMessageUnlocked, rows_touchThread, rows_withRows]

theorem rows_stored (effectiveMid threadId : String) :
    (s.stored now d effectiveMid).rows threadId =
      if threadId = trim d.threadId then (s.rows (trim d.threadId)).put (d.row effectiveMid)
      else s.rows threadId := by
  rw [stored, rows_congr (messages_withIdempotency _ _ _), rows_upsertMessage]
  rfl

theorem pending_stored (effectiveMid : String) :
    (s.stored now d effectiveMid).pending = s.pending := by
  rw [stored, pending_withIdempotency, upsertMessageUnlocked,
    pending_touchThread]
  rfl

theorem insertDeposited_fst (effectiveMid : String) :
    (s.insertDeposited now d effectiveMid).1 =
      ((s.stored now d effectiveMid).drainPendingMutationsUnlocked (trim d.threadId)
        effectiveMid).1 := by
  rw [insertDeposited]

/-- With nothing waiting, a deposit only stores its row. -/
theorem insertDeposited_of_nothing (h : s.NothingPending) (effectiveMid : String) :
    (s.insertDeposited now d effectiveMid).1 = s.stored now d effectiveMid := by
  have hnone : (s.stored now d effectiveMid).pendingFor effectiveMid = [] := by
    have := h effectiveMid
    rwa [pendingFor, pending_stored]
  rw [insertDeposited_fst, drainPendingMutationsUnlocked, if_pos hnone]

end Deposits

/-! ## What a deposit does -/

section Cases

variable {s : Store c} {d : Deposit} {now : Int}

theorem freeId?_free {effectiveMid : String} (h : s.freeId? d = some effectiveMid) :
    s.row? (trim d.threadId) effectiveMid = none := by
  rw [freeId?] at h
  cases hrow : s.row? (trim d.threadId) (trim d.messageId) with
  | none =>
    rw [hrow] at h
    rw [← some_inj.1 h]
    exact hrow
  | some existing =>
    rw [hrow] at h
    dsimp only at h
    by_cases hsame : d.SameSender existing
    · rw [if_pos hsame] at h
      exact absurd h (by simp)
    · rw [if_neg hsame] at h
      cases hdupe : s.row? (trim d.threadId) d.disambiguated with
      | none =>
        rw [hdupe] at h
        rw [← some_inj.1 h]
        exact hdupe
      | some dupe =>
        rw [hdupe] at h
        exact absurd h (by simp)

/-- **A deposit**, in a thread that is ready: it stores its row under the id that is free for
it; if none is, it flags the row of its sender, or does nothing. -/
theorem upsertDeposited_cases (now : Int) (ht : trim d.threadId ≠ "") (hi : trim d.messageId ≠ "")
    (hready : s.readyThread? (trim d.threadId) ≠ none) :
    (∃ effectiveMid, s.freeId? d = some effectiveMid ∧
      (s.upsertDepositedMessage now d).1 = (s.insertDeposited now d effectiveMid).1) ∨
    (s.freeId? d = none ∧ ((s.upsertDepositedMessage now d).1 = s ∨
      ∃ existing, s.row? (trim d.threadId) (trim d.messageId) = some existing ∧
        (s.upsertDepositedMessage now d).1 =
          s.withRow (trim d.threadId) { existing with conflicted := true })) := by
  have hargs : ¬ (trim d.threadId = "" ∨ trim d.messageId = "") := by
    rintro (h | h)
    · exact ht h
    · exact hi h
  obtain ⟨t, hthread⟩ := ne_none_iff_exists'.1 hready
  rw [upsertDepositedMessage, if_neg hargs, hthread, freeId?]
  dsimp only
  cases hrow : s.row? (trim d.threadId) (trim d.messageId) with
  | none =>
    refine .inl ⟨trim d.messageId, rfl, ?_⟩
    dsimp only
  | some existing =>
    dsimp only
    by_cases hsame : d.SameSender existing
    · rw [if_pos hsame, if_pos hsame]
      refine .inr ⟨rfl, ?_⟩
      by_cases hconf : d.Conflicts existing
      · rw [if_pos hconf]
        exact .inr ⟨existing, rfl, rfl⟩
      · rw [if_neg hconf]
        exact .inl rfl
    · rw [if_neg hsame, if_neg hsame]
      cases s.row? (trim d.threadId) d.disambiguated with
      | none =>
        refine .inl ⟨d.disambiguated, rfl, ?_⟩
        dsimp only
      | some dupe => exact .inr ⟨rfl, .inl rfl⟩

theorem upsertDeposited_throws (h : trim d.threadId = "" ∨ trim d.messageId = "" ∨
    s.readyThread? (trim d.threadId) = none) : s.upsertDepositedMessage now d = (s, none) := by
  rw [upsertDepositedMessage]
  by_cases hargs : trim d.threadId = "" ∨ trim d.messageId = ""
  · rw [if_pos hargs]
  · rw [if_neg hargs, (h.resolve_left fun h' => hargs (.inl h')).resolve_left
      fun h' => hargs (.inr h')]

/-- A flag changes neither whose a row is nor what it says. -/
theorem shows_flag {threadId account text : String} {existing : ChatMessage}
    {messageId : String} (hrow : s.row? threadId messageId = some existing) :
    (s.withRow threadId { existing with conflicted := true }).Shows threadId account text ↔
      s.Shows threadId account text := by
  have hkey := row?_messageId hrow
  have hrows : ((s.withRow threadId { existing with conflicted := true }).rows threadId).rows =
      (s.rows threadId).rows.map fun x =>
        if x.messageId = existing.messageId then { existing with conflicted := true } else x := by
    rw [rows_withRow, if_pos rfl]
    exact rows_put_of_alike (b := existing) (hkey ▸ hrow) (fun _ => .rfl)
      (fun _ => .rfl)
  have hunique : ∀ x ∈ (s.rows threadId).rows, x.messageId = existing.messageId → x = existing := by
    intro x hx hxe
    have hx' : s.row? threadId messageId = some x :=
      get?_eq_some.2 ⟨hx, hxe.trans hkey⟩
    exact some_inj.1 (hx'.symm.trans hrow)
  rw [Shows, Shows, hrows]
  constructor
  · rintro ⟨m, hm, hsender, htext⟩
    obtain ⟨x, hx, rfl⟩ := List.mem_map.1 hm
    refine ⟨x, hx, ?_⟩
    by_cases hxe : x.messageId = existing.messageId
    · rw [if_pos hxe] at hsender htext
      rw [hunique x hx hxe]
      exact ⟨hsender, htext⟩
    · rw [if_neg hxe] at hsender htext
      exact ⟨hsender, htext⟩
  · rintro ⟨m, hm, hsender, htext⟩
    refine ⟨_, List.mem_map.2 ⟨m, hm, rfl⟩, ?_⟩
    by_cases hxe : m.messageId = existing.messageId
    · rw [if_pos hxe, ← hunique m hm hxe]
      exact ⟨hsender, htext⟩
    · rw [if_neg hxe]
      exact ⟨hsender, htext⟩

/-- **One deposit lands** if its text was there from its sender already, or there is a free
id for it, and room. -/
theorem shows_upsertDeposited_iff (ht : trim d.threadId ≠ "") (hi : trim d.messageId ≠ "")
    (hready : s.readyThread? (trim d.threadId) ≠ none) (hpending : s.NothingPending) :
    (s.upsertDepositedMessage now d).1.Shows (trim d.threadId) (trim d.senderAccountId) d.text ↔
      s.Shows (trim d.threadId) (trim d.senderAccountId) d.text ∨
        ∃ effectiveMid, s.freeId? d = some effectiveMid ∧
          s.HasRoom (trim d.threadId) (d.row effectiveMid) := by
  rcases upsertDeposited_cases now ht hi hready with ⟨mid, hfree, hs'⟩ | ⟨hfree, hs'⟩
  · have hnew : mid ∉ (s.rows (trim d.threadId)).rows.map ChatMessage.messageId :=
      get?_eq_none.1 (freeId?_free hfree)
    have hrows : ((s.upsertDepositedMessage now d).1.rows (trim d.threadId)) =
        (s.rows (trim d.threadId)).put (d.row mid) := by
      rw [hs', insertDeposited_of_nothing hpending, rows_stored, if_pos rfl]
    by_cases hroom : s.HasRoom (trim d.threadId) (d.row mid)
    · refine iff_of_true ?_ (.inr ⟨mid, hfree, hroom⟩)
      rw [Shows, hrows]
      exact ⟨d.row mid, mem_put_self (.inr hroom), rfl, rfl⟩
    · -- the row is cut off, and the others stay
      have hsame : ((s.rows (trim d.threadId)).put (d.row mid)).rows =
          (s.rows (trim d.threadId)).rows := by
        rw [HasRoom, not_or] at hroom
        refine mem_put_of_last hnew
          (le_antisymm (s.rows (trim d.threadId)).bounded (not_lt.1 hroom.1)) fun x hx => ?_
        by_contra hle
        exact hroom.2 ⟨x, hx, hle⟩
      have hshows : (s.upsertDepositedMessage now d).1.Shows (trim d.threadId)
          (trim d.senderAccountId) d.text ↔
          s.Shows (trim d.threadId) (trim d.senderAccountId) d.text := by
        rw [Shows, hrows, hsame]
        rfl
      rw [hshows]
      refine ⟨.inl, fun h => h.resolve_right ?_⟩
      rintro ⟨mid', hfree', hroom'⟩
      rw [hfree, some_inj] at hfree'
      exact hroom (hfree' ▸ hroom')
  · have hnone : ¬ ∃ effectiveMid, s.freeId? d = some effectiveMid ∧
        s.HasRoom (trim d.threadId) (d.row effectiveMid) := by
      rintro ⟨mid, hmid, _⟩
      rw [hfree] at hmid
      exact absurd hmid (by simp)
    rw [or_iff_left hnone]
    rcases hs' with hs' | ⟨existing, hrow, hs'⟩
    · rw [hs']
    · rw [hs']
      exact shows_flag hrow

end Cases

/-! ## Runs of deposits -/

section Runs

variable {threads : OrdMap String ChatThread}

/-- One deposit, and the time at which it came. -/
def depositStep (s : Store c) (e : Int × Deposit) : Store c :=
  (s.upsertDepositedMessage e.1 e.2).1

theorem readyThread?_touchThread {s : Store c} {now createdAtMs : Int} {threadId t : String}
    (h : s.readyThread? t ≠ none) :
    (s.touchThread now createdAtMs threadId).readyThread? t ≠ none := by
  rw [touchThread]
  cases hthread : s.threads.get? threadId with
  | none => exact h
  | some thread =>
    dsimp only
    rw [readyThread?] at h ⊢
    rw [OrdMap.get?_set]
    by_cases ht : t = threadId
    · rw [if_pos ht]
      rw [ht, hthread, filter_some] at h
      rw [filter_some]
      have hsame : ChatThread.isReady { thread with
          updatedAtMs := now, lastActivityAtMs := max thread.lastActivityAtMs createdAtMs } =
          thread.isReady := rfl
      cases hr : thread.isReady with
      | false => rw [hr] at h; exact absurd rfl h
      | true =>
        rw [hsame, hr, if_pos rfl]
        exact some_ne_none _
    · rw [if_neg ht]
      exact h

theorem readyThread?_congr {s s' : Store c} (h : s'.threads = s.threads) :
    s'.readyThread? = s.readyThread? := by
  funext t
  rw [readyThread?, readyThread?, h]

/-- Deposits leave nothing waiting that was not, and threads ready that were. -/
theorem depositStep_keeps {s : Store c} {t : String} (e : Int × Deposit)
    (hpending : s.NothingPending) (hready : s.readyThread? t ≠ none) :
    (depositStep s e).NothingPending ∧ (depositStep s e).readyThread? t ≠ none := by
  obtain ⟨now, d⟩ := e
  rw [depositStep]
  by_cases hbad : trim d.threadId = "" ∨ trim d.messageId = "" ∨
      s.readyThread? (trim d.threadId) = none
  · rw [upsertDeposited_throws hbad]
    exact ⟨hpending, hready⟩
  · rw [not_or, not_or] at hbad
    rcases upsertDeposited_cases now hbad.1 hbad.2.1 hbad.2.2 with
      ⟨mid, _, hs'⟩ | ⟨_, hs' | ⟨existing, _, hs'⟩⟩
    · rw [hs', insertDeposited_of_nothing hpending]
      constructor
      · intro target
        rw [pendingFor, pending_stored]
        exact hpending target
      · rw [stored, readyThread?_congr (threads_withIdempotency _ _ _),
          upsertMessageUnlocked]
        exact readyThread?_touchThread hready
    · rw [hs']
      exact ⟨hpending, hready⟩
    · rw [hs', withRow]
      constructor
      · intro target
        rw [pendingFor, pending_withIdempotency]
        exact hpending target
      · rw [readyThread?_congr (threads_withIdempotency _ _ _)]
        exact hready

end Runs

/-- **Which deposits land.** In every state that deposits of whatever accounts lead to: a
deposit of an authenticated account in a thread that is ready is shown afterwards, with its
sender and its text, if and only if such a row was there already, or the id is free under
which the store would file it, and there is room for it. -/
theorem deposit_lands_iff (threads : OrdMap String ChatThread) (ds : List (Int × Deposit))
    (now : Int) (d : Deposit) (ht : trim d.threadId ≠ "") (hi : trim d.messageId ≠ "")
    (hready : (withThreads threads : Store c).readyThread? (trim d.threadId) ≠ none) :
    let s : Store c := Runs.run depositStep (withThreads threads) ds
    (depositStep s (now, d)).Shows (trim d.threadId) (trim d.senderAccountId) d.text ↔
      s.Shows (trim d.threadId) (trim d.senderAccountId) d.text ∨
        ∃ effectiveMid, s.freeId? d = some effectiveMid ∧
          s.HasRoom (trim d.threadId) (d.row effectiveMid) := by
  intro s
  have hs : s.NothingPending ∧ s.readyThread? (trim d.threadId) ≠ none :=
    Runs.invariant_all depositStep (I := fun s : Store c =>
        s.NothingPending ∧ s.readyThread? (trim d.threadId) ≠ none)
      (fun s e h => depositStep_keeps e h.1 h.2) ds _ ⟨fun _ => rfl, hready⟩
  exact shows_upsertDeposited_iff ht hi hs.2 hs.1

/-! ### A message that is kept out -/

/-- A message of a member of the group `t1`. -/
def memberSays (account messageId text : String) : Int × Deposit :=
  (1, ⟨messageId, "t1", account, "", 1, account, none, text, none⟩)

def groupThread : OrdMap String ChatThread := OrdMap.empty.set "t1" ⟨.group, "", "", 1, 1⟩

theorem deposit_lands_iff_bob :
    let s : Store Collation.byCodePoint :=
      Runs.run depositStep (withThreads groupThread) [memberSays "mallory" "m" "mine"]
    (depositStep s (memberSays "bob" "m" "hello")).Shows "t1" "bob" "hello" ↔
      s.Shows "t1" "bob" "hello" ∨
        ∃ effectiveMid, s.freeId? (memberSays "bob" "m" "hello").2 = some effectiveMid ∧
          s.HasRoom "t1" ((memberSays "bob" "m" "hello").2.row effectiveMid) := by
  have h := deposit_lands_iff (c := Collation.byCodePoint) groupThread
    [memberSays "mallory" "m" "mine"] 1 (memberSays "bob" "m" "hello").2 (by decide) (by decide)
    (by decide)
  exact h

/-- **A message that is kept out.** Mallory takes the id `m`, and the id under which Bob's
message `m` would be stored then. Bob's message is dropped. -/
theorem preseeded_id_hides :
    let s : Store Collation.byCodePoint := Runs.run depositStep (withThreads groupThread)
      [memberSays "mallory" "m" "mine", memberSays "mallory" "m@bob" "mine too"]
    ¬ (depositStep s (memberSays "bob" "m" "hello")).Shows "t1" "bob" "hello" ∧
      ((depositStep s (memberSays "bob" "m" "hello")).rows "t1").rows.map
          (fun m => (m.senderAccountId, m.messageId)) =
        [("mallory", "m@bob"), ("mallory", "m")] := by
  intro s
  have hrows : ((depositStep s (memberSays "bob" "m" "hello")).rows "t1").rows.map
      (fun m => (m.senderAccountId, m.messageId)) =
        [("mallory", "m@bob"), ("mallory", "m")] := by decide
  refine ⟨?_, hrows⟩
  rintro ⟨m, hm, hsender, _⟩
  have hmem := List.mem_map_of_mem (f := fun m : ChatMessage => (m.senderAccountId, m.messageId)) hm
  rw [hrows] at hmem
  simp [hsender] at hmem

end RezChat.Messages
