/-
What the calls of a store have applied.

Every mutation that changed a row is in the history of the store, with the row it changed.
Two calls add to it: a mutation, if its target is there, and a deposit, which drains what
waits for its id. `news` says for each call what it adds (`applied_step`); so a law about
single entries of the history holds of a run if and only if it holds of what each of its
steps adds (`run_lawful_iff`).
-/
import RezChat.Messages.Trust

set_option autoImplicit false

namespace RezChat.Messages

open Inbox (trim trim_trim trimmed)
open List Option Store

variable {c : Collation}

/-! ## Several mutations of one row -/

/-- The row after mutations. -/
def settleAll (mus : List PendingMutation) (m : ChatMessage) : ChatMessage :=
  mus.foldl (fun m mu => mu.settle m) m

/-- A mutation keeps the fingerprint of a row, or it is a tombstone and takes it. -/
theorem settle_body (mu : PendingMutation) (m : ChatMessage) :
    ((mu.settle m).contentHash = m.contentHash ∧
      (mu.settle m).tombstonedAtMs = m.tombstonedAtMs) ∨
    ((mu.settle m).contentHash = "" ∧ isSet (mu.settle m).tombstonedAtMs = true) := by
  rw [PendingMutation.settle]
  split_ifs with hmal
  · exact .inl ⟨rfl, rfl⟩
  · rw [PendingMutation.verdict]
    cases mu.change with
    | edit x a =>
      rw [Change.verdict, editRow]
      split_ifs
      · exact .inl ⟨rfl, rfl⟩
      · exact .inl ⟨rfl, rfl⟩
      · exact .inl ⟨rfl, rfl⟩
      · exact .inl ⟨rfl, rfl⟩
      · -- an edit replaces the text in the payload, and leaves its fingerprint
        refine .inl ⟨?_, rfl⟩
        show (Option.map _ (Option.map _ m.payload)).getD "" = _
        rw [Option.map_map]
        rfl
    | tombstone a =>
      rw [Change.verdict, tombstoneRow]
      split_ifs with hforeign hset hpos
      · exact .inl ⟨rfl, rfl⟩
      · exact .inl ⟨rfl, rfl⟩
      · exact .inl ⟨rfl, rfl⟩
      · refine .inr ⟨rfl, decide_eq_true ?_⟩
        show a ≠ 0
        omega
    | reaction e op =>
      rw [Change.verdict, reactionRow]
      split_ifs
      · exact .inl ⟨rfl, rfl⟩
      · exact .inl ⟨rfl, rfl⟩

/-- The mutation changes the row. -/
def PendingMutation.Applies (mu : PendingMutation) (m : ChatMessage) : Prop :=
  mu.malformed = false ∧ ∃ m', mu.verdict m = .applied m'

/-- What mutations of a row of a thread, one after the other, add to the history. -/
def entries (threadId : String) : List PendingMutation → ChatMessage → List Applied
  | [], _ => []
  | mu :: mus, m =>
    (match mu.malformed, mu.verdict m with
      | false, .applied _ => [⟨mu, threadId, m⟩]
      | _, _ => []) ++ entries threadId mus (mu.settle m)

/-- Each of the mutations that changes the row, at its turn, is as the law asks. -/
def EachApplied (P : PendingMutation → ChatMessage → Prop) :
    List PendingMutation → ChatMessage → Prop
  | [], _ => True
  | mu :: mus, m => (mu.Applies m → P mu m) ∧ EachApplied P mus (mu.settle m)

theorem mem_entries_iff {threadId : String} {L : Applied → Prop} {mus : List PendingMutation}
    {m : ChatMessage} : (∀ e ∈ entries threadId mus m, L e) ↔
      EachApplied (fun mu m => L ⟨mu, threadId, m⟩) mus m := by
  induction mus generalizing m with
  | nil => exact iff_of_true (fun e he => absurd he not_mem_nil) trivial
  | cons mu mus ih =>
    rw [entries, EachApplied, ← ih]
    have hone : (∀ e ∈ (match mu.malformed, mu.verdict m with
        | false, .applied _ => [(⟨mu, threadId, m⟩ : Applied)]
        | _, _ => []), L e) ↔ (mu.Applies m → L ⟨mu, threadId, m⟩) := by
      cases hmal : mu.malformed with
      | true =>
        refine iff_of_true (fun e he => absurd he not_mem_nil) fun h => ?_
        rw [h.1] at hmal
        exact absurd hmal Bool.false_ne_true
      | false =>
        cases hv : mu.verdict m with
        | applied m' =>
          rw [forall_mem_singleton]
          exact ⟨fun h _ => h, fun h => h ⟨hmal, m', hv⟩⟩
        | refused rejected reason =>
          refine iff_of_true (fun e he => absurd he not_mem_nil) ?_
          rintro ⟨_, m', hm'⟩
          rw [hv] at hm'
          exact absurd hm' (by simp)
    rw [← hone]
    exact forall_mem_append

/-! ## What a call adds -/

/-- A call of `applyEdit`, `applyTombstone` or `applyReaction`. -/
def Store.newsOfMutation (s : Store c) (mu : PendingMutation) : List Applied :=
  if trim mu.threadId = "" ∨ trim mu.targetMessageId = "" then []
  else match s.row? (trim mu.threadId) (trim mu.targetMessageId) with
    | none => []
    | some m => entries (trim mu.threadId) [mu] m

/-- A deposit: what waits for the id it is stored under, if its row stays. -/
def Store.newsOfDeposit (s : Store c) (d : Deposit) : List Applied :=
  if trim d.threadId = "" ∨ trim d.messageId = "" ∨ s.readyThread? (trim d.threadId) = none then []
  else match s.freeId? d with
    | none => []
    | some effectiveMid =>
      match ((s.rows (trim d.threadId)).put (d.row effectiveMid)).get? effectiveMid with
      | none => []
      | some m => entries (trim d.threadId) (byReceipt (s.pendingFor effectiveMid)) m

def Store.news (s : Store c) : Op → List Applied
  | .deposit _ d => s.newsOfDeposit d
  | .mutate mu _ => s.newsOfMutation mu
  | .mark _ _ => []
  | .send _ _ => []
  | .deleteLocal _ _ => []
  | .append _ => []

section News

variable {s : Store c} {mu : PendingMutation} {threadId target : String}

theorem entries_append (mus nus : List PendingMutation) (m : ChatMessage) :
    entries threadId (mus ++ nus) m =
      entries threadId mus m ++ entries threadId nus (settleAll mus m) := by
  induction mus generalizing m with
  | nil => rfl
  | cons mu mus ih =>
    rw [cons_append, entries, entries, ih, append_assoc]
    rfl

theorem applied_applyCore (ht : threadId ≠ "") (hi : target ≠ "") :
    (s.applyCoreUnlocked mu threadId target).1.applied = s.applied ++
      (match s.row? threadId target with
      | none => []
      | some m => entries threadId [mu] m) := by
  cases hrow : s.row? threadId target with
  | none =>
    rw [applyCore_missing hrow]
    exact (append_nil _).symm
  | some m =>
    dsimp only
    rw [applyCoreUnlocked, entries, entries, append_nil]
    by_cases hmal : mu.malformed = true
    · rw [if_pos (.inr (.inr hmal)), hmal]
      exact (append_nil _).symm
    · have hargs : ¬ (threadId = "" ∨ target = "" ∨ mu.malformed = true) := by
        rintro (h | h | h)
        · exact ht h
        · exact hi h
        · exact hmal h
      rw [if_neg hargs, hrow, Bool.eq_false_of_not_eq_true hmal]
      dsimp only
      cases mu.verdict m with
      | applied m' => rfl
      | refused rejected reason => exact (append_nil _).symm

/-- What a drain adds, before what waited is dropped. -/
theorem applied_drained (ht : threadId ≠ "") (hi : target ≠ "") :
    ∀ (mus : List PendingMutation) (acc : Store c × Option ChatMessage),
    (mus.foldl (fun acc mu => ((acc.1.applyCoreUnlocked mu threadId target).1,
      (acc.1.applyCoreUnlocked mu threadId target).2.message.or acc.2)) acc).1.applied =
      acc.1.applied ++ (match acc.1.row? threadId target with
        | none => []
        | some m => entries threadId mus m)
  | [], acc => by
    cases acc.1.row? threadId target with
    | none => exact (append_nil _).symm
    | some m => exact (append_nil _).symm
  | mu :: mus, acc => by
    have hrow : (acc.1.applyCoreUnlocked mu threadId target).1.row? threadId target =
        (acc.1.row? threadId target).map mu.settle :=
      (row?_applyCore ht hi threadId target).trans (if_pos ⟨rfl, rfl⟩)
    rw [foldl_cons, applied_drained ht hi mus]
    dsimp only
    rw [hrow, applied_applyCore ht hi, append_assoc]
    cases acc.1.row? threadId target with
    | none => rfl
    | some m =>
      rw [map_some]
      exact congrArg (acc.1.applied ++ ·) (entries_append [mu] mus m).symm

theorem applied_writePending (mus : List PendingMutation) (s : Store c) :
    (s.writePendingMutations target mus).applied = s.applied := by
  rw [writePendingMutations]
  split_ifs
  · rfl
  · rfl

theorem applied_drain (ht : threadId ≠ "") (hi : target ≠ "") :
    (s.drainPendingMutationsUnlocked threadId target).1.applied = s.applied ++
      (match s.row? threadId target with
      | none => []
      | some m => entries threadId (byReceipt (s.pendingFor target)) m) := by
  rw [drainPendingMutationsUnlocked]
  by_cases hnil : s.pendingFor target = []
  · rw [if_pos hnil, hnil]
    cases s.row? threadId target with
    | none => exact (append_nil _).symm
    | some m => exact (append_nil _).symm
  · rw [if_neg hnil]
    dsimp only
    rw [applied_writePending, applied_drained ht hi]

theorem applied_applyMutation (mu : PendingMutation) (allowBuffer : Bool) (s : Store c) :
    (s.applyMutation mu allowBuffer).1.applied = s.applied ++ s.newsOfMutation mu := by
  rw [newsOfMutation]
  by_cases hargs : trim mu.threadId = "" ∨ trim mu.targetMessageId = ""
  · rw [if_pos hargs, applyMutation_throws hargs, append_nil]
  · have hbuffer : ∀ s' : Store c, (s'.bufferMutationUnlocked mu).applied = s'.applied :=
      fun s' => applied_writePending _ s'
    rw [if_neg hargs, applyMutation, if_neg hargs]
    rw [not_or] at hargs
    rw [← applied_applyCore hargs.1 hargs.2]
    -- what the core does is settled; only what becomes of it is in question
    generalize s.applyCoreUnlocked mu (trim mu.threadId) (trim mu.targetMessageId) = r
    dsimp only
    by_cases hv : mu.valid = true
    · rw [if_pos hv]
      split_ifs
      · rw [hbuffer]
      · rfl
    · rw [if_neg hv]
      split_ifs
      · rfl
      · rfl

theorem applied_touchThread (now createdAtMs : Int) (threadId : String) (s : Store c) :
    (s.touchThread now createdAtMs threadId).applied = s.applied := by
  rw [touchThread]
  cases s.threads.get? threadId with
  | none => rfl
  | some t => rfl

theorem applied_upsertMessage (now : Int) (m : ChatMessage) (s : Store c) :
    (s.upsertMessageUnlocked now m).applied = s.applied := by
  rw [upsertMessageUnlocked, applied_touchThread]
  rfl

theorem applied_withRow (threadId : String) (m : ChatMessage) (s : Store c) :
    (s.withRow threadId m).applied = s.applied := by
  rw [withRow, applied_withIdempotency]
  rfl

theorem freeId?_ne_empty {d : Deposit} (hi : trim d.messageId ≠ "") {effectiveMid : String}
    (h : s.freeId? d = some effectiveMid) : effectiveMid ≠ "" := by
  have hdis : d.disambiguated ≠ "" := by
    intro hd
    have hlen := congrArg String.length hd
    rw [Deposit.disambiguated, String.length_append, String.length_append] at hlen
    have hat : ("@" : String).length = 1 := rfl
    have hzero : ("" : String).length = 0 := rfl
    omega
  rw [freeId?] at h
  cases hrow : s.row? (trim d.threadId) (trim d.messageId) with
  | none =>
    rw [hrow] at h
    exact some_inj.1 h ▸ hi
  | some existing =>
    rw [hrow] at h
    dsimp only at h
    split_ifs at h
    cases hdupe : s.row? (trim d.threadId) d.disambiguated with
    | none =>
      rw [hdupe] at h
      exact some_inj.1 h ▸ hdis
    | some dupe =>
      rw [hdupe] at h
      exact absurd h (by simp)

theorem applied_deposit (now : Int) (d : Deposit) (s : Store c) :
    (s.upsertDepositedMessage now d).1.applied = s.applied ++ s.newsOfDeposit d := by
  rw [newsOfDeposit]
  by_cases hbad : trim d.threadId = "" ∨ trim d.messageId = "" ∨
      s.readyThread? (trim d.threadId) = none
  · rw [upsertDeposited_throws hbad, if_pos hbad, append_nil]
  · rw [if_neg hbad]
    rw [not_or, not_or] at hbad
    obtain ⟨ht, hi, hready⟩ := hbad
    rcases upsertDeposited_cases now ht hi hready with
      ⟨mid, hfree, hs'⟩ | ⟨hfree, hs' | ⟨existing, _, hs'⟩⟩
    · have hstored : (s.stored now d mid).row? (trim d.threadId) mid =
          ((s.rows (trim d.threadId)).put (d.row mid)).get? mid := by
        rw [row?, rows_stored, if_pos rfl]
      have hpending : (s.stored now d mid).pendingFor mid = s.pendingFor mid := by
        rw [pendingFor, pending_stored]
        rfl
      have hkept : (s.stored now d mid).applied = s.applied := by
        rw [stored, applied_withIdempotency, applied_upsertMessage]
      rw [hs', insertDeposited_fst, applied_drain ht (freeId?_ne_empty hi hfree), hstored,
        hpending, hkept, hfree]
    · rw [hs', hfree, append_nil]
    · rw [hs', hfree, applied_withRow, append_nil]

/-- **The history after a call.** -/
theorem applied_step (s : Store c) (op : Op) : (s.step op).applied = s.applied ++ s.news op := by
  cases op with
  | deposit now d =>
    rw [step, news]
    exact applied_deposit now d s
  | mutate mu allowBuffer =>
    rw [step, news]
    exact applied_applyMutation mu allowBuffer s
  | mark threadId messageId =>
    rw [step, markMessageConflicted, news, append_nil]
    split_ifs
    · rfl
    · cases s.row? (trim threadId) (trim messageId) with
      | none => rfl
      | some m =>
        dsimp only
        split_ifs
        · rfl
        · exact applied_withRow _ _ _
  | send now d =>
    rw [step, recordOutboundDeposit, news, append_nil]
    split_ifs
    · rfl
    · cases s.readyThread? (trim d.threadId) with
      | none => rfl
      | some t =>
        dsimp only
        rw [applied_withIdempotency, applied_upsertMessage]
  | deleteLocal threadId targetMessageId =>
    rw [step, applyLocalDelete, news, append_nil]
    split_ifs
    · rfl
    · cases s.row? (trim threadId) (trim targetMessageId) with
      | none => rfl
      | some m =>
        dsimp only
        split_ifs
        · rfl
        · rfl
  | append call =>
    rw [step, news, append_nil, appendFact]

end News

/-! ## The rows after a deposit -/

section Deposit

variable {s : Store c} {d : Deposit} {now : Int}

theorem alike_settleAll (mus : List PendingMutation) (m : ChatMessage) :
    Alike m (settleAll mus m) := by
  induction mus generalizing m with
  | nil => exact Alike.refl m
  | cons mu mus ih => exact (mu.alike_settle m).trans (ih (mu.settle m))

/-- A deposit of an id that is not there is stored under it. -/
theorem upsertDeposited_absent (ht : trim d.threadId ≠ "") (hi : trim d.messageId ≠ "")
    (hready : s.readyThread? (trim d.threadId) ≠ none)
    (hrow : s.row? (trim d.threadId) (trim d.messageId) = none) :
    (s.upsertDepositedMessage now d).1 = (s.insertDeposited now d (trim d.messageId)).1 := by
  have hargs : ¬ (trim d.threadId = "" ∨ trim d.messageId = "") := not_or.2 ⟨ht, hi⟩
  obtain ⟨t, hthread⟩ := ne_none_iff_exists'.1 hready
  rw [upsertDepositedMessage, if_neg hargs, hthread, hrow]

theorem Deposit.Conflicts.sameSender {existing : ChatMessage} (h : d.Conflicts existing) :
    d.SameSender existing := .inr (.inr h.2.2.2.2)

/-- A deposit of an id that is there flags the row, is stored under another id, or is
dropped. -/
theorem upsertDeposited_present (ht : trim d.threadId ≠ "") (hi : trim d.messageId ≠ "")
    (hready : s.readyThread? (trim d.threadId) ≠ none) {existing : ChatMessage}
    (hrow : s.row? (trim d.threadId) (trim d.messageId) = some existing) :
    (s.upsertDepositedMessage now d).1 =
      if d.Conflicts existing then
        s.withRow (trim d.threadId) { existing with conflicted := true }
      else match s.freeId? d with
        | none => s
        | some effectiveMid => (s.insertDeposited now d effectiveMid).1 := by
  have hargs : ¬ (trim d.threadId = "" ∨ trim d.messageId = "") := not_or.2 ⟨ht, hi⟩
  obtain ⟨t, hthread⟩ := ne_none_iff_exists'.1 hready
  rw [upsertDepositedMessage, if_neg hargs, hthread, freeId?, hrow]
  dsimp only
  by_cases hsame : d.SameSender existing
  · rw [if_pos hsame, if_pos hsame]
    split_ifs
    · rfl
    · rfl
  · rw [if_neg hsame, if_neg hsame, if_neg fun h => hsame h.sameSender]
    cases s.row? (trim d.threadId) d.disambiguated with
    | none => dsimp only
    | some dupe => dsimp only

/-- The rows after a deposit that was stored. -/
theorem row?_insertDeposited (ht : trim d.threadId ≠ "") {effectiveMid : String}
    (he : effectiveMid ≠ "") (id : String) :
    (s.insertDeposited now d effectiveMid).1.row? (trim d.threadId) id =
      if id = effectiveMid then
        (((s.rows (trim d.threadId)).put (d.row effectiveMid)).get? effectiveMid).map
          (settleAll (byReceipt (s.pendingFor effectiveMid)))
      else ((s.rows (trim d.threadId)).put (d.row effectiveMid)).get? id := by
  have hstored : ∀ id', (s.stored now d effectiveMid).row? (trim d.threadId) id' =
      ((s.rows (trim d.threadId)).put (d.row effectiveMid)).get? id' := by
    intro id'
    rw [row?, rows_stored, if_pos rfl]
  have hpending : (s.stored now d effectiveMid).pendingFor effectiveMid =
      s.pendingFor effectiveMid := by
    rw [pendingFor, pending_stored]
    rfl
  rw [insertDeposited_fst, row?_drain ht he, hstored, hstored, hpending]
  by_cases hid : id = effectiveMid
  · rw [if_pos hid, if_pos ⟨rfl, hid⟩]
    rfl
  · rw [if_neg hid, if_neg fun h => hid h.2]

/-- A flag is put on the row that is under its id. -/
theorem row?_withFlag {threadId messageId : String} {x : ChatMessage}
    (h : s.row? threadId messageId = some x) (id : String) :
    (s.withRow threadId { x with conflicted := true }).row? threadId id =
      if id = messageId then some { x with conflicted := true } else s.row? threadId id := by
  have hkey := row?_messageId h
  have hpresent : s.row? threadId
      ({ x with conflicted := true } : ChatMessage).messageId ≠ none := by
    rw [show ({ x with conflicted := true } : ChatMessage).messageId = messageId from hkey, h]
    exact some_ne_none _
  rw [row?_withRow hpresent]
  by_cases hid : id = messageId
  · rw [if_pos hid, if_pos ⟨rfl, hid.trans hkey.symm⟩]
  · rw [if_neg hid, if_neg fun h => hid (h.2.trans hkey)]

/-- The id that is free for a deposit depends on whose the rows are, and on nothing else. -/
theorem freeId?_of_rows {s' : Store c} {f : ChatMessage → ChatMessage}
    (hid : ∀ x, (f x).messageId = x.messageId)
    (hsender : ∀ x, (f x).senderAccountId = x.senderAccountId)
    (h : (s'.rows (trim d.threadId)).rows = (s.rows (trim d.threadId)).rows.map f) :
    s'.freeId? d = s.freeId? d := by
  have hrow : ∀ id, s'.row? (trim d.threadId) id = (s.row? (trim d.threadId) id).map f :=
    fun id => Ranking.get?_map hid h id
  rw [freeId?, freeId?, hrow]
  cases s.row? (trim d.threadId) (trim d.messageId) with
  | none => rfl
  | some existing =>
    have hsame : d.SameSender (f existing) ↔ d.SameSender existing := by
      rw [Deposit.SameSender, Deposit.SameSender, hsender]
    rw [map_some]
    dsimp only
    by_cases hs : d.SameSender existing
    · rw [if_pos hs, if_pos (hsame.2 hs)]
    · rw [if_neg hs, if_neg fun h => hs (hsame.1 h), hrow]
      cases s.row? (trim d.threadId) d.disambiguated with
      | none => rfl
      | some dupe => rfl

/-- Whether there is room for a row depends on the number and the times of the rows. -/
theorem hasRoom_of_rows {s' : Store c} {f : ChatMessage → ChatMessage} {threadId : String}
    {m : ChatMessage} (hid : ∀ x, (f x).messageId = x.messageId)
    (hat : ∀ x, (f x).createdAtMs = x.createdAtMs)
    (h : (s'.rows threadId).rows = (s.rows threadId).rows.map f) :
    s'.HasRoom threadId m ↔ s.HasRoom threadId m := by
  have hfirst : ∀ x, newestFirst c (f x) m ↔ newestFirst c x m := by
    intro x
    rw [newestFirst, newestFirst, hat, hid]
  rw [HasRoom, HasRoom, h, length_map]
  refine or_congr .rfl ?_
  constructor
  · rintro ⟨y, hy, hlast⟩
    obtain ⟨x, hx, rfl⟩ := mem_map.1 hy
    exact ⟨x, hx, fun hle => hlast ((hfirst x).2 hle)⟩
  · rintro ⟨x, hx, hlast⟩
    exact ⟨f x, mem_map_of_mem hx, fun hle => hlast ((hfirst x).1 hle)⟩

end Deposit

/-! ## Laws about the history -/

section Laws

variable {L : Applied → Prop}

/-- What a call adds is as the law asks. -/
def Store.Lawful (L : Applied → Prop) (s : Store c) (op : Op) : Prop := ∀ e ∈ s.news op, L e

/-- **Laws go step by step.** After a run everything in the history is as the law asks if and
only if it was so before, and every step of the run added only such entries. -/
theorem run_lawful_iff (L : Applied → Prop) (ops : List Op) (s : Store c) :
    (∀ e ∈ (Runs.run step s ops).applied, L e) ↔
      (∀ e ∈ s.applied, L e) ∧ Runs.Meets step (Lawful L) s ops := by
  induction ops generalizing s with
  | nil => exact (and_iff_left trivial).symm
  | cons op ops ih =>
    rw [Runs.run_cons, ih, applied_step, forall_mem_append, Runs.Meets, and_assoc]
    rfl

/-- A mutation is as the law asks if it is, on the row under its target. -/
theorem lawful_mutate_iff (s : Store c) (mu : PendingMutation) (allowBuffer : Bool) :
    s.Lawful L (.mutate mu allowBuffer) ↔
      (trim mu.threadId ≠ "" → trim mu.targetMessageId ≠ "" → ∀ m,
        s.row? (trim mu.threadId) (trim mu.targetMessageId) = some m → mu.Applies m →
        L ⟨mu, trim mu.threadId, m⟩) := by
  rw [Lawful, news, newsOfMutation]
  by_cases hargs : trim mu.threadId = "" ∨ trim mu.targetMessageId = ""
  · rw [if_pos hargs]
    refine iff_of_true (fun e he => absurd he not_mem_nil) fun ht hi => ?_
    rcases hargs with h | h
    · exact absurd h ht
    · exact absurd h hi
  · rw [if_neg hargs]
    rw [not_or] at hargs
    cases hrow : s.row? (trim mu.threadId) (trim mu.targetMessageId) with
    | none =>
      refine iff_of_true (fun e he => absurd he not_mem_nil) fun _ _ m hm => ?_
      exact absurd hm (by simp)
    | some m =>
      dsimp only
      rw [mem_entries_iff, EachApplied, EachApplied, and_iff_left trivial]
      constructor
      · intro h _ _ m' hm' happ
        obtain rfl := some_inj.1 hm'
        exact h happ
      · intro h happ
        exact h hargs.1 hargs.2 m rfl happ

/-- A deposit is as the law asks if what waits for it is, each at its turn on the row of the
deposit: unless the row is not stored, or cut off at once. -/
theorem lawful_deposit_iff (s : Store c) (now : Int) (d : Deposit) :
    s.Lawful L (.deposit now d) ↔
      (trim d.threadId ≠ "" → trim d.messageId ≠ "" → s.readyThread? (trim d.threadId) ≠ none →
        ∀ effectiveMid, s.freeId? d = some effectiveMid →
        s.HasRoom (trim d.threadId) (d.row effectiveMid) →
        EachApplied (fun mu m => L ⟨mu, trim d.threadId, m⟩)
          (byReceipt (s.pendingFor effectiveMid)) (d.row effectiveMid)) := by
  rw [Lawful, news, newsOfDeposit]
  by_cases hbad : trim d.threadId = "" ∨ trim d.messageId = "" ∨
      s.readyThread? (trim d.threadId) = none
  · rw [if_pos hbad]
    refine iff_of_true (fun e he => absurd he not_mem_nil) fun ht hi hready => ?_
    rcases hbad with h | h | h
    · exact absurd h ht
    · exact absurd h hi
    · exact absurd h hready
  · rw [if_neg hbad]
    rw [not_or, not_or] at hbad
    cases hfree : s.freeId? d with
    | none =>
      refine iff_of_true (fun e he => absurd he not_mem_nil) fun _ _ _ mid hmid => ?_
      exact absurd hmid (by simp)
    | some mid =>
      dsimp only
      have hnew : (d.row mid).messageId ∉ (s.rows (trim d.threadId)).rows.map ChatMessage.messageId :=
        Ranking.get?_eq_none.1 (freeId?_free hfree)
      have hput : ((s.rows (trim d.threadId)).put (d.row mid)).get? mid =
          if s.HasRoom (trim d.threadId) (d.row mid) then some (d.row mid) else none :=
        Ranking.get?_put_new hnew
      rw [hput]
      by_cases hroom : s.HasRoom (trim d.threadId) (d.row mid)
      · rw [if_pos hroom]
        dsimp only
        rw [mem_entries_iff]
        constructor
        · intro h _ _ _ mid' hmid' _
          obtain rfl := some_inj.1 hmid'
          exact h
        · intro h
          exact h hbad.1 hbad.2.1 hbad.2.2 mid rfl hroom
      · rw [if_neg hroom]
        refine iff_of_true (fun e he => absurd he not_mem_nil) fun _ _ _ mid' hmid' hroom' => ?_
        obtain rfl := some_inj.1 hmid'
        exact absurd hroom' hroom

end Laws

end RezChat.Messages
