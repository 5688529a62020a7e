/-
Reading a thread page by page (`listMessages` of `storage/ChatThreadStore.js`).

A page is cut out of the messages that come strictly after the last one of the page before, in the
order that the messages are kept in. That order takes two messages to be equal if they are of one
moment and `localeCompare` takes their ids to be equal, which it does of ids that differ (in a
control character, or in how an accent is written). Where a page ends between two such messages,
the second is on no page (`skipped_at_boundary`); otherwise every message is read exactly once
(`paging_exact_iff`).
-/
import RezChat.Lib.Paging
import RezChat.Messages.Store

set_option autoImplicit false

namespace RezChat.Messages

open ChatMessage Paging

open Inbox (trim)

variable {c : Collation}

/-! ## Pages -/

/-- `before` and `nextBefore`. -/
structure Cursor where
  createdAtMs : Int
  messageId : String

def ChatMessage.cursor (m : ChatMessage) : Cursor := ⟨m.createdAtMs, m.messageId⟩

/-- `isStrictlyBeforeCursor`. -/
def isStrictlyBeforeCursor (c : Collation) (message : ChatMessage) : Option Cursor → Bool
  | none => true
  | some cursor =>
    if message.createdAtMs < cursor.createdAtMs then true
    else if message.createdAtMs > cursor.createdAtMs then false
    else !c.le cursor.messageId message.messageId

structure Page where
  items : List ChatMessage
  nextBefore : Option Cursor

/-- The limit as it is taken: fifty where there is none, and clamped. -/
def pageSize (limit : Option Int) : Nat :=
  (max 1 (min (maxMessagesPerThread : Int) (limit.getD 50))).toNat

theorem pageSize_pos (limit : Option Int) : 0 < pageSize limit := by
  unfold pageSize
  omega

namespace Store

/-- `listMessages`. -/
def listMessages (s : Store c) (threadId : String) (limit : Option Int) (before : Option Cursor) :
    Page :=
  if trim threadId = "" then ⟨[], none⟩
  else
    let list := (s.rows (trim threadId)).rows.insertionSort (newestFirst c)
    let filtered := list.filter fun message => isStrictlyBeforeCursor c message before
    let items := filtered.take (pageSize limit)
    ⟨items, items.getLast?.map cursor⟩

/-- The pages that a caller reads who goes on from each `nextBefore` until there is none, and whether
it came to that. -/
def pages (s : Store c) (threadId : String) (limit : Option Int) :
    Nat → Option Cursor → List ChatMessage × Bool
  | 0, _ => ([], false)
  | n + 1, before =>
    match (s.listMessages threadId limit before).nextBefore with
    | none => ((s.listMessages threadId limit before).items, true)
    | some cursor => ((s.listMessages threadId limit before).items ++
        (s.pages threadId limit n (some cursor)).1, (s.pages threadId limit n (some cursor)).2)

/-- **Paging is exact**: from no cursor, finitely many pages come to an end, and show each stored
message exactly once, the newest first. -/
def PagingExact (s : Store c) (threadId : String) (limit : Option Int) : Prop :=
  ∃ n, (s.pages threadId limit n none).2 = true ∧
    (s.pages threadId limit n none).1.Perm (s.rows (trim threadId)).rows ∧
    (s.pages threadId limit n none).1.Pairwise (newestFirst c)

/-! ## The order of the messages decides -/

/-- The cursor of a message is passed by what comes strictly after the message. -/
theorem isStrictlyBeforeCursor_iff (message last : ChatMessage) :
    isStrictlyBeforeCursor c message (some last.cursor) = true ↔ ¬ newestFirst c message last := by
  rw [isStrictlyBeforeCursor]
  show (if message.createdAtMs < last.createdAtMs then true
    else if message.createdAtMs > last.createdAtMs then false
    else !c.le last.messageId message.messageId) = true ↔ _
  by_cases hbefore : message.createdAtMs < last.createdAtMs
  · rw [if_pos hbefore]
    refine iff_of_true rfl ?_
    rintro (hafter | ⟨hsame, -⟩)
    · omega
    · omega
  · rw [if_neg hbefore]
    by_cases hafter : message.createdAtMs > last.createdAtMs
    · rw [if_pos hafter]
      exact iff_of_false Bool.false_ne_true fun hnot => hnot (Or.inl hafter)
    · have hsame : last.createdAtMs = message.createdAtMs := by omega
      rw [if_neg hafter, Bool.not_eq_true']
      constructor
      · rintro hfalse (hafter' | ⟨-, htrue⟩)
        · exact hafter hafter'
        · exact Bool.false_ne_true (hfalse.symm.trans htrue)
      · intro hnot
        exact Bool.eq_false_iff.2 fun htrue => hnot (Or.inr ⟨hsame, htrue⟩)

/-- A page, from the start or from a message on. -/
theorem listMessages_eq (s : Store c) {threadId : String} (h : trim threadId ≠ "")
    (limit : Option Int) (before : Option ChatMessage) :
    (s.listMessages threadId limit (before.map cursor)).items =
      (behind (newestFirst c) (s.rows (trim threadId)).rows before).take (pageSize limit) := by
  unfold listMessages
  rw [if_neg h]
  dsimp only
  rw [(s.rows (trim threadId)).sorted.insertionSort_eq]
  congr 1
  cases before with
  | none => exact List.filter_eq_self.2 fun _ _ => rfl
  | some last =>
    refine List.filter_congr fun message _ => ?_
    rw [Bool.eq_iff_iff, decide_eq_true_iff]
    exact isStrictlyBeforeCursor_iff message last

/-- The caller goes through the messages of the thread. -/
theorem pages_eq (s : Store c) {threadId : String} (h : trim threadId ≠ "") (limit : Option Int) :
    ∀ (n : Nat) (before : Option ChatMessage),
      s.pages threadId limit n (before.map cursor) =
        walk (newestFirst c) (pageSize limit) (s.rows (trim threadId)).rows n before
  | 0, _ => rfl
  | n + 1, before => by
    have hitems := s.listMessages_eq h limit before
    have hnext : (s.listMessages threadId limit (before.map cursor)).nextBefore =
        (s.listMessages threadId limit (before.map cursor)).items.getLast?.map
          cursor := by
      unfold listMessages
      rw [if_neg h]
    rw [pages, walk, hnext, hitems]
    cases hlast : ((behind (newestFirst c) (s.rows (trim threadId)).rows before).take
        (pageSize limit)).getLast? with
    | none =>
      rw [List.getLast?_eq_none_iff.1 hlast]
      rfl
    | some last =>
      have hrest := pages_eq s h limit n (some last)
      dsimp only [Option.map_some] at hrest ⊢
      rw [hrest]

/-- **When paging is exact**: exactly if no page ends between two messages that are equal in the
order. -/
theorem paging_exact_iff (s : Store c) (threadId : String) (limit : Option Int)
    (h : trim threadId ≠ "") : s.PagingExact threadId limit ↔
      Paging.Untied (newestFirst c) (pageSize limit) (s.rows (trim threadId)).rows := by
  have hsorted := (s.rows (trim threadId)).sorted
  have hsize := pageSize_pos limit
  have hpages := fun n => s.pages_eq h limit n none
  rw [Option.map_none] at hpages
  unfold PagingExact
  generalize (s.rows (trim threadId)).rows = rows at hsorted hpages ⊢
  constructor
  · rintro ⟨n, hends, hperm, -⟩
    rw [hpages] at hends hperm
    -- the pages after the last one change nothing
    have hmore := walk_of_ended (Nat.le_max_left n (rows.length + 1)) hends
    rw [← hmore] at hperm
    exact (walk_perm_iff hsize hsorted (by omega)).1 hperm
  · intro huntied
    have hall := (walk_eq_iff hsize hsorted (Nat.lt_succ_self rows.length)).2 huntied
    refine ⟨rows.length + 1, ?_, ?_, ?_⟩
    · rw [hpages]
      exact walk_ends hsize hsorted (Nat.lt_succ_self _)
    · rw [hpages, hall]
    · rw [hpages, hall]
      exact hsorted

end Store

/-! ## Two ids that are equal to the collation -/

/-- The characters of an id that are no control characters, as one number. -/
def visible (id : String) : Nat :=
  (id.toList.filter fun ch => 32 ≤ ch.toNat).foldl (fun n ch => n * 1114112 + ch.toNat) 0

/-- `localeCompare` passes over control characters. -/
def Collation.overControls : Collation where
  le a b := decide (visible a ≤ visible b)
  trans _ _ _ hab hbc :=
    decide_eq_true (Nat.le_trans (of_decide_eq_true hab) (of_decide_eq_true hbc))
  total _ _ := (Nat.le_total _ _).imp decide_eq_true decide_eq_true

def deposit (messageId : String) (acceptedAtMs : Int) : Deposit :=
  ⟨messageId, "th_1", "bob", "", acceptedAtMs, "bob", none, "", none⟩

/-- Bob's thread, with what he sent. -/
def thread (deposits : List Deposit) : Store Collation.overControls :=
  deposits.foldl (fun s d => (s.upsertDepositedMessage 0 d).1)
    { (Store.empty : Store Collation.overControls) with
      threads := OrdMap.empty.set "th_1" ⟨.direct, "bob", "inbox", 1, 1⟩ }

/-- **A message on no page.** Bob sends two messages in one moment, and the id of the second has a
control character in it. Read in pages of one, the second is on none of them. -/
theorem skipped_at_boundary :
    ¬(thread [deposit "m" 1, deposit "m\x01" 1]).PagingExact "th_1" (some 1) := by
  rw [Store.paging_exact_iff _ _ _ (by decide)]
  intro h
  exact h 0 ((deposit "m" 1).row "m") ((deposit "m\x01" 1).row "m\x01") (by decide) (by decide)
    (by decide)

/-- Three messages, two of them of one moment. -/
theorem paging_exact_iff_three :
    (thread [deposit "m" 1, deposit "n" 1, deposit "o" 2]).PagingExact "th_1" (some 1) ↔
      Paging.Untied (newestFirst Collation.overControls) (pageSize (some 1))
        ((thread [deposit "m" 1, deposit "n" 1, deposit "o" 2]).rows (Inbox.trim "th_1")).rows :=
  Store.paging_exact_iff _ "th_1" (some 1) (by decide)

end RezChat.Messages
