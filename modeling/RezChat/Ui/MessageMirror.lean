/-
The messages of a thread in the window (`ui/services/bus/MessagesService.js`,
`ui/stores/MessageStore.js`).

The window has a copy of what the server stores. It asks for pages of messages, and it is told of each
change of the store as it happens. The bridge delivers what the server sends in the order in which it
was sent. But a page is read at one moment and sent at a later one, and so is the result of a send:
what happened between them comes first, and is overwritten.

Two orders do harm. A page that was read before a change, and sent after it, takes the change back:
a new message is lost, and one that was removed is shown again. And the result of a send marks its
message as `sent`, or as `failed`, whatever it has become since. In every other order the copy
converges (`run_mirrors`).

The range that is loaded is what the pages that were delivered reach over. What a message is about is
that of `Messages.Row`; records that are not well-formed, and are dropped, do not occur here.
-/
import RezChat.Lib.Runs
import RezChat.Messages.Status

set_option autoImplicit false

namespace RezChat.Ui

open List Ranking Runs

open Messages (ChatMessage MessageStatus Collation Rows newestFirst maxMessagesPerThread
  messageKind)
open Events (Payload)
open Inbox (trim)

variable {c : Collation}

/-! ## The store of the window -/

/-- `compareMessages`, by whether its result is not positive. -/
def oldestFirst (c : Collation) (a b : ChatMessage) : Prop := newestFirst c b a

instance (c : Collation) : DecidableRel (oldestFirst c) := fun a b =>
  inferInstanceAs (Decidable (newestFirst c b a))

/-- The messages of the thread: one for each id, and none without. -/
structure Timeline where
  rows : List ChatMessage
  nodup : (rows.map ChatMessage.messageId).Nodup
  named : ∀ m ∈ rows, m.messageId ≠ ""

namespace Timeline

def empty : Timeline := ⟨[], nodup_nil, by simp⟩

def sorted (c : Collation) (rows : List ChatMessage) : List ChatMessage :=
  rows.insertionSort (oldestFirst c)

theorem mem_sorted {m : ChatMessage} {rows : List ChatMessage} : m ∈ sorted c rows ↔ m ∈ rows :=
  (perm_insertionSort (oldestFirst c) rows).mem_iff

theorem nodup_sorted {rows : List ChatMessage} (h : (rows.map ChatMessage.messageId).Nodup) :
    ((sorted c rows).map ChatMessage.messageId).Nodup :=
  ((perm_insertionSort (oldestFirst c) rows).map ChatMessage.messageId).nodup_iff.2 h

def getMessage (t : Timeline) (messageId : String) : Option ChatMessage :=
  t.rows.find? fun m => decide (m.messageId = messageId)

/-- `upsertMessage`. A record without an id is dropped. -/
def upsertMessage (c : Collation) (t : Timeline) (m : ChatMessage) : Timeline :=
  if hid : m.messageId = "" then t
  else {
    rows := sorted c (setRow ChatMessage.messageId m t.rows)
    nodup := nodup_sorted (nodup_setRow t.nodup)
    named := by
      intro x hx
      rcases mem_setRow.1 (mem_sorted.1 hx) with rfl | ⟨hx, -⟩
      · exact hid
      · exact t.named x hx }

def removeMessage (t : Timeline) (messageId : String) : Timeline where
  rows := t.rows.filter fun m => decide (m.messageId ≠ messageId)
  nodup := t.nodup.sublist (filter_sublist.map ChatMessage.messageId)
  named := fun m hm => t.named m (mem_filter.1 hm).1

/-- `updateStatus`: the row, if it is there, with some of its fields patched. -/
def updateStatus (c : Collation) (t : Timeline) (messageId : String)
    (patch : ChatMessage → ChatMessage) : Timeline :=
  match t.getMessage messageId with
  | some current => t.upsertMessage c (patch current)
  | none => t

end Timeline

/-! ## The store of the server -/

/-- A cursor of `listMessages`. -/
structure Cursor where
  createdAtMs : Int
  messageId : String

def isStrictlyBeforeCursor (c : Collation) (m : ChatMessage) : Option Cursor → Bool
  | none => true
  | some cursor => decide (m.createdAtMs < cursor.createdAtMs) ||
      (decide (m.createdAtMs = cursor.createdAtMs) && !c.le cursor.messageId m.messageId)

/-- A page of messages, newest first. -/
structure Page where
  items : List ChatMessage
  nodup : (items.map ChatMessage.messageId).Nodup

/-- The number of messages that a page is limited to. -/
def pageSize (limit : Nat) : Nat := max 1 (min maxMessagesPerThread limit)

/-- `listMessages`. -/
def listMessages (rows : Rows c) (limit : Nat) (before : Option Cursor) : Page where
  items := (rows.rows.filter fun m => isStrictlyBeforeCursor c m before).take (pageSize limit)
  nodup := rows.nodup.sublist
    (((take_sublist _ _).trans filter_sublist).map ChatMessage.messageId)

/-- A row with another status. -/
def withStatus (status : MessageStatus) (sentAtMs : Option Int) (m : ChatMessage) : ChatMessage :=
  { m with status := status, sentAtMs := sentAtMs.or m.sentAtMs }

/-- A change of the store, as it is emitted. -/
inductive Change where
  | deposited (m : ChatMessage)
  | updated (m : ChatMessage)
  | status (messageId : String) (status : MessageStatus) (sentAtMs : Option Int)
  | removed (messageId : String)

/-- The messages of the thread, and the ids of those that were removed and not stored again. -/
structure History (c : Collation) where
  rows : Rows c
  removed : List String

namespace History

def empty : History c := ⟨Ranking.empty, []⟩

/-- A message is stored. Without an id the store throws. -/
def put (h : History c) (m : ChatMessage) : History c :=
  if m.messageId = "" then h
  else ⟨h.rows.put m, h.removed.filter fun id => decide (id ≠ m.messageId)⟩

def apply (h : History c) : Change → History c
  | .deposited m => h.put m
  | .updated m => h.put m
  | .status messageId status sentAtMs =>
    match h.rows.get? messageId with
    | some current => { h with rows := h.rows.put (withStatus status sentAtMs current) }
    | none => h
  | .removed messageId => ⟨h.rows.remove messageId, messageId :: h.removed⟩

end History

/-! ## Ranges -/

/-- What a page reaches over: from a cursor, or from the newest message, to the oldest one that is on
it, or to the very first if it is not full. -/
structure Span where
  before : Option Cursor
  oldest : Option ChatMessage

/-- The span of a page. -/
def Page.span (page : Page) (limit : Nat) (before : Option Cursor) : Span :=
  ⟨before, if page.items.length < pageSize limit then none else page.items.getLast?⟩

/-- A message that comes after the oldest one in the order of the store. -/
def Span.Covers (c : Collation) (s : Span) (m : ChatMessage) : Prop :=
  isStrictlyBeforeCursor c m s.before = true ∧
    ∀ oldest ∈ s.oldest, m.messageId = oldest.messageId ∨ ¬ newestFirst c oldest m

instance (s : Span) (m : ChatMessage) : Decidable (s.Covers c m) := by
  unfold Span.Covers
  infer_instance

/-! ## The window and the server -/

/-- What becomes of a send. -/
inductive SendOutcome where
  | accepted (messageId : String) (acceptedAtMs : Option Int)
  | rejected

/-- What the server sends: its changes, pages with what was asked for, and the result of the send of a
message that was begun at a time. -/
inductive Frame where
  | change (ch : Change)
  | listed (limit : Nat) (before : Option Cursor) (page : Page)
  | answered (messageId : String) (nowMs : Int) (outcome : SendOutcome)

/-- The store of the server; the store as it was after the last change that was delivered; that of the
window, with the spans that are loaded; the lists that were asked for; the pages that were read and not
sent yet; the sends that are not answered; and what is on its way to the window. -/
structure Mirror (c : Collation) where
  stored : History c
  seen : History c
  ui : Timeline
  loaded : Bool
  spans : List Span
  lists : List (Nat × Option Cursor)
  pages : List (Nat × Option Cursor × Page)
  sends : List (String × Int)
  frames : List Frame

namespace Mirror

def start : Mirror c := ⟨History.empty, History.empty, Timeline.empty, false, [], [], [], [], []⟩

/-! ### Pages -/

/-- `ensureList`, up to its await. -/
def ensureList (w : Mirror c) (limit : Nat) (before : Option Cursor) (force : Bool) : Mirror c :=
  if !force && before.isNone && w.loaded then w
  else { w with lists := w.lists ++ [(limit, before)] }

/-- The server reads a page, and sends it. -/
def reads (w : Mirror c) (k : Nat) : Mirror c :=
  match w.lists[k]? with
  | some (limit, before) =>
    { w with
      lists := w.lists.eraseIdx k
      pages := w.pages ++ [(limit, before, listMessages w.stored.rows limit before)] }
  | none => w

def responds (w : Mirror c) (k : Nat) : Mirror c :=
  match w.pages[k]? with
  | some (limit, before, page) =>
    { w with pages := w.pages.eraseIdx k, frames := w.frames ++ [.listed limit before page] }
  | none => w

/-- `replaceMessages`. -/
def replaceMessages (c : Collation) (page : Page) : Timeline where
  rows := Timeline.sorted c (page.items.filter fun m => decide (m.messageId ≠ ""))
  nodup := Timeline.nodup_sorted
    (page.nodup.sublist (filter_sublist.map ChatMessage.messageId))
  named := fun m hm => by
    rw [Timeline.mem_sorted, mem_filter, decide_eq_true_iff] at hm
    exact hm.2

/-- `ensureList`, after its await. -/
def handleListed (w : Mirror c) (limit : Nat) (before : Option Cursor) (page : Page) : Mirror c :=
  match before with
  | none => { w with ui := replaceMessages c page, loaded := true, spans := [page.span limit none] }
  | some cursor =>
    { w with
      ui := page.items.foldl (Timeline.upsertMessage c) w.ui
      loaded := true
      spans := w.spans ++ [page.span limit (some cursor)] }

/-! ### Sends -/

/-- The optimistic row of a send. What it is a reply to is not told here. -/
def optimistic (threadId messageId selfAccountId body channelId : String) (nowMs : Int) :
    ChatMessage :=
  let payload : Payload :=
    { kind := some messageKind
      text := some body
      channelId := if channelId = "" then none else some channelId }
  ⟨threadId, messageId, selfAccountId, "", "", .pending, body, some payload, nowMs, some nowMs, none,
    none, none, OrdMap.empty, false, ""⟩

/-- An id that was just made. It has a random part, so that no message has it. -/
def Fresh (w : Mirror c) (messageId : String) : Prop :=
  messageId ≠ "" ∧ messageId ∉ w.ui.rows.map ChatMessage.messageId ∧
    messageId ∉ w.seen.rows.rows.map ChatMessage.messageId ∧ messageId ∉ w.seen.removed

instance (w : Mirror c) (messageId : String) : Decidable (w.Fresh messageId) := by
  unfold Fresh
  infer_instance

/-- `send` of a new message, up to its await. -/
def send (w : Mirror c) (threadId messageId selfAccountId text channelId : String) (nowMs : Int) :
    Mirror c :=
  if trim text ≠ "" ∧ w.Fresh messageId then
    { w with
      ui := w.ui.upsertMessage c
        (optimistic threadId messageId selfAccountId (trim text) (trim channelId) nowMs)
      sends := w.sends ++ [(messageId, nowMs)] }
  else w

/-- `send` of a message that is there already. -/
def resend (w : Mirror c) (messageId : String) (nowMs : Int) : Mirror c :=
  match w.ui.getMessage messageId with
  | some existing =>
    { w with
      ui := w.ui.upsertMessage c { existing with status := .pending }
      sends := w.sends ++ [(existing.messageId, nowMs)] }
  | none => w

/-- The server answers a send. -/
def answers (w : Mirror c) (k : Nat) (outcome : SendOutcome) : Mirror c :=
  match w.sends[k]? with
  | some (messageId, nowMs) =>
    { w with
      sends := w.sends.eraseIdx k
      frames := w.frames ++ [.answered messageId nowMs outcome] }
  | none => w

/-- The patch of a send that was accepted. The time zero counts as none. -/
def sentPatch (acceptedAtMs : Option Int) (nowMs : Int) (m : ChatMessage) : ChatMessage :=
  let atMs := if Messages.isSet acceptedAtMs then acceptedAtMs.getD 0 else nowMs
  { m with status := .sent, acceptedAtMs := some atMs, sentAtMs := some atMs }

/-- `send`, after its await. -/
def handleSent (w : Mirror c) (messageId : String) (nowMs : Int) : SendOutcome → Mirror c
  | .rejected =>
    { w with ui := w.ui.updateStatus c messageId fun m => { m with status := .failed } }
  | .accepted resultId acceptedAtMs =>
    if resultId = messageId then
      { w with ui := w.ui.updateStatus c messageId (sentPatch acceptedAtMs nowMs) }
    else w

/-- The bridge gives a send up, by a timeout or because the socket was closed. -/
def rejects (w : Mirror c) (k : Nat) : Mirror c :=
  match w.sends[k]? with
  | some (messageId, nowMs) =>
    { w with sends := w.sends.eraseIdx k }.handleSent messageId nowMs .rejected
  | none => w

/-! ### Changes -/

/-- `_handleDeposited`, `_handleUpdated`, `_handleStatus` and `_handleRemoved`. -/
def handleChange (w : Mirror c) (ch : Change) : Mirror c :=
  { w with
    seen := w.seen.apply ch
    ui := match ch with
      | .deposited m => w.ui.upsertMessage c m
      | .updated m => w.ui.upsertMessage c m
      | .status messageId status sentAtMs =>
        w.ui.updateStatus c messageId (withStatus status sentAtMs)
      | .removed messageId => w.ui.removeMessage messageId }

def handle (w : Mirror c) : Frame → Mirror c
  | .change ch => w.handleChange ch
  | .listed limit before page => w.handleListed limit before page
  | .answered messageId nowMs outcome => w.handleSent messageId nowMs outcome

/-- The next frame is delivered. -/
def deliver (w : Mirror c) : Mirror c :=
  match w.frames with
  | frame :: frames => { w with frames := frames }.handle frame
  | [] => w

end Mirror

/-! ## Runs -/

inductive MirrorEvent where
  | change (ch : Change)
  | ensureList (limit : Nat) (before : Option Cursor) (force : Bool)
  | reads (k : Nat)
  | responds (k : Nat)
  | send (threadId messageId selfAccountId text channelId : String) (nowMs : Int)
  | resend (messageId : String) (nowMs : Int)
  | answers (k : Nat) (outcome : SendOutcome)
  | rejects (k : Nat)
  | deliver

/-- What a message says, apart from how far it has come. -/
def content (m : ChatMessage) : ChatMessage :=
  { m with status := .pending, acceptedAtMs := none, sentAtMs := none }

namespace Mirror

def step (w : Mirror c) : MirrorEvent → Mirror c
  | .change ch => { w with stored := w.stored.apply ch, frames := w.frames ++ [.change ch] }
  | .ensureList limit before force => w.ensureList limit before force
  | .reads k => w.reads k
  | .responds k => w.responds k
  | .send threadId messageId selfAccountId text channelId nowMs =>
    w.send threadId messageId selfAccountId text channelId nowMs
  | .resend messageId nowMs => w.resend messageId nowMs
  | .answers k outcome => w.answers k outcome
  | .rejects k => w.rejects k
  | .deliver => w.deliver

def after (c : Collation) (es : List MirrorEvent) : Mirror c := run step start es

/-- When all was delivered, the window has each message that the server stores in the range that is
loaded, with what it says, and none that was removed. -/
def Converged (w : Mirror c) : Prop :=
  w.frames = [] →
    (∀ m ∈ w.stored.rows.rows, (∃ s ∈ w.spans, s.Covers c m) →
      ∃ m' ∈ w.ui.rows, content m' = content m) ∧
    ∀ m' ∈ w.ui.rows, m'.messageId ∉ w.stored.removed

/-- No status moves back from `delivered`. -/
def KeepsDelivered (w : Mirror c) (e : MirrorEvent) : Prop :=
  ∀ m ∈ w.ui.rows, m.status = .delivered →
    ∀ m' ∈ (w.step e).ui.rows, m'.messageId = m.messageId → m'.status = .delivered

/-- The window does not show a message as delivered. -/
def Undelivered (w : Mirror c) (messageId : String) : Prop :=
  ∀ m ∈ w.ui.rows, m.messageId = messageId → m.status ≠ .delivered

/-- What is to be so when a frame is delivered: a page is what the server would list after the changes
that came before it; a send that is answered has not brought its message to `delivered` yet; and no
change of the server itself takes back a message that was delivered. -/
def InOrder (w : Mirror c) : Frame → Prop
  | .change (.deposited m) => m.status = .delivered ∨ w.Undelivered m.messageId
  | .change (.updated m) => m.status = .delivered ∨ w.Undelivered m.messageId
  | .change (.status messageId status _) => status = .delivered ∨ w.Undelivered messageId
  | .change (.removed _) => True
  | .listed limit before page => page.items = (listMessages w.seen.rows limit before).items
  | .answered messageId _ _ => w.Undelivered messageId

/-- A message that was delivered is not sent again, and its send is not given up. -/
def Orderly (w : Mirror c) : MirrorEvent → Prop
  | .resend messageId _ => w.Undelivered messageId
  | .rejects k => ∀ s ∈ w.sends[k]?, w.Undelivered s.1
  | .deliver => ∀ frame ∈ w.frames.head?, w.InOrder frame
  | _ => True

instance (w : Mirror c) (messageId : String) : Decidable (w.Undelivered messageId) := by
  unfold Undelivered
  infer_instance

instance (w : Mirror c) : ∀ frame, Decidable (w.InOrder frame)
  | .change (.deposited _) => inferInstanceAs (Decidable (_ ∨ _))
  | .change (.updated _) => inferInstanceAs (Decidable (_ ∨ _))
  | .change (.status _ _ _) => inferInstanceAs (Decidable (_ ∨ _))
  | .change (.removed _) => isTrue trivial
  | .listed _ _ _ => inferInstanceAs (Decidable (_ = _))
  | .answered messageId _ _ => inferInstanceAs (Decidable (w.Undelivered messageId))

instance (w : Mirror c) : ∀ e, Decidable (w.Orderly e)
  | .resend messageId _ => inferInstanceAs (Decidable (w.Undelivered messageId))
  | .rejects k => inferInstanceAs (Decidable (∀ s ∈ w.sends[k]?, w.Undelivered s.1))
  | .deliver => inferInstanceAs (Decidable (∀ frame ∈ w.frames.head?, w.InOrder frame))
  | .change _ => isTrue trivial
  | .ensureList _ _ _ => isTrue trivial
  | .reads _ => isTrue trivial
  | .responds _ => isTrue trivial
  | .send _ _ _ _ _ _ => isTrue trivial
  | .answers _ _ => isTrue trivial

end Mirror

/-! ## Rows of the window -/

section Rows

variable {t : Timeline} {m b : ChatMessage} {messageId : String}

theorem mem_upsertMessage (hid : m.messageId ≠ "") :
    b ∈ (t.upsertMessage c m).rows ↔ b = m ∨ (b ∈ t.rows ∧ b.messageId ≠ m.messageId) := by
  rw [Timeline.upsertMessage, dif_neg hid]
  show b ∈ Timeline.sorted c _ ↔ _
  rw [Timeline.mem_sorted]
  exact mem_setRow

theorem mem_removeMessage : b ∈ (t.removeMessage messageId).rows ↔
    b ∈ t.rows ∧ b.messageId ≠ messageId := by
  show b ∈ filter _ t.rows ↔ _
  rw [mem_filter, decide_eq_true_iff]

theorem getMessage_eq (hm : m ∈ t.rows) : t.getMessage m.messageId = some m := by
  rw [Timeline.getMessage]
  cases hfind : t.rows.find? fun x => decide (x.messageId = m.messageId) with
  | none =>
    have hnone := find?_eq_none.1 hfind m hm
    simp at hnone
  | some x =>
    have hkey : x.messageId = m.messageId := by simpa using find?_some hfind
    rw [inj_on_of_nodup_map t.nodup (mem_of_find?_eq_some hfind) hm hkey]

theorem of_getMessage (h : t.getMessage messageId = some m) :
    m ∈ t.rows ∧ m.messageId = messageId :=
  ⟨mem_of_find?_eq_some h, by simpa using find?_some h⟩

/-- A patch that leaves the id alone changes one row, if it is there. -/
theorem mem_updateStatus {patch : ChatMessage → ChatMessage}
    (hpatch : ∀ x, (patch x).messageId = x.messageId) :
    b ∈ (t.updateStatus c messageId patch).rows ↔
      (∃ x ∈ t.rows, x.messageId = messageId ∧ b = patch x) ∨
        (b ∈ t.rows ∧ b.messageId ≠ messageId) := by
  rw [Timeline.updateStatus]
  cases hget : t.getMessage messageId with
  | none =>
    have hnone : ∀ x ∈ t.rows, x.messageId ≠ messageId := by
      intro x hx hkey
      rw [← hkey, getMessage_eq hx] at hget
      cases hget
    constructor
    · intro hb
      exact .inr ⟨hb, hnone b hb⟩
    · rintro (⟨x, hx, hkey, -⟩ | ⟨hb, -⟩)
      · exact absurd hkey (hnone x hx)
      · exact hb
  | some x =>
    obtain ⟨hx, hkey⟩ := of_getMessage hget
    have hpx : (patch x).messageId = messageId := (hpatch x).trans hkey
    show b ∈ (t.upsertMessage c (patch x)).rows ↔ _
    rw [mem_upsertMessage (by rw [hpx, ← hkey]; exact t.named x hx), hpx]
    constructor
    · rintro (rfl | hb)
      · exact .inl ⟨x, hx, hkey, rfl⟩
      · exact .inr hb
    · rintro (⟨y, hy, hykey, rfl⟩ | hb)
      · rw [← hykey, getMessage_eq hy] at hget
        rw [Option.some_inj.1 hget]
        exact .inl rfl
      · exact .inr hb

end Rows

/-! ## Rows of the server -/

section Server

variable {h : History c} {m b : ChatMessage} {messageId : String}

theorem mem_put (hb : b ∈ (h.put m).rows.rows) :
    (m.messageId ≠ "" ∧ b = m) ∨
      (b ∈ h.rows.rows ∧ (m.messageId ≠ "" → b.messageId ≠ m.messageId)) := by
  rw [History.put] at hb
  by_cases hid : m.messageId = ""
  · rw [if_pos hid] at hb
    exact .inr ⟨hb, fun hne => absurd hid hne⟩
  · rw [if_neg hid] at hb
    rcases mem_of_mem_put hb with rfl | ⟨hold, hne⟩
    · exact .inl ⟨hid, rfl⟩
    · exact .inr ⟨hold, fun _ => hne⟩

theorem mem_status {status : MessageStatus} {sentAtMs : Option Int}
    (hb : b ∈ (h.apply (.status messageId status sentAtMs)).rows.rows) :
    (∃ x ∈ h.rows.rows, x.messageId = messageId ∧ b = withStatus status sentAtMs x) ∨
      (b ∈ h.rows.rows ∧ b.messageId ≠ messageId) := by
  rw [History.apply] at hb
  cases hget : h.rows.get? messageId with
  | none =>
    rw [hget] at hb
    refine .inr ⟨hb, fun hkey => get?_eq_none.1 hget ?_⟩
    exact mem_map.2 ⟨b, hb, hkey⟩
  | some x =>
    rw [hget] at hb
    obtain ⟨hx, hkey⟩ := get?_eq_some.1 hget
    rcases mem_of_mem_put hb with rfl | ⟨hold, hne⟩
    · exact .inl ⟨x, hx, hkey, rfl⟩
    · exact .inr ⟨hold, fun hb' => hne (hb'.trans hkey.symm)⟩

theorem mem_remove (hb : b ∈ (h.rows.remove messageId).rows) :
    b ∈ h.rows.rows ∧ b.messageId ≠ messageId := by
  have hmem : b ∈ h.rows.rows.filter fun x => decide (x.messageId ≠ messageId) := hb
  rw [mem_filter, decide_eq_true_iff] at hmem
  exact hmem

/-- What the server stores has an id, and was not removed. -/
def History.Sound (h : History c) : Prop :=
  ∀ m ∈ h.rows.rows, m.messageId ≠ "" ∧ m.messageId ∉ h.removed

theorem History.Sound.put (hs : h.Sound) (m : ChatMessage) : (h.put m).Sound := by
  intro b hb
  rw [History.put]
  by_cases hid : m.messageId = ""
  · rw [if_pos hid]
    rw [History.put, if_pos hid] at hb
    exact hs b hb
  · rw [if_neg hid]
    show _ ∧ b.messageId ∉ filter _ h.removed
    rw [mem_filter, decide_eq_true_iff]
    rcases mem_put hb with ⟨-, rfl⟩ | ⟨hold, hne⟩
    · exact ⟨hid, fun hmem => hmem.2 rfl⟩
    · exact ⟨(hs b hold).1, fun hmem => (hs b hold).2 hmem.1⟩

theorem History.Sound.apply (hs : h.Sound) (ch : Change) : (h.apply ch).Sound := by
  cases ch with
  | deposited m => exact hs.put m
  | updated m => exact hs.put m
  | status messageId status sentAtMs =>
    intro b hb
    have hremoved : (h.apply (.status messageId status sentAtMs)).removed = h.removed := by
      rw [History.apply]
      split <;> rfl
    rw [hremoved]
    rcases mem_status hb with ⟨x, hx, -, rfl⟩ | ⟨hold, -⟩
    · exact hs x hx
    · exact hs b hold
  | removed messageId =>
    intro b hb
    obtain ⟨hold, hne⟩ := mem_remove hb
    refine ⟨(hs b hold).1, fun hmem => ?_⟩
    rcases mem_cons.1 hmem with hkey | hmem
    · exact hne hkey
    · exact (hs b hold).2 hmem

end Server

/-! ## Pages -/

section Pages

variable {rows : Rows c} {m : ChatMessage} {limit : Nat} {before : Option Cursor}

theorem mem_of_mem_page (h : m ∈ (listMessages rows limit before).items) : m ∈ rows.rows :=
  (mem_filter.1 (mem_of_mem_take h)).1

/-- A page has all that it reaches over: what it leaves out comes after its oldest message. -/
theorem mem_page_of_covers (hm : m ∈ rows.rows)
    (hcovers : ((listMessages rows limit before).span limit before).Covers c m) :
    m ∈ (listMessages rows limit before).items := by
  obtain ⟨hbefore, holdest⟩ := hcovers
  have hfiltered : m ∈ rows.rows.filter fun x => isStrictlyBeforeCursor c x before :=
    mem_filter.2 ⟨hm, hbefore⟩
  have hsplit := take_append_drop (pageSize limit)
    (rows.rows.filter fun x => isStrictlyBeforeCursor c x before)
  have hsorted : ((rows.rows.filter fun x => isStrictlyBeforeCursor c x before)).Pairwise
      (newestFirst c) := rows.sorted.sublist filter_sublist
  rw [← hsplit] at hfiltered hsorted
  rcases mem_append.1 hfiltered with htaken | hdropped
  · exact htaken
  · -- something was left out, so that the page is full, and has an oldest message
    have hfull : ¬ (listMessages rows limit before).items.length < pageSize limit := by
      have hlong := length_pos_of_mem hdropped
      rw [length_drop] at hlong
      show ¬ (take _ _).length < _
      rw [length_take]
      omega
    have hne : (listMessages rows limit before).items ≠ [] := by
      intro hnil
      rw [hnil] at hfull
      exact hfull (by rw [pageSize]; exact lt_of_lt_of_le Nat.zero_lt_one (Nat.le_max_left _ _))
    have hlast : (listMessages rows limit before).items.getLast hne ∈
        (listMessages rows limit before).items := getLast_mem hne
    have hspan : (listMessages rows limit before).items.getLast hne ∈
        ((listMessages rows limit before).span limit before).oldest := by
      show _ ∈ (if _ then none else _)
      rw [if_neg hfull]
      exact getLast?_eq_some_getLast hne
    rcases holdest _ hspan with hkey | hnewer
    · rw [inj_on_of_nodup_map rows.nodup hm (mem_of_mem_page hlast) hkey]
      exact hlast
    · exact absurd ((pairwise_append.1 hsorted).2.2 _ hlast m hdropped) hnewer

end Pages

/-! ## A window that follows the server -/

/-- How the rows of the window stand to what the server stored, as far as the window was told. -/
structure Follows (c : Collation) (seen : History c) (ui : Timeline) (spans : List Span) : Prop where
  held : ∀ m ∈ seen.rows.rows, (∃ s ∈ spans, s.Covers c m) →
    ∃ m' ∈ ui.rows, content m' = content m
  gone : ∀ m' ∈ ui.rows, m'.messageId ∉ seen.removed
  /-- The window shows nothing as delivered that the server does not. -/
  delivered : ∀ m' ∈ ui.rows, m'.status = .delivered →
    ∀ m ∈ seen.rows.rows, m.messageId = m'.messageId → m.status = .delivered

section Follows

variable {seen : History c} {ui : Timeline} {spans : List Span} {m : ChatMessage}
  {messageId : String}

theorem messageId_of_content {m m' : ChatMessage} (h : content m' = content m) :
    m'.messageId = m.messageId := by
  show (content m').messageId = (content m).messageId
  rw [h]

section

variable (h : Follows c seen ui spans)
include h

/-- A message is stored, and the window is told. -/
theorem Follows.put (m : ChatMessage) :
    Follows c (seen.put m) (ui.upsertMessage c m) spans := by
  by_cases hid : m.messageId = ""
  · rw [History.put, if_pos hid, Timeline.upsertMessage, dif_pos hid]
    exact h
  · refine ⟨?_, ?_, ?_⟩
    · intro b hb hcovers
      rcases mem_put hb with ⟨-, rfl⟩ | ⟨hold, hne⟩
      · exact ⟨b, (mem_upsertMessage hid).2 (.inl rfl), rfl⟩
      · obtain ⟨b', hb', hcontent⟩ := h.held b hold hcovers
        refine ⟨b', (mem_upsertMessage hid).2 (.inr ⟨hb', ?_⟩), hcontent⟩
        rw [messageId_of_content hcontent]
        exact hne hid
    · intro b hb hmem
      rw [History.put, if_neg hid] at hmem
      have hremoved : b.messageId ∈ seen.removed.filter fun id => decide (id ≠ m.messageId) := hmem
      rw [mem_filter, decide_eq_true_iff] at hremoved
      rcases (mem_upsertMessage hid).1 hb with rfl | ⟨hold, -⟩
      · exact hremoved.2 rfl
      · exact h.gone b hold hremoved.1
    · intro b hb hstatus x hx hkey
      rcases (mem_upsertMessage hid).1 hb with rfl | ⟨hold, hne⟩
      · rcases mem_put hx with ⟨-, rfl⟩ | ⟨-, hother⟩
        · exact hstatus
        · exact absurd hkey (hother hid)
      · rcases mem_put hx with ⟨-, rfl⟩ | ⟨hxold, -⟩
        · exact absurd hkey.symm hne
        · exact h.delivered b hold hstatus x hxold hkey

theorem Follows.status (messageId : String) (status : MessageStatus)
    (sentAtMs : Option Int) :
    Follows c (seen.apply (.status messageId status sentAtMs))
      (ui.updateStatus c messageId (withStatus status sentAtMs)) spans := by
  have hpatch : ∀ x, (withStatus status sentAtMs x).messageId = x.messageId := fun _ => rfl
  refine ⟨?_, ?_, ?_⟩
  · intro b hb hcovers
    rcases mem_status hb with ⟨x, hx, hkey, rfl⟩ | ⟨hold, hne⟩
    · obtain ⟨x', hx', hcontent⟩ := h.held x hx hcovers
      refine ⟨withStatus status sentAtMs x', (mem_updateStatus hpatch).2 (.inl ⟨x', hx', ?_, rfl⟩),
        hcontent⟩
      exact (messageId_of_content hcontent).trans hkey
    · obtain ⟨b', hb', hcontent⟩ := h.held b hold hcovers
      refine ⟨b', (mem_updateStatus hpatch).2 (.inr ⟨hb', ?_⟩), hcontent⟩
      rw [messageId_of_content hcontent]
      exact hne
  · have hremoved : (seen.apply (.status messageId status sentAtMs)).removed = seen.removed := by
      rw [History.apply]
      split <;> rfl
    intro b hb
    rw [hremoved]
    rcases (mem_updateStatus hpatch).1 hb with ⟨x, hx, -, rfl⟩ | ⟨hold, -⟩
    · exact h.gone x hx
    · exact h.gone b hold
  · intro b hb hdelivered y hy hkey
    rcases (mem_updateStatus hpatch).1 hb with ⟨x, -, hxkey, rfl⟩ | ⟨hold, hne⟩
    · -- the row and the stored one have just got the same status
      rcases mem_status hy with ⟨z, -, -, rfl⟩ | ⟨-, hyne⟩
      · exact hdelivered
      · exact absurd (hkey.trans hxkey) hyne
    · rcases mem_status hy with ⟨z, -, hzkey, rfl⟩ | ⟨hyold, -⟩
      · exact absurd (hkey.symm.trans hzkey) hne
      · exact h.delivered b hold hdelivered y hyold hkey

theorem Follows.removed (messageId : String) :
    Follows c (seen.apply (.removed messageId)) (ui.removeMessage messageId) spans := by
  refine ⟨?_, ?_, ?_⟩
  · intro b hb hcovers
    obtain ⟨hold, hne⟩ := mem_remove hb
    obtain ⟨b', hb', hcontent⟩ := h.held b hold hcovers
    refine ⟨b', mem_removeMessage.2 ⟨hb', ?_⟩, hcontent⟩
    rw [messageId_of_content hcontent]
    exact hne
  · intro b hb hmem
    obtain ⟨hold, hne⟩ := mem_removeMessage.1 hb
    rcases mem_cons.1 hmem with hkey | hmem
    · exact hne hkey
    · exact h.gone b hold hmem
  · intro b hb hdelivered y hy
    exact h.delivered b (mem_removeMessage.1 hb).1 hdelivered y (mem_remove hy).1

/-- The window marks a row of its own accord, as anything but delivered. -/
theorem Follows.mark (messageId : String)
    {patch : ChatMessage → ChatMessage} (hpatch : ∀ x, content (patch x) = content x)
    (hstatus : ∀ x, (patch x).status ≠ .delivered) :
    Follows c seen (ui.updateStatus c messageId patch) spans := by
  have hkeeps : ∀ x, (patch x).messageId = x.messageId := fun x => messageId_of_content (hpatch x)
  refine ⟨?_, ?_, ?_⟩
  · intro b hb hcovers
    obtain ⟨b', hb', hcontent⟩ := h.held b hb hcovers
    by_cases hkey : b'.messageId = messageId
    · exact ⟨patch b', (mem_updateStatus hkeeps).2 (.inl ⟨b', hb', hkey, rfl⟩),
        (hpatch b').trans hcontent⟩
    · exact ⟨b', (mem_updateStatus hkeeps).2 (.inr ⟨hb', hkey⟩), hcontent⟩
  · intro b hb
    rcases (mem_updateStatus hkeeps).1 hb with ⟨x, hx, -, rfl⟩ | ⟨hold, -⟩
    · rw [hkeeps]
      exact h.gone x hx
    · exact h.gone b hold
  · intro b hb hdelivered
    rcases (mem_updateStatus hkeeps).1 hb with ⟨x, -, -, rfl⟩ | ⟨hold, -⟩
    · exact absurd hdelivered (hstatus x)
    · exact h.delivered b hold hdelivered

/-- A row that nobody has yet. -/
theorem Follows.own (hid : m.messageId ≠ "")
    (hnew : m.messageId ∉ ui.rows.map ChatMessage.messageId) (hgone : m.messageId ∉ seen.removed)
    (hstatus : m.status ≠ .delivered) : Follows c seen (ui.upsertMessage c m) spans := by
  refine ⟨?_, ?_, ?_⟩
  · intro b hb hcovers
    obtain ⟨b', hb', hcontent⟩ := h.held b hb hcovers
    refine ⟨b', (mem_upsertMessage hid).2 (.inr ⟨hb', fun hkey => hnew ?_⟩), hcontent⟩
    exact mem_map.2 ⟨b', hb', hkey⟩
  · intro b hb
    rcases (mem_upsertMessage hid).1 hb with rfl | ⟨hold, -⟩
    · exact hgone
    · exact h.gone b hold
  · intro b hb hdelivered
    rcases (mem_upsertMessage hid).1 hb with rfl | ⟨hold, -⟩
    · exact absurd hdelivered hstatus
    · exact h.delivered b hold hdelivered

/-! ### Pages -/

/-- A message that is stored comes with a page. -/
theorem Follows.upsert (hsound : seen.Sound)
    (hm : m ∈ seen.rows.rows) : Follows c seen (ui.upsertMessage c m) spans := by
  obtain ⟨hid, hgone⟩ := hsound m hm
  refine ⟨?_, ?_, ?_⟩
  · intro b hb hcovers
    by_cases hkey : b.messageId = m.messageId
    · have hbm : b = m := inj_on_of_nodup_map seen.rows.nodup hb hm hkey
      exact ⟨m, (mem_upsertMessage hid).2 (.inl rfl), by rw [hbm]⟩
    · obtain ⟨b', hb', hcontent⟩ := h.held b hb hcovers
      refine ⟨b', (mem_upsertMessage hid).2 (.inr ⟨hb', ?_⟩), hcontent⟩
      rw [messageId_of_content hcontent]
      exact hkey
  · intro b hb
    rcases (mem_upsertMessage hid).1 hb with rfl | ⟨hold, -⟩
    · exact hgone
    · exact h.gone b hold
  · intro b hb hdelivered y hy hkey
    rcases (mem_upsertMessage hid).1 hb with rfl | ⟨hold, -⟩
    · rw [inj_on_of_nodup_map seen.rows.nodup hy hm hkey]
      exact hdelivered
    · exact h.delivered b hold hdelivered y hy hkey

end

theorem Follows.upsertAll (hsound : seen.Sound) : ∀ (items : List ChatMessage) {ui : Timeline},
    Follows c seen ui spans → (∀ m ∈ items, m ∈ seen.rows.rows) →
      Follows c seen (items.foldl (Timeline.upsertMessage c) ui) spans
  | [], _, h, _ => h
  | m :: items, _, h, hitems =>
    Follows.upsertAll hsound items (h.upsert hsound (hitems m mem_cons_self))
      fun x hx => hitems x (mem_cons_of_mem m hx)

/-- A row of the window after a page is one of the page, or was there before. -/
theorem of_mem_upsertAll : ∀ (items : List ChatMessage) {ui : Timeline},
    m ∈ (items.foldl (Timeline.upsertMessage c) ui).rows → m ∈ items ∨ m ∈ ui.rows
  | [], _, h => .inr h
  | x :: items, ui, h => by
    rcases of_mem_upsertAll items h with hmem | hmem
    · exact .inl (mem_cons_of_mem x hmem)
    · by_cases hid : x.messageId = ""
      · rw [Timeline.upsertMessage, dif_pos hid] at hmem
        exact .inr hmem
      · rcases (mem_upsertMessage hid).1 hmem with rfl | ⟨hold, -⟩
        · exact .inl mem_cons_self
        · exact .inr hold

/-- The messages of a page have different ids, so that each is there after it. -/
theorem mem_upsertAll : ∀ (items : List ChatMessage) {ui : Timeline},
    (items.map ChatMessage.messageId).Nodup → (∀ x ∈ items, x.messageId ≠ "") →
      (m ∈ items ∨ (m ∈ ui.rows ∧ m.messageId ∉ items.map ChatMessage.messageId)) →
      m ∈ (items.foldl (Timeline.upsertMessage c) ui).rows
  | [], _, _, _, h => by simpa using h
  | x :: items, ui, hnodup, hnamed, h => by
    rw [map_cons, nodup_cons] at hnodup
    have hid : x.messageId ≠ "" := hnamed x mem_cons_self
    refine mem_upsertAll items hnodup.2 (fun y hy => hnamed y (mem_cons_of_mem x hy)) ?_
    rcases h with hmem | ⟨hold, hother⟩
    · rcases mem_cons.1 hmem with rfl | hmem
      · exact .inr ⟨(mem_upsertMessage hid).2 (.inl rfl), hnodup.1⟩
      · exact .inl hmem
    · rw [map_cons, mem_cons] at hother
      refine .inr ⟨(mem_upsertMessage hid).2 (.inr ⟨hold, ?_⟩), ?_⟩
      · exact fun hkey => hother (.inl hkey)
      · exact fun hmem => hother (.inr hmem)

/-- The first page takes the place of what the window has. -/
theorem Follows.replace (hsound : seen.Sound) {page : Page} {limit : Nat}
    (hpage : page.items = (listMessages seen.rows limit none).items) :
    Follows c seen (Mirror.replaceMessages c page) [page.span limit none] := by
  have hmem : ∀ b, b ∈ (Mirror.replaceMessages c page).rows ↔ b ∈ page.items := by
    intro b
    show b ∈ Timeline.sorted c _ ↔ _
    rw [Timeline.mem_sorted, mem_filter, decide_eq_true_iff]
    refine ⟨fun hb => hb.1, fun hb => ⟨hb, ?_⟩⟩
    rw [hpage] at hb
    exact (hsound b (mem_of_mem_page hb)).1
  have hstored : ∀ b ∈ page.items, b ∈ seen.rows.rows := by
    intro b hb
    rw [hpage] at hb
    exact mem_of_mem_page hb
  refine ⟨?_, ?_, ?_⟩
  · rintro b hb ⟨s, hs, hcovers⟩
    rw [mem_singleton.1 hs, Page.span, hpage] at hcovers
    refine ⟨b, (hmem b).2 ?_, rfl⟩
    rw [hpage]
    exact mem_page_of_covers hb hcovers
  · intro b hb
    exact (hsound b (hstored b ((hmem b).1 hb))).2
  · intro b hb hdelivered y hy hkey
    rw [inj_on_of_nodup_map seen.rows.nodup hy (hstored b ((hmem b).1 hb)) hkey]
    exact hdelivered

/-- A later page is added. -/
theorem Follows.append (h : Follows c seen ui spans) (hsound : seen.Sound) {page : Page}
    {limit : Nat} {before : Option Cursor}
    (hpage : page.items = (listMessages seen.rows limit before).items) :
    Follows c seen (page.items.foldl (Timeline.upsertMessage c) ui)
      (spans ++ [page.span limit before]) := by
  have hstored : ∀ b ∈ page.items, b ∈ seen.rows.rows := by
    intro b hb
    rw [hpage] at hb
    exact mem_of_mem_page hb
  have hall := h.upsertAll hsound page.items hstored
  refine ⟨?_, hall.gone, hall.delivered⟩
  rintro b hb ⟨s, hs, hcovers⟩
  rcases mem_append.1 hs with hs | hs
  · exact hall.held b hb ⟨s, hs, hcovers⟩
  · rw [mem_singleton.1 hs, Page.span, hpage] at hcovers
    refine ⟨b, mem_upsertAll page.items page.nodup (fun x hx => (hsound x (hstored x hx)).1) ?_, rfl⟩
    rw [hpage]
    exact .inl (mem_page_of_covers hb hcovers)

end Follows

/-! ### What was delivered -/

/-- No row of `t` that was delivered is less in `t'`. -/
def Advances (t t' : Timeline) : Prop :=
  ∀ m ∈ t.rows, m.status = .delivered →
    ∀ m' ∈ t'.rows, m'.messageId = m.messageId → m'.status = .delivered

section Advances

variable {t t' : Timeline}

/-- A row of `t'` was there before, or is delivered, or was not delivered before. -/
theorem advances_of (h : ∀ b ∈ t'.rows, b ∈ t.rows ∨ b.status = .delivered ∨
    ∀ m ∈ t.rows, m.messageId = b.messageId → m.status ≠ .delivered) : Advances t t' := by
  intro m hm hdelivered b hb hkey
  rcases h b hb with hold | hnow | hnever
  · rw [inj_on_of_nodup_map t.nodup hold hm hkey]
    exact hdelivered
  · exact hnow
  · exact absurd hdelivered (hnever m hm hkey.symm)

theorem Advances.refl (t : Timeline) : Advances t t := advances_of fun _ hb => .inl hb

theorem advances_upsert {m : ChatMessage} (h : m.status = .delivered ∨
    ∀ x ∈ t.rows, x.messageId = m.messageId → x.status ≠ .delivered) :
    Advances t (t.upsertMessage c m) := by
  by_cases hid : m.messageId = ""
  · rw [Timeline.upsertMessage, dif_pos hid]
    exact Advances.refl t
  · refine advances_of fun b hb => ?_
    rcases (mem_upsertMessage hid).1 hb with rfl | ⟨hold, -⟩
    · exact .inr h
    · exact .inl hold

theorem advances_update {messageId : String} {patch : ChatMessage → ChatMessage}
    (hpatch : ∀ x, (patch x).messageId = x.messageId)
    (h : (∀ x, (patch x).status = .delivered) ∨
      ∀ x ∈ t.rows, x.messageId = messageId → x.status ≠ .delivered) :
    Advances t (t.updateStatus c messageId patch) := by
  refine advances_of fun b hb => ?_
  rcases (mem_updateStatus hpatch).1 hb with ⟨x, -, hkey, rfl⟩ | ⟨hold, -⟩
  · rw [hpatch, hkey]
    rcases h with hall | hnever
    · exact .inr (.inl (hall x))
    · exact .inr (.inr hnever)
  · exact .inl hold

/-- A page of messages as they are stored. -/
theorem advances_listed {seen : History c} {spans : List Span}
    (h : Follows c seen t spans) (ht' : ∀ b ∈ t'.rows, b ∈ t.rows ∨ b ∈ seen.rows.rows) :
    Advances t t' := by
  intro m hm hdelivered b hb hkey
  rcases ht' b hb with hold | hstored
  · rw [inj_on_of_nodup_map t.nodup hold hm hkey]
    exact hdelivered
  · exact h.delivered m hm hdelivered b hstored hkey

end Advances

/-! ## The invariant -/

/-- The changes among what is sent. -/
def Frame.changes : Frame → List Change
  | .change ch => [ch]
  | .listed _ _ _ => []
  | .answered _ _ _ => []

namespace Mirror

variable {w : Mirror c}

structure Inv (w : Mirror c) : Prop where
  /-- With the changes that are on their way, the window will have seen all. -/
  stored : (w.frames.flatMap Frame.changes).foldl History.apply w.seen = w.stored
  sound : w.seen.Sound
  follows : Follows c w.seen w.ui w.spans

theorem inv_start : Inv (start : Mirror c) := by
  refine ⟨rfl, ?_, ?_, ?_, ?_⟩
  · intro m hm
    cases hm
  · intro m hm
    cases hm
  · intro m hm
    cases hm
  · intro m hm
    cases hm

section

variable (h : Inv w)
include h

theorem Inv.converged : w.Converged := by
  intro hframes
  have hstored := h.stored
  rw [hframes] at hstored
  have hseen : w.seen = w.stored := hstored
  rw [← hseen]
  exact ⟨h.follows.held, h.follows.gone⟩

/-- What carries no change is sent. -/
theorem Inv.sends {frame : Frame} (hframe : frame.changes = [])
    (lists : List (Nat × Option Cursor)) (pages : List (Nat × Option Cursor × Page))
    (sends : List (String × Int)) :
    Inv { w with lists := lists, pages := pages, sends := sends, frames := w.frames ++ [frame] } := by
  refine ⟨?_, h.sound, h.follows⟩
  show ((w.frames ++ [frame]).flatMap Frame.changes).foldl History.apply w.seen = w.stored
  rw [flatMap_append, flatMap_singleton, hframe, append_nil]
  exact h.stored

theorem Inv.change (ch : Change) : Inv (w.step (.change ch)) := by
  refine ⟨?_, h.sound, h.follows⟩
  show ((w.frames ++ [Frame.change ch]).flatMap Frame.changes).foldl History.apply w.seen =
    w.stored.apply ch
  rw [flatMap_append, foldl_append, h.stored]
  rfl

theorem Inv.ensureList (limit : Nat) (before : Option Cursor) (force : Bool) :
    Inv (w.ensureList limit before force) ∧ (w.ensureList limit before force).ui = w.ui := by
  rw [Mirror.ensureList]
  split_ifs
  · exact ⟨h, rfl⟩
  · exact ⟨⟨h.stored, h.sound, h.follows⟩, rfl⟩

theorem Inv.reads (k : Nat) : Inv (w.reads k) ∧ (w.reads k).ui = w.ui := by
  unfold Mirror.reads
  split
  · exact ⟨⟨h.stored, h.sound, h.follows⟩, rfl⟩
  · exact ⟨h, rfl⟩

theorem Inv.responds (k : Nat) : Inv (w.responds k) ∧ (w.responds k).ui = w.ui := by
  unfold Mirror.responds
  split
  · exact ⟨h.sends rfl _ _ _, rfl⟩
  · exact ⟨h, rfl⟩

theorem Inv.answers (k : Nat) (outcome : SendOutcome) :
    Inv (w.answers k outcome) ∧ (w.answers k outcome).ui = w.ui := by
  unfold Mirror.answers
  split
  · exact ⟨h.sends rfl _ _ _, rfl⟩
  · exact ⟨h, rfl⟩

/-! ### Sends -/

theorem Inv.send (threadId messageId selfAccountId text channelId : String)
    (nowMs : Int) : Inv (w.send threadId messageId selfAccountId text channelId nowMs) ∧
      Advances w.ui (w.send threadId messageId selfAccountId text channelId nowMs).ui := by
  rw [Mirror.send]
  split_ifs with hfresh
  · obtain ⟨-, hid, hui, -, hgone⟩ := hfresh
    refine ⟨⟨h.stored, h.sound, h.follows.own hid hui hgone (by simp [optimistic])⟩, ?_⟩
    refine advances_upsert (.inr fun x hx hkey => absurd ?_ hui)
    exact mem_map.2 ⟨x, hx, hkey⟩
  · exact ⟨h, Advances.refl _⟩

/-- The window marks a message that it does not show as delivered. -/
theorem Inv.mark {messageId : String} (hnot : w.Undelivered messageId)
    (patch : ChatMessage → ChatMessage) (hpatch : ∀ x, content (patch x) = content x)
    (hstatus : ∀ x, (patch x).status ≠ .delivered) (sends : List (String × Int)) :
    Inv { w with ui := w.ui.updateStatus c messageId patch, sends := sends } ∧
      Advances w.ui (w.ui.updateStatus c messageId patch) :=
  ⟨⟨h.stored, h.sound, h.follows.mark messageId hpatch hstatus⟩,
    advances_update (fun x => messageId_of_content (hpatch x)) (.inr hnot)⟩

theorem Inv.resend {messageId : String} (nowMs : Int)
    (hnot : w.Undelivered messageId) :
    Inv (w.resend messageId nowMs) ∧ Advances w.ui (w.resend messageId nowMs).ui := by
  rw [Mirror.resend]
  cases hget : w.ui.getMessage messageId with
  | none => exact ⟨h, Advances.refl _⟩
  | some existing =>
    have hmark := h.mark hnot (fun m => { m with status := .pending }) (fun _ => rfl)
      (fun _ => by simp) (w.sends ++ [(existing.messageId, nowMs)])
    rw [Timeline.updateStatus, hget] at hmark
    exact hmark

theorem Inv.handleSent {messageId : String} (hnot : w.Undelivered messageId)
    (nowMs : Int) (outcome : SendOutcome) :
    Inv (w.handleSent messageId nowMs outcome) ∧
      Advances w.ui (w.handleSent messageId nowMs outcome).ui := by
  cases outcome with
  | rejected =>
    exact h.mark hnot (fun m => { m with status := .failed }) (fun _ => rfl) (fun _ => by simp) w.sends
  | accepted resultId acceptedAtMs =>
    rw [Mirror.handleSent]
    split_ifs
    · exact h.mark hnot (sentPatch acceptedAtMs nowMs) (fun _ => rfl) (fun _ => by simp [sentPatch])
        w.sends
    · exact ⟨h, Advances.refl _⟩

theorem Inv.rejects (k : Nat) (hnot : ∀ s ∈ w.sends[k]?, w.Undelivered s.1) :
    Inv (w.rejects k) ∧ Advances w.ui (w.rejects k).ui := by
  rw [Mirror.rejects]
  cases hsend : w.sends[k]? with
  | none => exact ⟨h, Advances.refl _⟩
  | some s =>
    have hrest : Inv { w with sends := w.sends.eraseIdx k } := ⟨h.stored, h.sound, h.follows⟩
    exact hrest.handleSent (hnot s hsend) s.2 .rejected

/-! ### Deliveries -/

theorem Inv.handleChange {ch : Change} {frames : List Frame}
    (hframes : w.frames = .change ch :: frames) (horder : w.InOrder (.change ch)) :
    Inv ({ w with frames := frames }.handleChange ch) ∧
      Advances w.ui ({ w with frames := frames }.handleChange ch).ui := by
  have hstored : (frames.flatMap Frame.changes).foldl History.apply (w.seen.apply ch) = w.stored := by
    have hall := h.stored
    rw [hframes] at hall
    exact hall
  have hsound := h.sound.apply ch
  cases ch with
  | deposited m => exact ⟨⟨hstored, hsound, h.follows.put m⟩, advances_upsert horder⟩
  | updated m => exact ⟨⟨hstored, hsound, h.follows.put m⟩, advances_upsert horder⟩
  | status messageId status sentAtMs =>
    refine ⟨⟨hstored, hsound, h.follows.status messageId status sentAtMs⟩, ?_⟩
    exact advances_update (fun _ => rfl) (horder.imp (fun hdelivered _ => hdelivered) id)
  | removed messageId =>
    refine ⟨⟨hstored, hsound, h.follows.removed messageId⟩, advances_of fun b hb => ?_⟩
    exact .inl (mem_removeMessage.1 hb).1

theorem Inv.handleListed {limit : Nat} {before : Option Cursor} {page : Page}
    {frames : List Frame} (hframes : w.frames = .listed limit before page :: frames)
    (horder : page.items = (listMessages w.seen.rows limit before).items) :
    Inv ({ w with frames := frames }.handleListed limit before page) ∧
      Advances w.ui ({ w with frames := frames }.handleListed limit before page).ui := by
  have hstored : (frames.flatMap Frame.changes).foldl History.apply w.seen = w.stored := by
    have hall := h.stored
    rw [hframes] at hall
    exact hall
  have hpage : ∀ b ∈ page.items, b ∈ w.seen.rows.rows := by
    intro b hb
    rw [horder] at hb
    exact mem_of_mem_page hb
  cases before with
  | none =>
    refine ⟨⟨hstored, h.sound, Follows.replace h.sound horder⟩, ?_⟩
    refine advances_listed h.follows fun b hb => .inr (hpage b ?_)
    exact (mem_filter.1 (Timeline.mem_sorted.1 hb)).1
  | some cursor =>
    refine ⟨⟨hstored, h.sound, h.follows.append h.sound horder⟩, ?_⟩
    exact advances_listed h.follows fun b hb =>
      (of_mem_upsertAll page.items hb).symm.imp_right (hpage b)

theorem Inv.deliver (horder : ∀ frame ∈ w.frames.head?, w.InOrder frame) :
    Inv w.deliver ∧ Advances w.ui w.deliver.ui := by
  rw [Mirror.deliver]
  cases hframes : w.frames with
  | nil => exact ⟨h, Advances.refl _⟩
  | cons frame frames =>
    have hframe : w.InOrder frame := horder frame (by rw [hframes]; rfl)
    cases frame with
    | change ch => exact h.handleChange hframes hframe
    | listed limit before page => exact h.handleListed hframes hframe
    | answered messageId nowMs outcome =>
      have hrest : Inv { w with frames := frames } := by
        refine ⟨?_, h.sound, h.follows⟩
        have hall := h.stored
        rw [hframes] at hall
        exact hall
      exact hrest.handleSent hframe nowMs outcome

/-! ## The copy converges -/

theorem Inv.step {e : MirrorEvent} (he : w.Orderly e) :
    Inv (w.step e) ∧ w.KeepsDelivered e := by
  -- where the rows of the window stay as they are, nothing is less
  have hsame : ∀ {w' : Mirror c}, Inv w' ∧ w'.ui = w.ui → Inv w' ∧ Advances w.ui w'.ui := by
    rintro w' ⟨hinv, hui⟩
    rw [hui]
    exact ⟨hinv, Advances.refl _⟩
  cases e with
  | change ch => exact hsame ⟨h.change ch, rfl⟩
  | ensureList limit before force => exact hsame (h.ensureList limit before force)
  | reads k => exact hsame (h.reads k)
  | responds k => exact hsame (h.responds k)
  | send threadId messageId selfAccountId text channelId nowMs =>
    exact h.send threadId messageId selfAccountId text channelId nowMs
  | resend messageId nowMs => exact h.resend nowMs he
  | answers k outcome => exact hsame (h.answers k outcome)
  | rejects k => exact h.rejects k he
  | deliver => exact h.deliver he

end

/-- Where each step is orderly, the window has converged whenever all was delivered, and no status moves
back from `delivered`. -/
theorem run_mirrors {es : List MirrorEvent} (h : Meets step Orderly (start : Mirror c) es) :
    (∀ n, (after c (es.take n)).Converged) ∧ Meets step KeepsDelivered (start : Mirror c) es := by
  have hkeeps : ∀ (w : Mirror c) e, Inv w → w.Orderly e → Inv (w.step e) :=
    fun _ _ hw he => (hw.step he).1
  refine ⟨fun n => ?_, ?_⟩
  · exact throughout step (fun is hm =>
      (invariant (I := Inv) step hkeeps is start inv_start hm).converged) es h n
  · exact meets_of_invariant step hkeeps (fun _ _ hw he => (hw.step he).2) es start inv_start h

end Mirror

end RezChat.Ui
