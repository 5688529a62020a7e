/-
The unread counts in the window (`ui/services/bus/ThreadsService.js`, `ui/stores/ThreadStore.js`).

The window has a row for each thread, with the counts of the server's index. An event of the index
brings new counts; where its thread is being viewed, the count of the channel on screen is dropped, and
the server is asked to mark the channel as read. When a mark-read call is answered, or has failed, the
window drops the counts that it was for.

It drops them whatever has come since. If a message arrives between the mark and its answer, or the
mark fails, the window shows nothing unread where the server counts a message. Where neither happens
the counts agree in the end (`run_alike`), also those of the channel that is viewed.

The events that bring a whole row (`thread.updated`, `thread.removed`, the results of `setState` and
`createDirect`), and the repair of a summary that a listing may make, are not among the events here.
-/
import RezChat.Lib.Table
import RezChat.Threads.Unread
import RezChat.Ui.MessageMirror

set_option autoImplicit false

namespace RezChat.Ui

open Inbox (trim)
open Messages (Collation)
open Threads (ThreadIndexEntry IndexCall IndexOp Summaries Accepted objectPrototype)
open List Option OrdMap Mirror Ranking Messages

variable {c : Collation} {owner : String}

/-! ## Rows of the window -/

/-- `ChatThread`, in the fields that the index fills. -/
structure ThreadRow where
  lastActivityAtMs : Int
  lastMessagePreview : Option String
  unreadCount : Nat
  unreadByChannelId : OrdMap String Nat

namespace ThreadRow

def unreadIn (row : ThreadRow) (channelId : String) : Nat :=
  (row.unreadByChannelId.get? channelId).getD 0

/-- The sum of the counts by channel. -/
def inChannels (row : ThreadRow) : Nat := row.unreadByChannelId.total id

/-- The row of a record of the index. -/
def ofEntry (e : ThreadIndexEntry) : ThreadRow :=
  ⟨e.lastActivityAtMs, e.lastMessagePreview, e.unreadCount, e.unreadByChannelId⟩

/-- `Number(tally[channelId] || 0)`. What is inherited is not a number. -/
def countAt (tally : OrdMap String Nat) (channelId : String) : Option Nat :=
  match tally.get? channelId with
  | some n => some n
  | none => if channelId ∈ objectPrototype then none else some 0

/-- The row without the count of a channel. The record takes what is no number for zero. -/
def dropChannel (row : ThreadRow) (channelId : String) : ThreadRow :=
  { row with
    unreadCount := match countAt row.unreadByChannelId channelId with
      | some dropped => row.unreadCount - dropped
      | none => 0
    unreadByChannelId := row.unreadByChannelId.delete channelId }

end ThreadRow

/-! ## The window and the server -/

/-- A mark-read call is made; the server has marked, and told so; its answer is on the way; it has
ended. -/
inductive MarkPhase where
  | called
  | marked
  | answered
  | ended
  deriving DecidableEq

/-- A call of `thread.channel.read`, or of `thread.read`. -/
structure Mark where
  threadId : String
  channelId : Option String
  phase : MarkPhase
  deriving DecidableEq

/-- What it asks of the index. -/
def Mark.op (m : Mark) : IndexOp :=
  match m.channelId with
  | some channelId => .markChannelRead channelId
  | none => .markThreadRead

/-- What the server sends: `thread.index.updated`, the answer of a mark-read call, and a list. -/
inductive IndexFrame where
  | updated (threadId : String) (e : ThreadIndexEntry)
  | read (k : Nat)
  | listed (rows : OrdMap String ThreadIndexEntry)

/-- The index; its records as of the last event that was delivered; the rows of the window; the thread
that is selected, whether the window is focused and visible, and the channels that are selected; the
mark-read calls; the lists that were read and not sent yet; and what is on its way. -/
structure Badges where
  index : Summaries
  seen : OrdMap String ThreadIndexEntry
  threads : OrdMap String ThreadRow
  selectedThreadId : Option String
  focused : Bool
  selectedChannels : OrdMap String String
  marks : List Mark
  lists : List (OrdMap String ThreadIndexEntry)
  frames : List IndexFrame

namespace Badges

def start : Badges :=
  ⟨Summaries.fresh, empty, empty, none, true, empty, [], [], []⟩

/-! ### The server -/

/-- An operation on the index, and `emitThreadIndexUpdated`. -/
def write (owner : String) (w : Badges) (call : IndexCall c) : Badges :=
  if call.op.Callable call.threadId then
    match call.op.next c owner call.nowMs (w.index.existing call) call.page with
    | some e =>
      { w with
        index := w.index.call owner call
        frames := w.frames ++ [.updated (trim call.threadId) e] }
    | none => w
  else w

/-- The server marks. -/
def marksRead (owner : String) (w : Badges) (k : Nat) (nowMs : Int) (messages : Rows c) :
    Badges :=
  match w.marks[k]? with
  | some m =>
    if m.phase = .called then
      { w with marks := w.marks.set k { m with phase := .marked } }.write owner
        (⟨m.threadId, m.op, nowMs, messages⟩ : IndexCall c)
    else w
  | none => w

/-- The server answers, in whichever way. -/
def answers (w : Badges) (k : Nat) : Badges :=
  match w.marks[k]? with
  | some m =>
    if m.phase = .called ∨ m.phase = .marked then
      { w with
        marks := w.marks.set k { m with phase := .answered }
        frames := w.frames ++ [.read k] }
    else w
  | none => w

/-- `listThreads`: a list of some threads is read, and sent. -/
def listThreads (w : Badges) (listed : String → Bool) : Badges :=
  { w with lists := w.lists ++ [w.index.records.restrict listed] }

def sendsList (w : Badges) (k : Nat) : Badges :=
  match w.lists[k]? with
  | some rows => { w with lists := w.lists.eraseIdx k, frames := w.frames ++ [.listed rows] }
  | none => w

/-! ### The window -/

/-- A mark-read call is made. -/
def calls (w : Badges) (threadId : String) (channelId : Option String) : Badges :=
  { w with marks := w.marks ++ [⟨threadId, channelId, .called⟩] }

/-- `markRead`, and `markChannelRead` where a channel is given, up to their await. -/
def markRead (w : Badges) (threadId : String) (channelId : Option String) : Badges :=
  if trim threadId = "" then w else w.calls (trim threadId) (channelId.map trim)

/-- `#activeChannelIdForThread`. -/
def activeChannelId (w : Badges) (threadId : String) : String :=
  (w.selectedChannels.get? threadId).getD ""

/-- `setSelectedChannelId`. -/
def selectChannel (w : Badges) (threadId channelId : String) : Badges :=
  if trim threadId = "" then w
  else if trim channelId = "" then
    { w with selectedChannels := w.selectedChannels.delete (trim threadId) }
  else { w with selectedChannels := w.selectedChannels.set (trim threadId) (trim channelId) }

/-- `select`. -/
def select (w : Badges) (threadId : String) (channelId : Option String) : Badges :=
  if trim threadId = "" then w
  else { w with selectedThreadId := some (trim threadId) }.calls (trim threadId)
    (some ((channelId.map trim).getD (w.activeChannelId (trim threadId))))

/-- The window gets the focus, or loses it (`#onVisibilityRegained`). -/
def visibility (w : Badges) (focused : Bool) : Badges :=
  let w' := { w with focused := focused }
  match focused, w.selectedThreadId with
  | true, some id =>
    match w.threads.get? id with
    | some row => if row.unreadCount = 0 then w' else w'.calls id (some (w.activeChannelId id))
    | none => w'
  | _, _ => w'

/-- The patch of a mark-read call. -/
def patchRead (w : Badges) (m : Mark) : OrdMap String ThreadRow :=
  match w.threads.get? m.threadId with
  | some row => w.threads.set m.threadId (match m.channelId with
    | some channelId => row.dropChannel channelId
    | none => { row with unreadCount := 0, unreadByChannelId := empty })
  | none => w.threads

/-- `markRead` and `markChannelRead`, after their await. -/
def settle (w : Badges) (k : Nat) (m : Mark) : Badges :=
  { w with threads := w.patchRead m, marks := w.marks.set k { m with phase := .ended } }

/-- The bridge gives a call up. -/
def givesUp (w : Badges) (k : Nat) : Badges :=
  match w.marks[k]? with
  | some m => if m.phase = .ended then w else w.settle k m
  | none => w

/-- The thread is on screen. -/
def isActivelyViewing (w : Badges) (threadId : String) : Bool :=
  decide (w.selectedThreadId = some threadId) && w.focused

/-- `_handleThreadIndexUpdated`, for a thread that has a row; without one the list is asked for. -/
def handleUpdated (w : Badges) (threadId : String) (e : ThreadIndexEntry) : Badges :=
  match w.threads.get? threadId with
  | none => w
  | some current =>
    let row : ThreadRow := { ThreadRow.ofEntry e with
      lastMessagePreview := e.lastMessagePreview.or current.lastMessagePreview }
    if w.isActivelyViewing threadId then
      let w' := { w with
        threads := w.threads.set threadId (row.dropChannel (w.activeChannelId threadId)) }
      if 0 < (ThreadRow.countAt e.unreadByChannelId (w.activeChannelId threadId)).getD 0 then
        w'.calls threadId (some (w.activeChannelId threadId))
      else w'
    else { w with threads := w.threads.set threadId row }

/-- `replaceThreads`. -/
def handleListed (w : Badges) (rows : OrdMap String ThreadIndexEntry) : Badges :=
  { w with threads := rows.filterMap fun e => some (ThreadRow.ofEntry e) }

def handle (w : Badges) : IndexFrame → Badges
  | .updated threadId e => { w with seen := w.seen.set threadId e }.handleUpdated threadId e
  | .read k =>
    match w.marks[k]? with
    | some m => if m.phase = .answered then w.settle k m else w
    | none => w
  | .listed rows => w.handleListed rows

def deliver (w : Badges) : Badges :=
  match w.frames with
  | frame :: frames => { w with frames := frames }.handle frame
  | [] => w

end Badges

/-! ## Runs -/

/-- The server counts a message or another activity, or handles a mark-read call; a list is read and
sent; the window does what the user does, or the bridge gives up a call; and a frame is delivered. -/
inductive BadgeEvent (c : Collation) where
  | accepted (threadId : String) (a : Accepted) (nowMs : Int) (messages : Rows c)
  | activity (threadId : String) (atMs : Int) (preview : Option String) (nowMs : Int)
  | marksRead (k : Nat) (nowMs : Int) (messages : Rows c)
  | answers (k : Nat)
  | listThreads (listed : String → Bool)
  | sendsList (k : Nat)
  | markRead (threadId : String) (channelId : Option String)
  | select (threadId : String) (channelId : Option String)
  | deselect
  | selectChannel (threadId channelId : String)
  | visibility (focused : Bool)
  | givesUp (k : Nat)
  | deliver

/-- A call for the channel, or for its thread, has not ended. -/
def Outstanding (marks : List Mark) (threadId channelId : String) : Prop :=
  ∃ m ∈ marks, m.phase ≠ .ended ∧ m.threadId = threadId ∧
    (m.channelId = none ∨ m.channelId = some channelId)

/-- A call for the whole thread has not ended. -/
def WholeOutstanding (marks : List Mark) (threadId : String) : Prop :=
  ∃ m ∈ marks, m.phase ≠ .ended ∧ m.threadId = threadId ∧ m.channelId = none

instance (marks : List Mark) (threadId channelId : String) :
    Decidable (Outstanding marks threadId channelId) := by
  unfold Outstanding
  infer_instance

instance (marks : List Mark) (threadId : String) : Decidable (WholeOutstanding marks threadId) := by
  unfold WholeOutstanding
  infer_instance

namespace Badges

def step (owner : String) (w : Badges) : BadgeEvent c → Badges
  | .accepted threadId a nowMs messages =>
    w.write owner (⟨threadId, .upsertOnMessageAccepted a, nowMs, messages⟩ : IndexCall c)
  | .activity threadId atMs preview nowMs =>
    w.write owner (⟨threadId, .upsertActivity atMs preview, nowMs, empty⟩ : IndexCall c)
  | .marksRead k nowMs messages => w.marksRead owner k nowMs messages
  | .answers k => w.answers k
  | .listThreads listed => w.listThreads listed
  | .sendsList k => w.sendsList k
  | .markRead threadId channelId => w.markRead threadId channelId
  | .select threadId channelId => w.select threadId channelId
  | .deselect => { w with selectedThreadId := none }
  | .selectChannel threadId channelId => w.selectChannel threadId channelId
  | .visibility focused => w.visibility focused
  | .givesUp k => w.givesUp k
  | .deliver => w.deliver

def after (owner : String) (es : List (BadgeEvent c)) : Badges := Runs.run (step owner) start es

/-- When all was delivered, and each mark-read call has ended, the counts of the window are those of the
index. -/
def Agrees (w : Badges) : Prop :=
  w.frames = [] → (∀ m ∈ w.marks, m.phase = .ended) →
    ∀ threadId row, w.threads.get? threadId = some row →
      ∃ e, w.index.records.get? threadId = some e ∧ row.unreadCount = e.unreadCount ∧
        ∀ channelId, row.unreadIn channelId = e.unreadIn channelId

/-- Nothing is unread of what a call was for, as far as the window was told, or another call for it has
not ended. -/
def Settled (w : Badges) (k : Nat) (m : Mark) : Prop :=
  match m.channelId with
  | some channelId => channelId ∉ objectPrototype ∧
      ((∀ e ∈ w.seen.get? m.threadId, e.unreadIn channelId = 0) ∨
        Outstanding (w.marks.set k { m with phase := .ended }) m.threadId channelId)
  | none => (∀ e ∈ w.seen.get? m.threadId, e.unreadCount = 0) ∨
      WholeOutstanding (w.marks.set k { m with phase := .ended }) m.threadId

/-- What is to be so when a frame is delivered: the channel on screen has no inherited name; a call that
ends is settled; and a list has the records as the events that came before it have brought them. -/
def Timely (w : Badges) : IndexFrame → Prop
  | .updated threadId _ =>
    w.isActivelyViewing threadId = true → w.activeChannelId threadId ∉ objectPrototype
  | .read k => ∀ m ∈ w.marks[k]?, m.phase = .answered → w.Settled k m
  | .listed rows => ∀ r ∈ rows.entries, w.seen.get? r.1 = some r.2

def Attentive (w : Badges) : BadgeEvent c → Prop
  | .givesUp k => ∀ m ∈ w.marks[k]?, m.phase ≠ .ended → w.Settled k m
  | .deliver => ∀ frame ∈ w.frames.head?, w.Timely frame
  | _ => True

instance (w : Badges) (k : Nat) (m : Mark) : Decidable (w.Settled k m) := by
  unfold Settled
  cases m.channelId with
  | some channelId => exact inferInstanceAs (Decidable (_ ∧ (_ ∨ _)))
  | none => exact inferInstanceAs (Decidable (_ ∨ _))

instance (w : Badges) : ∀ frame, Decidable (w.Timely frame)
  | .updated _ _ => inferInstanceAs (Decidable (_ → _))
  | .read k => inferInstanceAs (Decidable (∀ m ∈ w.marks[k]?, m.phase = .answered → w.Settled k m))
  | .listed rows => inferInstanceAs (Decidable (∀ r ∈ rows.entries, _))

instance (w : Badges) : ∀ e : BadgeEvent c, Decidable (w.Attentive e)
  | .givesUp k => inferInstanceAs (Decidable (∀ m ∈ w.marks[k]?, m.phase ≠ .ended → w.Settled k m))
  | .deliver => inferInstanceAs (Decidable (∀ frame ∈ w.frames.head?, w.Timely frame))
  | .accepted _ _ _ _ => isTrue trivial
  | .activity _ _ _ _ => isTrue trivial
  | .marksRead _ _ _ => isTrue trivial
  | .answers _ => isTrue trivial
  | .listThreads _ => isTrue trivial
  | .sendsList _ => isTrue trivial
  | .markRead _ _ => isTrue trivial
  | .select _ _ => isTrue trivial
  | .deselect => isTrue trivial
  | .selectChannel _ _ => isTrue trivial
  | .visibility _ => isTrue trivial

end Badges

/-! ## Records that fit -/

/-- The channels have no more unread messages than the thread. -/
def Fits (e : ThreadIndexEntry) : Prop := e.unreadByChannelId.total id ≤ e.unreadCount

theorem fits_withUnread (e : ThreadIndexEntry) (marks : Threads.Watermarks)
    (messages : List Threads.MessageView) :
    Fits (e.withUnread (Threads.unreadSummary c owner marks messages)) := by
  have hsum := (Threads.foldl_bump ((messages.filter fun m => marks.Counts c owner m).map
    Threads.messageChannelKey) Threads.saneTally_empty).2
  rw [total_empty, Nat.zero_add] at hsum
  show (Threads.coerceUnreadByChannelId _).total id ≤ (messages.filter _).length
  rw [Threads.total_coerceUnread]
  refine hsum.le.trans ?_
  rw [← length_map (f := Threads.messageChannelKey)]
  exact countP_le_length

/-- Every operation writes a record that fits. -/
theorem fits_next {op : IndexOp} {nowMs : Int} {existing next : ThreadIndexEntry}
    {page : List ChatMessage} (h : Fits existing)
    (hnext : op.next c owner nowMs existing page = some next) : Fits next := by
  unfold IndexOp.next at hnext
  cases op with
  | ensureThreadSummary =>
    dsimp only at hnext
    unfold Threads.ensureThreadSummary at hnext
    cases page with
    | nil =>
      dsimp only at hnext
      split at hnext
      · rw [← some_inj.1 hnext]
        exact h
      · cases hnext
    | cons latest page =>
      rw [← some_inj.1 hnext]
      exact fits_withUnread _ _ _
  | markThreadRead =>
    rw [← some_inj.1 hnext]
    exact Nat.le_refl 0
  | markChannelRead channelId =>
    rw [← some_inj.1 hnext]
    exact fits_withUnread _ _ _
  | upsertOnMessageAccepted a =>
    rw [← some_inj.1 hnext]
    exact fits_withUnread _ _ _
  | upsertActivity atMs preview =>
    rw [← some_inj.1 hnext]
    exact h
  | removeThread => cases hnext

/-! ## Rows that mirror -/

section Rows

variable {row : ThreadRow} {e : ThreadIndexEntry} {marks marks' : List Mark}
  {threadId channelId : String}

theorem unreadIn_dropChannel (row : ThreadRow) (dropped channelId : String) :
    (row.dropChannel dropped).unreadIn channelId =
      if channelId = dropped then 0 else row.unreadIn channelId := by
  show ((row.unreadByChannelId.delete dropped).get? channelId).getD 0 = _
  rw [get?_delete]
  split <;> rfl

theorem total_without (tally : OrdMap String Nat) (channelId : String) :
    (tally.delete channelId).total id + (tally.get? channelId).getD 0 = tally.total id := by
  have htotal := total_delete id tally channelId
  rw [Option.map_id] at htotal
  exact htotal

theorem inChannels_dropChannel (row : ThreadRow) (channelId : String) :
    (row.dropChannel channelId).inChannels + row.unreadIn channelId = row.inChannels :=
  total_without row.unreadByChannelId channelId

theorem countAt_plain (tally : OrdMap String Nat) (hplain : channelId ∉ objectPrototype) :
    ThreadRow.countAt tally channelId = some ((tally.get? channelId).getD 0) := by
  rw [ThreadRow.countAt]
  cases tally.get? channelId with
  | none => exact if_neg hplain
  | some n => rfl

theorem unreadCount_dropChannel (row : ThreadRow) (hplain : channelId ∉ objectPrototype) :
    (row.dropChannel channelId).unreadCount = row.unreadCount - row.unreadIn channelId := by
  rw [ThreadRow.dropChannel, countAt_plain _ hplain]
  rfl

theorem unreadIn_le_total (h : Fits e) (channelId : String) :
    e.unreadIn channelId ≤ e.unreadCount := by
  have htotal := total_without e.unreadByChannelId channelId
  have hfits : e.unreadByChannelId.total id ≤ e.unreadCount := h
  rw [ThreadIndexEntry.unreadIn]
  omega

/-- How a row stands to its record. It may show nothing of a channel while a call for it has not
ended. -/
structure Mirrors (marks : List Mark) (threadId : String) (row : ThreadRow) (e : ThreadIndexEntry) :
    Prop where
  channels : ∀ channelId, row.unreadIn channelId = e.unreadIn channelId ∨
    (row.unreadIn channelId = 0 ∧ Outstanding marks threadId channelId)
  /-- What the count of the thread is short of is what the counts of the channels are short of. -/
  count : row.unreadCount + e.unreadByChannelId.total id = e.unreadCount + row.inChannels ∨
    (row.unreadCount = 0 ∧ row.inChannels = 0 ∧ WholeOutstanding marks threadId)

theorem Mirrors.mono (h : Mirrors marks threadId row e)
    (hmono : ∀ m ∈ marks, m.phase ≠ .ended → m.threadId = threadId → ∃ m' ∈ marks', m'.phase ≠ .ended ∧
      m'.threadId = m.threadId ∧ m'.channelId = m.channelId) : Mirrors marks' threadId row e := by
  refine ⟨fun channelId => (h.channels channelId).imp_right ?_, h.count.imp_right ?_⟩
  · rintro ⟨hzero, m, hm, hopen, hthread, hfor⟩
    obtain ⟨m', hm', hopen', hthread', hchannel⟩ := hmono m hm hopen hthread
    exact ⟨hzero, m', hm', hopen', hthread'.trans hthread, by rwa [hchannel]⟩
  · rintro ⟨hzero, hnone, m, hm, hopen, hthread, hwhole⟩
    obtain ⟨m', hm', hopen', hthread', hchannel⟩ := hmono m hm hopen hthread
    exact ⟨hzero, hnone, m', hm', hopen', hthread'.trans hthread, hchannel.trans hwhole⟩

/-- A row with the numbers of its record. -/
theorem mirrors_of_same (hcount : row.unreadCount = e.unreadCount)
    (hchannels : row.unreadByChannelId = e.unreadByChannelId) : Mirrors marks threadId row e := by
  refine ⟨fun channelId => .inl ?_, .inl ?_⟩
  · rw [ThreadRow.unreadIn, hchannels]
    rfl
  · rw [ThreadRow.inChannels, hchannels, hcount]

/-- The channel on screen is dropped from new numbers, and a call is made if there was something. -/
theorem mirrors_viewed (hfits : Fits e) (hcount : row.unreadCount = e.unreadCount)
    (hchannels : row.unreadByChannelId = e.unreadByChannelId) (hplain : channelId ∉ objectPrototype)
    (hcalled : 0 < e.unreadIn channelId → Outstanding marks threadId channelId) :
    Mirrors marks threadId (row.dropChannel channelId) e := by
  have hsame : ∀ x, row.unreadIn x = e.unreadIn x := by
    intro x
    rw [ThreadRow.unreadIn, hchannels]
    rfl
  refine ⟨fun x => ?_, .inl ?_⟩
  · rw [unreadIn_dropChannel]
    by_cases hx : x = channelId
    · rw [if_pos hx, hx]
      by_cases hzero : e.unreadIn channelId = 0
      · exact .inl hzero.symm
      · exact .inr ⟨rfl, hcalled (Nat.pos_of_ne_zero hzero)⟩
    · rw [if_neg hx]
      exact .inl (hsame x)
  · have hdrop := inChannels_dropChannel row channelId
    have hall : row.inChannels = e.unreadByChannelId.total id := by
      rw [ThreadRow.inChannels, hchannels]
    have hle := unreadIn_le_total hfits channelId
    rw [unreadCount_dropChannel row hplain, hcount]
    rw [hsame] at hdrop ⊢
    omega

/-- In the end the numbers are the same. -/
theorem Mirrors.agrees (h : Mirrors marks threadId row e) (hended : ∀ m ∈ marks, m.phase = .ended) :
    row.unreadCount = e.unreadCount ∧ ∀ channelId, row.unreadIn channelId = e.unreadIn channelId := by
  have hnone : ∀ channelId, row.unreadIn channelId = e.unreadIn channelId := by
    intro channelId
    rcases h.channels channelId with hsame | ⟨-, m, hm, hopen, -⟩
    · exact hsame
    · exact absurd (hended m hm) hopen
  refine ⟨?_, hnone⟩
  rcases h.count with hcount | ⟨-, -, m, hm, hopen, -⟩
  · have htotal : row.inChannels = e.unreadByChannelId.total id := by
      refine total_congr fun channelId => ?_
      rw [Option.map_id]
      exact hnone channelId
    omega
  · exact absurd (hended m hm) hopen

end Rows

/-! ## The end of a call -/

section Marks

variable {marks : List Mark} {k : Nat} {m : Mark} {threadId channelId : String}

/-- A call that ends was not one of another thread, or of another channel. -/
theorem outstanding_end (hm : marks[k]? = some m) {x : Mark} (hx : x ∈ marks)
    (hother : x ≠ m) : x ∈ marks.set k { m with phase := .ended } :=
  Table.mem_set_of_ne hm hx hother

theorem Mirrors.settleChannel {row : ThreadRow} {e : ThreadIndexEntry} (hfits : Fits e)
    (h : Mirrors marks m.threadId row e) (hm : marks[k]? = some m)
    (hchannel : m.channelId = some channelId) (hplain : channelId ∉ objectPrototype)
    (hsettled : e.unreadIn channelId = 0 ∨
      Outstanding (marks.set k { m with phase := .ended }) m.threadId channelId) :
    Mirrors (marks.set k { m with phase := .ended }) m.threadId (row.dropChannel channelId) e := by
  have hdrop := inChannels_dropChannel row channelId
  refine ⟨fun x => ?_, ?_⟩
  · rw [unreadIn_dropChannel]
    by_cases hx : x = channelId
    · rw [if_pos hx, hx]
      exact hsettled.imp (fun hzero => hzero.symm) fun hopen => ⟨rfl, hopen⟩
    · rw [if_neg hx]
      -- the call was not for this channel
      refine (h.channels x).imp_right ?_
      rintro ⟨hzero, y, hy, hopen, hthread, hfor⟩
      refine ⟨hzero, y, outstanding_end hm hy ?_, hopen, hthread, hfor⟩
      rintro rfl
      rw [hchannel] at hfor
      rcases hfor with hfor | hfor
      · cases hfor
      · exact hx (some_inj.1 hfor).symm
  · rw [unreadCount_dropChannel row hplain]
    have hfits' : e.unreadByChannelId.total id ≤ e.unreadCount := hfits
    rcases h.count with hcount | ⟨hzero, hnone, y, hy, hopen, hthread, hwhole⟩
    · exact .inl (by omega)
    · refine .inr ⟨by omega, by omega, y, outstanding_end hm hy ?_, hopen, hthread, hwhole⟩
      rintro rfl
      rw [hchannel] at hwhole
      cases hwhole

theorem mirrors_settleWhole {row : ThreadRow} {e : ThreadIndexEntry} (hfits : Fits e)
    (hcount : row.unreadCount = 0) (hchannels : row.unreadByChannelId = OrdMap.empty)
    (hsettled : e.unreadCount = 0 ∨ WholeOutstanding marks threadId) :
    Mirrors marks threadId row e := by
  have hfits' : e.unreadByChannelId.total id ≤ e.unreadCount := hfits
  have hnone : row.inChannels = 0 := by
    rw [ThreadRow.inChannels, hchannels]
    rfl
  have hzero : ∀ x, row.unreadIn x = 0 := by
    intro x
    rw [ThreadRow.unreadIn, hchannels]
    rfl
  rcases hsettled with hread | hopen
  · refine ⟨fun x => .inl ?_, .inl (by omega)⟩
    have hle := unreadIn_le_total hfits x
    rw [hzero x]
    omega
  · obtain ⟨y, hy, hphase, hthread, hwhole⟩ := hopen
    exact ⟨fun x => .inr ⟨hzero x, y, hy, hphase, hthread, .inl hwhole⟩,
      .inr ⟨hcount, hnone, y, hy, hphase, hthread, hwhole⟩⟩

end Marks

/-! ## The invariant -/

/-- The records that are sent. -/
def IndexFrame.records : IndexFrame → List (String × ThreadIndexEntry)
  | .updated threadId e => [(threadId, e)]
  | .read _ => []
  | .listed _ => []

def setRecord (records : OrdMap String ThreadIndexEntry) (r : String × ThreadIndexEntry) :
    OrdMap String ThreadIndexEntry := records.set r.1 r.2

namespace Badges

variable {w : Badges}

structure Inv (w : Badges) : Prop where
  /-- With the events that are on their way, the window will have seen all. -/
  stored : (w.frames.flatMap IndexFrame.records).foldl setRecord w.seen = w.index.records
  indexFits : ∀ threadId e, w.index.records.get? threadId = some e → Fits e
  framesFit : ∀ r ∈ w.frames.flatMap IndexFrame.records, Fits r.2
  seenFits : ∀ threadId e, w.seen.get? threadId = some e → Fits e
  mirrors : ∀ threadId row, w.threads.get? threadId = some row →
    ∃ e, w.seen.get? threadId = some e ∧ Mirrors w.marks threadId row e

theorem inv_start : Inv start :=
  ⟨rfl, fun _ _ h => (nomatch h), fun _ h => (nomatch h), fun _ _ h => (nomatch h),
    fun _ _ h => (nomatch h)⟩

section

variable (h : Inv w)
include h

theorem Inv.agrees : w.Agrees := by
  intro hframes hended threadId row hrow
  obtain ⟨e, he, hmirrors⟩ := h.mirrors threadId row hrow
  have hstored := h.stored
  rw [hframes] at hstored
  have hseen : w.seen = w.index.records := hstored
  rw [hseen] at he
  exact ⟨e, he, hmirrors.agrees hended⟩

/-- The calls change, but those that have not ended are still there. -/
theorem Inv.setMarks {marks : List Mark}
    (hmono : ∀ m ∈ w.marks, m.phase ≠ .ended → ∃ m' ∈ marks, m'.phase ≠ .ended ∧
      m'.threadId = m.threadId ∧ m'.channelId = m.channelId) : Inv { w with marks := marks } := by
  refine ⟨h.stored, h.indexFits, h.framesFit, h.seenFits, fun threadId row hrow => ?_⟩
  obtain ⟨e, he, hmirrors⟩ := h.mirrors threadId row hrow
  exact ⟨e, he, hmirrors.mono fun m hm hopen _ => hmono m hm hopen⟩

theorem Inv.calls (threadId : String) (channelId : Option String) :
    Inv (w.calls threadId channelId) :=
  h.setMarks fun m hm hopen => ⟨m, mem_append_left _ hm, hopen, rfl, rfl⟩

/-- A call goes on. -/
theorem Inv.setPhase {k : Nat} {m : Mark} (hm : w.marks[k]? = some m) {phase : MarkPhase}
    (hphase : phase ≠ .ended) : Inv { w with marks := w.marks.set k { m with phase := phase } } := by
  refine h.setMarks fun x hx hopen => ?_
  by_cases hsame : x = m
  · exact ⟨_, Table.mem_set_self hm, hphase, by rw [hsame], by rw [hsame]⟩
  · exact ⟨x, Table.mem_set_of_ne hm hx hsame, hopen, rfl, rfl⟩

/-- What carries no record is sent. -/
theorem Inv.sends {frame : IndexFrame} (hframe : frame.records = [])
    (lists : List (OrdMap String ThreadIndexEntry)) :
    Inv { w with lists := lists, frames := w.frames ++ [frame] } := by
  have hsame : (w.frames ++ [frame]).flatMap IndexFrame.records =
      w.frames.flatMap IndexFrame.records := by
    rw [flatMap_append, flatMap_singleton, hframe, append_nil]
  refine ⟨?_, h.indexFits, ?_, h.seenFits, h.mirrors⟩
  · show ((w.frames ++ [frame]).flatMap IndexFrame.records).foldl setRecord w.seen = _
    rw [hsame]
    exact h.stored
  · show ∀ r ∈ (w.frames ++ [frame]).flatMap IndexFrame.records, Fits r.2
    rw [hsame]
    exact h.framesFit

/-- The server writes a record, and sends it. -/
theorem Inv.write (call : IndexCall c) (hop : call.op ≠ .removeThread) :
    Inv (w.write owner call) := by
  rw [Badges.write]
  split_ifs with hcallable
  · cases hnext : call.op.next c owner call.nowMs (w.index.existing call) call.page with
    | none => exact h
    | some e =>
      have hrecords : (w.index.call owner call).records =
          w.index.records.set (trim call.threadId) e := by
        rw [Summaries.call, if_pos hcallable, if_neg hop, hnext]
      have hexisting : Fits (w.index.existing call) := by
        rw [Summaries.existing]
        cases hget : w.index.records.get? (trim call.threadId) with
        | none => exact Nat.le_refl 0
        | some e' => exact h.indexFits _ e' hget
      have hfits : Fits e := fits_next hexisting hnext
      refine ⟨?_, ?_, ?_, h.seenFits, h.mirrors⟩
      · show ((w.frames ++ [_]).flatMap IndexFrame.records).foldl setRecord w.seen =
          (w.index.call owner call).records
        rw [flatMap_append, foldl_append, h.stored, hrecords]
        rfl
      · intro threadId e' he'
        have hget : (w.index.call owner call).records.get? threadId = some e' := he'
        rw [hrecords, get?_set] at hget
        split at hget
        · rw [← some_inj.1 hget]
          exact hfits
        · exact h.indexFits threadId e' hget
      · intro r hr
        have hmem : r ∈ (w.frames ++ [IndexFrame.updated (trim call.threadId) e]).flatMap
            IndexFrame.records := hr
        rw [flatMap_append, mem_append] at hmem
        rcases hmem with hold | hnew
        · exact h.framesFit r hold
        · rw [flatMap_singleton] at hnew
          have hr : r = (trim call.threadId, e) := mem_singleton.1 hnew
          rw [hr]
          exact hfits
  · exact h

end

/-! ### Calls -/

theorem op_ne_removeThread (m : Mark) : m.op ≠ .removeThread := by
  rw [Mark.op]
  split <;> simp

section

variable (h : Inv w)
include h

theorem Inv.marksRead (k : Nat) (nowMs : Int) (messages : Rows c) :
    Inv (w.marksRead owner k nowMs messages) := by
  unfold Badges.marksRead
  split
  · next m hm =>
    split_ifs
    · exact (h.setPhase hm (by simp)).write _ (op_ne_removeThread m)
    · exact h
  · exact h

theorem Inv.answers (k : Nat) : Inv (w.answers k) := by
  unfold Badges.answers
  split
  · next m hm =>
    split_ifs
    · exact (h.setPhase hm (by simp)).sends rfl w.lists
    · exact h
  · exact h

theorem Inv.sendsList (k : Nat) : Inv (w.sendsList k) := by
  unfold Badges.sendsList
  split
  · exact h.sends rfl _
  · exact h

theorem Inv.markRead (threadId : String) (channelId : Option String) :
    Inv (w.markRead threadId channelId) := by
  rw [Badges.markRead]
  split_ifs
  · exact h
  · exact h.calls _ _

theorem Inv.select (threadId : String) (channelId : Option String) :
    Inv (w.select threadId channelId) := by
  rw [Badges.select]
  split_ifs
  · exact h
  · have hselected : Inv { w with selectedThreadId := some (trim threadId) } :=
      ⟨h.stored, h.indexFits, h.framesFit, h.seenFits, h.mirrors⟩
    exact hselected.calls _ _

theorem Inv.selectChannel (threadId channelId : String) :
    Inv (w.selectChannel threadId channelId) := by
  rw [Badges.selectChannel]
  split_ifs
  · exact h
  · exact ⟨h.stored, h.indexFits, h.framesFit, h.seenFits, h.mirrors⟩
  · exact ⟨h.stored, h.indexFits, h.framesFit, h.seenFits, h.mirrors⟩

theorem Inv.visibility (focused : Bool) : Inv (w.visibility focused) := by
  have hfocused : Inv { w with focused := focused } :=
    ⟨h.stored, h.indexFits, h.framesFit, h.seenFits, h.mirrors⟩
  unfold Badges.visibility
  dsimp only
  split
  · split
    · split_ifs
      · exact hfocused
      · exact hfocused.calls _ _
    · exact hfocused
  · exact hfocused

end

theorem Settled.whole {k : Nat} {m : Mark} (h : w.Settled k m) (hchannel : m.channelId = none) :
    (∀ e ∈ w.seen.get? m.threadId, e.unreadCount = 0) ∨
      WholeOutstanding (w.marks.set k { m with phase := .ended }) m.threadId := by
  unfold Settled at h
  split at h
  · next heq =>
    rw [hchannel] at heq
    cases heq
  · exact h

theorem Settled.channel {k : Nat} {m : Mark} {channelId : String} (h : w.Settled k m)
    (hchannel : m.channelId = some channelId) : channelId ∉ objectPrototype ∧
      ((∀ e ∈ w.seen.get? m.threadId, e.unreadIn channelId = 0) ∨
        Outstanding (w.marks.set k { m with phase := .ended }) m.threadId channelId) := by
  unfold Settled at h
  split at h
  · next heq =>
    rw [hchannel, some_inj] at heq
    rw [heq]
    exact h
  · next heq =>
    rw [hchannel] at heq
    cases heq

section

variable (h : Inv w)
include h

/-- A call ends, and nothing was unread of what it was for. -/
theorem Inv.settle {k : Nat} {m : Mark} (hm : w.marks[k]? = some m)
    (hsettled : w.Settled k m) : Inv (w.settle k m) := by
  refine ⟨h.stored, h.indexFits, h.framesFit, h.seenFits, fun threadId row hrow => ?_⟩
  have hget : (w.patchRead m).get? threadId = some row := hrow
  -- the rows of other threads are as they were, and the call was not for them
  have hothers : threadId ≠ m.threadId → w.threads.get? threadId = some row →
      ∃ e, w.seen.get? threadId = some e ∧
        Mirrors (w.marks.set k { m with phase := .ended }) threadId row e := by
    intro hne hold
    obtain ⟨e, he, hmirrors⟩ := h.mirrors threadId row hold
    refine ⟨e, he, hmirrors.mono fun x hx hopen hthread => ⟨x, ?_, hopen, rfl, rfl⟩⟩
    exact outstanding_end hm hx fun hxm => hne (by rw [← hthread, hxm])
  rw [patchRead] at hget
  cases hcurrent : w.threads.get? m.threadId with
  | none =>
    rw [hcurrent] at hget
    refine hothers (fun hsame => ?_) hget
    rw [hsame, hcurrent] at hget
    cases hget
  | some current =>
    rw [hcurrent] at hget
    dsimp only at hget
    rw [get?_set] at hget
    by_cases hsame : threadId = m.threadId
    · rw [if_pos hsame, some_inj] at hget
      obtain ⟨e, he, hmirrors⟩ := h.mirrors m.threadId current hcurrent
      have hfits := h.seenFits _ e he
      refine ⟨e, by rw [hsame]; exact he, ?_⟩
      rw [hsame, ← hget]
      cases hchannel : m.channelId with
      | none =>
        have hread := hsettled.whole hchannel
        exact mirrors_settleWhole hfits rfl rfl (hread.imp_left fun hall => hall e he)
      | some channelId =>
        obtain ⟨hplain, hread⟩ := hsettled.channel hchannel
        exact hmirrors.settleChannel hfits hm hchannel hplain (hread.imp_left fun hall => hall e he)
    · rw [if_neg hsame] at hget
      exact hothers hsame hget

theorem Inv.givesUp (k : Nat)
    (hsettled : ∀ m ∈ w.marks[k]?, m.phase ≠ .ended → w.Settled k m) : Inv (w.givesUp k) := by
  unfold Badges.givesUp
  split
  · next m hm =>
    split_ifs with hended
    · exact h
    · exact h.settle hm (hsettled m hm hended)
  · exact h

/-! ### Deliveries -/

/-- The row of a thread is replaced. -/
theorem mirrors_set {threadId : String} {e : ThreadIndexEntry} {row' : ThreadRow}
    (hrow' : Mirrors w.marks threadId row' e) : ∀ id row,
      (w.threads.set threadId row').get? id = some row →
        ∃ e', (w.seen.set threadId e).get? id = some e' ∧ Mirrors w.marks id row e' := by
  intro id row hget
  rw [get?_set] at hget ⊢
  by_cases hsame : id = threadId
  · rw [if_pos hsame] at hget ⊢
    rw [← some_inj.1 hget, hsame]
    exact ⟨e, rfl, hrow'⟩
  · rw [if_neg hsame] at hget ⊢
    exact h.mirrors id row hget

theorem Inv.handleUpdated {threadId : String} {e : ThreadIndexEntry}
    {frames : List IndexFrame} (hframes : w.frames = .updated threadId e :: frames)
    (hplain : w.isActivelyViewing threadId = true → w.activeChannelId threadId ∉ objectPrototype) :
    Inv ({ w with frames := frames, seen := w.seen.set threadId e }.handleUpdated threadId e) := by
  have hstored : (frames.flatMap IndexFrame.records).foldl setRecord (w.seen.set threadId e) =
      w.index.records := by
    have hall := h.stored
    rw [hframes] at hall
    exact hall
  have hsent : ∀ r ∈ (threadId, e) :: frames.flatMap IndexFrame.records, Fits r.2 := by
    have hall := h.framesFit
    rw [hframes] at hall
    exact hall
  have hfits : Fits e := hsent _ mem_cons_self
  have hrest : ∀ r ∈ frames.flatMap IndexFrame.records, Fits r.2 :=
    fun r hr => hsent r (mem_cons_of_mem _ hr)
  have hseen : ∀ id e', (w.seen.set threadId e).get? id = some e' → Fits e' := by
    intro id e' he'
    rw [get?_set] at he'
    split at he'
    · rw [← some_inj.1 he']
      exact hfits
    · exact h.seenFits id e' he'
  unfold Badges.handleUpdated
  dsimp only
  split
  · -- without a row there is nothing to replace
    next hnone =>
    refine ⟨hstored, h.indexFits, hrest, hseen, fun id row hrow => ?_⟩
    have hrow' : w.threads.get? id = some row := hrow
    have hne : id ≠ threadId := by
      rintro rfl
      rw [hnone] at hrow'
      cases hrow'
    show ∃ e', (w.seen.set threadId e).get? id = some e' ∧ _
    rw [get?_set_of_ne _ _ hne]
    exact h.mirrors id row hrow'
  · next current hcurrent =>
    split_ifs with hviewing hsome
    · -- the call that is made stands for what is dropped
      refine ⟨hstored, h.indexFits, hrest, hseen,
        mirrors_set (h.calls threadId (some (w.activeChannelId threadId)))
          (mirrors_viewed hfits rfl rfl (hplain hviewing) fun _ => ?_)⟩
      exact ⟨_, mem_append_right _ (mem_singleton_self _), by simp, rfl, .inr rfl⟩
    · -- nothing was dropped
      refine ⟨hstored, h.indexFits, hrest, hseen,
        mirrors_set h (mirrors_viewed hfits rfl rfl (hplain hviewing) fun hpos => absurd ?_ hsome)⟩
      show 0 < (ThreadRow.countAt e.unreadByChannelId (w.activeChannelId threadId)).getD 0
      rw [countAt_plain _ (hplain hviewing)]
      exact hpos
    · exact ⟨hstored, h.indexFits, hrest, hseen, mirrors_set h (mirrors_of_same rfl rfl)⟩

theorem Inv.handleListed {rows : OrdMap String ThreadIndexEntry}
    (hrows : ∀ r ∈ rows.entries, w.seen.get? r.1 = some r.2) : Inv (w.handleListed rows) := by
  refine ⟨h.stored, h.indexFits, h.framesFit, h.seenFits, fun threadId row hrow => ?_⟩
  have hget : (rows.filterMap fun e => some (ThreadRow.ofEntry e)).get? threadId = some row := hrow
  rw [get?_filterMap] at hget
  obtain ⟨e, he, hof⟩ := bind_eq_some_iff.1 hget
  rw [← some_inj.1 hof]
  exact ⟨e, hrows _ (mem_entries_iff.2 he), mirrors_of_same rfl rfl⟩

/-- A frame that carries no record is taken off. -/
theorem Inv.taken {frame : IndexFrame} {frames : List IndexFrame}
    (hframes : w.frames = frame :: frames) (hframe : frame.records = []) :
    Inv { w with frames := frames } := by
  have hsame : w.frames.flatMap IndexFrame.records = frames.flatMap IndexFrame.records := by
    rw [hframes, flatMap_cons, hframe, nil_append]
  refine ⟨?_, h.indexFits, ?_, h.seenFits, h.mirrors⟩
  · show (frames.flatMap IndexFrame.records).foldl setRecord w.seen = _
    rw [← hsame]
    exact h.stored
  · show ∀ r ∈ frames.flatMap IndexFrame.records, Fits r.2
    rw [← hsame]
    exact h.framesFit

theorem Inv.deliver (htimely : ∀ frame ∈ w.frames.head?, w.Timely frame) :
    Inv w.deliver := by
  rw [Badges.deliver]
  cases hframes : w.frames with
  | nil => exact h
  | cons frame frames =>
    have hframe : w.Timely frame := htimely frame (by rw [hframes]; rfl)
    cases frame with
    | updated threadId e => exact h.handleUpdated hframes hframe
    | read k =>
      have hrest := h.taken hframes rfl
      show Inv (Badges.handle _ _)
      unfold Badges.handle
      dsimp only
      split
      · next m hm =>
        split_ifs with hanswered
        · exact hrest.settle hm (hframe m hm hanswered)
        · exact hrest
      · exact hrest
    | listed rows => exact (h.taken hframes rfl).handleListed hframe

/-! ## The counts agree -/

theorem Inv.step {e : BadgeEvent c} (he : w.Attentive e) : Inv (w.step owner e) := by
  cases e with
  | accepted threadId a nowMs messages => exact h.write _ (by simp)
  | activity threadId atMs preview nowMs => exact h.write _ (by simp)
  | marksRead k nowMs messages => exact h.marksRead k nowMs messages
  | answers k => exact h.answers k
  | listThreads listed => exact ⟨h.stored, h.indexFits, h.framesFit, h.seenFits, h.mirrors⟩
  | sendsList k => exact h.sendsList k
  | markRead threadId channelId => exact h.markRead threadId channelId
  | select threadId channelId => exact h.select threadId channelId
  | deselect => exact ⟨h.stored, h.indexFits, h.framesFit, h.seenFits, h.mirrors⟩
  | selectChannel threadId channelId => exact h.selectChannel threadId channelId
  | visibility focused => exact h.visibility focused
  | givesUp k => exact h.givesUp k he
  | deliver => exact h.deliver he

end

/-- Where each step is attentive, the counts agree whenever all was delivered. -/
theorem run_alike {es : List (BadgeEvent c)}
    (h : Runs.Meets (step owner) Attentive start es) (n : Nat) :
    (after owner (es.take n)).Agrees := by
  refine Runs.throughout (step owner) (fun is hm => Inv.agrees ?_) es h n
  exact Runs.invariant (I := Inv) (step owner) (fun _ _ hw he => hw.step he) is start inv_start hm

end Badges

/-! ## Both mirrors -/

/-- Where each step is in order, the messages of the window converge, no status moves back from
`delivered`, and the unread counts agree. -/
theorem mirrors_converge {es : List MirrorEvent} {bs : List (BadgeEvent c)}
    (hes : Runs.Meets step Mirror.Orderly (start : Mirror c) es)
    (hbs : Runs.Meets (Badges.step owner) Badges.Attentive Badges.start bs) :
    (∀ n, (after c (es.take n)).Converged) ∧
      Runs.Meets step Mirror.KeepsDelivered (start : Mirror c) es ∧
      ∀ n, (Badges.after owner (bs.take n)).Agrees :=
  ⟨(run_mirrors hes).1, (run_mirrors hes).2, Badges.run_alike hbs⟩

/-- A message of `bob`. -/
def fromBob (messageId : String) (createdAtMs : Int) : ChatMessage :=
  ⟨"th_1", messageId, "bob", "bob", "", .delivered, "hello", none, createdAtMs, some createdAtMs, none,
    none, none, empty, false, messageId⟩

/-- The first page is loaded, a message is sent and delivered, and one that was received is removed. -/
def conversation : List MirrorEvent :=
  [.change (.deposited (fromBob "m1" 1)), .deliver, .ensureList 50 none false, .reads 0, .responds 0,
    .deliver, .send "th_1" "m2" "alice" "hi" "" 2,
    .change (.deposited (optimistic "th_1" "m2" "alice" "hi" "" 2)),
    .change (.status "m2" .sent (some 2)), .answers 0 (.accepted "m2" (some 2)), .deliver, .deliver, .deliver,
    .change (.status "m2" .delivered none), .deliver, .change (.removed "m1"), .deliver]

/-- Two messages arrive, one before the list is loaded and one while their thread is on screen. -/
def arrivals : List (BadgeEvent Collation.byCodePoint) :=
  [.accepted "th_1" ⟨"m1", some 1, some "bob", some "hello"⟩ 1 empty, .deliver,
    .listThreads (fun _ => true), .sendsList 0, .deliver, .select "th_1" none,
    .marksRead 0 2 (empty.put (fromBob "m1" 1)), .deliver, .answers 0, .deliver,
    .accepted "th_1" ⟨"m3", some 3, some "bob", some "hello"⟩ 3 (empty.put (fromBob "m1" 1)),
    .deliver, .marksRead 1 4 ((empty.put (fromBob "m1" 1)).put (fromBob "m3" 3)), .answers 1,
    .deliver, .deliver]

theorem mirrors_converge_conversation :
    ((after Collation.byCodePoint conversation).ui.rows.map fun m => (m.messageId, m.status)) =
        [("m2", .delivered)] ∧
      (Badges.after "alice" arrivals).marks.length = 2 ∧
      (∀ n, (after Collation.byCodePoint (conversation.take n)).Converged) ∧
      Runs.Meets step Mirror.KeepsDelivered (start : Mirror Collation.byCodePoint)
        conversation ∧
      ∀ n, (Badges.after "alice" (arrivals.take n)).Agrees :=
  ⟨by decide, by decide, mirrors_converge (by decide) (by decide)⟩

/-- A page that was read before a message was stored, and delivered after it was told, takes it away. -/
theorem page_takes_back :
    ¬ ∀ (es : List MirrorEvent) (bs : List (BadgeEvent Collation.byCodePoint)),
      (∀ n, (after Collation.byCodePoint (es.take n)).Converged) ∧
        Runs.Meets step Mirror.KeepsDelivered (start : Mirror Collation.byCodePoint) es ∧
        ∀ n, (Badges.after "alice" (bs.take n)).Agrees := by
  intro h
  have hconverged := (h [.ensureList 50 none false, .reads 0, .change (.deposited (fromBob "m1" 1)),
    .responds 0, .deliver, .deliver] []).1 6
  obtain ⟨m, hm, -⟩ := (hconverged (by rfl)).1 (fromBob "m1" 1) (by decide)
    ⟨⟨none, none⟩, mem_singleton_self _, by decide⟩
  cases hm

end RezChat.Ui
