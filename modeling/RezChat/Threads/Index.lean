/-
The summaries of the threads (`storage/ChatThreadIndex.js`,
`records/domain/ChatThreadIndexEntry.js`).

Each thread has a record with its latest activity, what of it was read, and how many messages
are unread, in all and by channel. One list over all threads, the index, has a row for each of
them, the most recently active first.

The counts by channel and the read markers by channel are plain objects under the channel's id,
and a plain object has entries that nobody put there: those of `Object.prototype`. A channel id
may be the name of one, `constructor` or `__proto__`, so reading and writing an entry are defined
as they are for plain objects (`bump`, `ReadMarkers.get`, `ReadMarkers.assign`).

What an operation writes depends on the record it read and on the page of messages it was given;
how the operations are interleaved is the matter of `Threads.Listing`.
-/
import RezChat.Messages.Store
import RezChat.Contacts.Service

set_option autoImplicit false

namespace RezChat.Threads

open Inbox (trim trimmed)
open Contacts.ContactsService (takeUnits)
open Events (Payload)
open Messages (Collation ChatMessage MessageStatus)
open Option OrdMap

/-! ## The order of keys -/

/-- `isKeyGreater`. -/
def isKeyGreater (c : Collation) (aAtMs : Int) (aMsgId : String) (bAtMs : Int) (bMsgId : String) :
    Bool :=
  decide (bAtMs < aAtMs) || (decide (aAtMs = bAtMs) && !c.le aMsgId bMsgId)

/-- `coercePreview`. -/
def coercePreview (text : Option String) : Option String :=
  if trimmed text = "" then none
  else some (String.ofList (takeUnits 120 (trimmed text).toList))

/-! ## The index -/

/-- A row of the index. -/
structure TipPointer where
  threadId : String
  lastActivityAtMs : Int
  lastActivityMsgId : String

/-- The comparison of `sortEntries`, by whether its result is not positive. -/
def newestTip (c : Collation) (a b : TipPointer) : Prop :=
  b.lastActivityAtMs < a.lastActivityAtMs ∨
    (b.lastActivityAtMs = a.lastActivityAtMs ∧ c.le b.lastActivityMsgId a.lastActivityMsgId = true ∧
      (c.le a.lastActivityMsgId b.lastActivityMsgId = true → c.le a.threadId b.threadId = true))

instance (c : Collation) : DecidableRel (newestTip c) := fun _ _ =>
  inferInstanceAs (Decidable (_ ∨ (_ ∧ _)))

instance (c : Collation) : Std.Total (newestTip c) := ⟨fun a b => by
  rcases lt_trichotomy b.lastActivityAtMs a.lastActivityAtMs with h | h | h
  · exact .inl (.inl h)
  · by_cases hab : c.le a.lastActivityMsgId b.lastActivityMsgId = true
    · by_cases hba : c.le b.lastActivityMsgId a.lastActivityMsgId = true
      · rcases c.total a.threadId b.threadId with hle | hle
        · exact .inl (.inr ⟨h, hba, fun _ => hle⟩)
        · exact .inr (.inr ⟨h.symm, hab, fun _ => hle⟩)
      · exact .inr (.inr ⟨h.symm, hab, fun hba' => absurd hba' hba⟩)
    · have hba := (c.total a.lastActivityMsgId b.lastActivityMsgId).resolve_left hab
      exact .inl (.inr ⟨h, hba, fun hab' => absurd hab' hab⟩)
  · exact .inr (.inl h)⟩

instance (c : Collation) : IsTrans TipPointer (newestTip c) := ⟨fun x y z hxy hyz => by
  rcases hxy with hxy | ⟨hxy, hle, htie⟩
  · rcases hyz with hyz | ⟨hyz, -, -⟩
    · exact .inl (lt_trans hyz hxy)
    · exact .inl (hyz ▸ hxy)
  · rcases hyz with hyz | ⟨hyz, hle', htie'⟩
    · exact .inl (hxy ▸ hyz)
    · refine .inr ⟨hyz.trans hxy, c.trans _ _ _ hle' hle, fun hxz => ?_⟩
      have hxy' := c.trans _ _ _ hxz hle'
      have hyz' := c.trans _ _ _ hle hxz
      exact c.trans _ _ _ (htie hxy') (htie' hyz')⟩

/-- `MAX_INDEX_SIZE`. -/
def maxIndexSize : Nat := 500

/-- The list of all threads. -/
abbrev IndexRows (c : Collation) : Type := Ranking TipPointer.threadId (newestTip c) maxIndexSize

/-! ## Plain objects -/

/-- The names of `Object.prototype`, which every plain object inherits. -/
def objectPrototype : List String :=
  ["constructor", "__defineGetter__", "__defineSetter__", "hasOwnProperty", "__lookupGetter__",
    "__lookupSetter__", "isPrototypeOf", "propertyIsEnumerable", "toString", "valueOf", "__proto__",
    "toLocaleString"]

/-- What a count may come to: a number, or a text, since the sum of an inherited entry and one is
a text. No such text is a number again. -/
inductive TallyValue where
  | number (n : Nat)
  | text

/-- `tally[key] = (tally[key] || 0) + 1`. An assignment to `__proto__` of what is no object does
nothing. -/
def bump (tally : OrdMap String TallyValue) (key : String) : OrdMap String TallyValue :=
  match tally.get? key with
  | some (.number n) => tally.set key (.number (n + 1))
  | some .text => tally.set key .text
  | none =>
    if key = "__proto__" then tally
    else if key ∈ objectPrototype then tally.set key .text
    else tally.set key (.number 1)

/-- The number that a count is taken for. -/
def TallyValue.toNat : TallyValue → Nat
  | .number n => n
  | .text => 0

/-- `coerceUnreadByChannelId`. -/
def coerceUnreadByChannelId (tally : OrdMap String TallyValue) : OrdMap String Nat :=
  tally.filterMap fun v => if v.toNat > 0 then some v.toNat else none

/-- Up to where a channel was read. -/
structure ReadMarker where
  atMs : Int
  msgId : String
  deriving DecidableEq

/-- `lastReadByChannelId`: its own entries, and the prototype it was given. -/
structure ReadMarkers where
  own : OrdMap String ReadMarker
  proto : Option ReadMarker

/-- `markers[key]`. What is inherited has neither an `atMs` nor a `msgId`. -/
def ReadMarkers.get (markers : ReadMarkers) (key : String) : Option ReadMarker :=
  match markers.own.get? key with
  | some marker => some marker
  | none =>
    if key = "__proto__" then some (markers.proto.getD ⟨0, ""⟩)
    else if key ∈ objectPrototype then some ⟨0, ""⟩
    else none

/-- `markers[key] = marker`. An assignment to `__proto__` gives the object a prototype. -/
def ReadMarkers.assign (markers : ReadMarkers) (key : String) (marker : ReadMarker) : ReadMarkers :=
  if key = "__proto__" then { markers with proto := some marker }
  else { markers with own := markers.own.set key marker }

/-- `coerceLastReadByChannelId`. -/
def coerceLastReadByChannelId (markers : ReadMarkers) : OrdMap String ReadMarker :=
  markers.own.filterMap fun marker =>
    if max 0 marker.atMs = 0 ∧ trim marker.msgId = "" then none
    else some ⟨max 0 marker.atMs, trim marker.msgId⟩

/-! ## The summary of a thread -/

/-- `ChatThreadIndexEntry`. -/
structure ThreadIndexEntry where
  threadId : String
  lastActivityAtMs : Int
  lastActivityMsgId : String
  lastMessagePreview : Option String
  unreadCount : Nat
  unreadByChannelId : OrdMap String Nat
  lastReadByChannelId : OrdMap String ReadMarker
  updatedAtMs : Int
  lastReadAtMs : Option Int
  lastReadMsgId : String
  lastUnreadCountedAtMs : Option Int
  lastUnreadCountedMsgId : String
  previewAtMs : Option Int
  previewMsgId : String
  deriving DecidableEq

def emptyEntry (threadId : String) (nowMs : Int) : ThreadIndexEntry :=
  ⟨threadId, 0, "", none, 0, empty, empty, nowMs, none, "", none, "", none, ""⟩

/-- The row of a thread in the index. -/
def ThreadIndexEntry.tip (e : ThreadIndexEntry) : TipPointer :=
  ⟨e.threadId, e.lastActivityAtMs, trim e.lastActivityMsgId⟩

/-! ## Unread messages -/

/-- What is read of a message here. A message that was just accepted may have no more than this. -/
structure MessageView where
  messageId : String
  createdAtMs : Int
  senderAccountId : String
  status : Option MessageStatus
  channelId : Option String

def MessageView.ofMessage (m : ChatMessage) : MessageView :=
  ⟨m.messageId, m.createdAtMs, m.senderAccountId, some m.status, m.payload.bind Payload.channelId⟩

def messageChannelKey (m : MessageView) : String := trimmed m.channelId

/-- The read markers of a thread: its own, and those of its channels. -/
structure Watermarks where
  lastReadAtMs : Option Int
  lastReadMsgId : String
  byChannel : ReadMarkers

/-- The marker of the channel, or that of the thread. -/
def Watermarks.markerFor (marks : Watermarks) (channelKey : String) : ReadMarker :=
  (marks.byChannel.get channelKey).getD ⟨marks.lastReadAtMs.getD 0, marks.lastReadMsgId⟩

/-- A message that is counted as unread. -/
def Watermarks.Counts (c : Collation) (owner : String) (marks : Watermarks) (m : MessageView) :
    Prop :=
  m.status ≠ some .pending ∧ m.status ≠ some .failed ∧ trim m.messageId ≠ "" ∧
    isKeyGreater c m.createdAtMs (trim m.messageId) (marks.markerFor (messageChannelKey m)).atMs
      (marks.markerFor (messageChannelKey m)).msgId = true ∧
    ¬ (owner ≠ "" ∧ trim m.senderAccountId ≠ "" ∧ trim m.senderAccountId = owner)

instance (c : Collation) (owner : String) (marks : Watermarks) (m : MessageView) :
    Decidable (marks.Counts c owner m) := by
  unfold Watermarks.Counts
  infer_instance

structure UnreadSummary where
  unreadCount : Nat
  unreadByChannelId : OrdMap String TallyValue
  lastUnreadCountedAtMs : Option Int
  lastUnreadCountedMsgId : String

/-- The order of the candidates. -/
def keyLe (c : Collation) (a b : MessageView) : Prop :=
  isKeyGreater c a.createdAtMs (trim a.messageId) b.createdAtMs (trim b.messageId) = false

instance (c : Collation) : DecidableRel (keyLe c) := fun _ _ => inferInstanceAs (Decidable (_ = _))

def unreadSummary (c : Collation) (owner : String) (marks : Watermarks)
    (messages : List MessageView) : UnreadSummary :=
  let candidates := messages.filter fun m => marks.Counts c owner m
  let newest := (candidates.insertionSort (keyLe c)).getLast?
  { unreadCount := candidates.length
    unreadByChannelId := (candidates.map messageChannelKey).foldl bump empty
    lastUnreadCountedAtMs := (newest.map MessageView.createdAtMs).or marks.lastReadAtMs
    lastUnreadCountedMsgId := (newest.map fun m => trim m.messageId).getD marks.lastReadMsgId }

/-- The read markers of a record. -/
def ThreadIndexEntry.watermarks (e : ThreadIndexEntry) : Watermarks :=
  ⟨e.lastReadAtMs, e.lastReadMsgId, ⟨e.lastReadByChannelId, none⟩⟩

/-- The record with a count. -/
def ThreadIndexEntry.withUnread (e : ThreadIndexEntry) (unread : UnreadSummary) :
    ThreadIndexEntry :=
  { e with
    unreadCount := unread.unreadCount
    unreadByChannelId := coerceUnreadByChannelId unread.unreadByChannelId
    lastUnreadCountedAtMs := unread.lastUnreadCountedAtMs
    lastUnreadCountedMsgId := trim unread.lastUnreadCountedMsgId }

/-! ## The operations -/

section Operations

variable (c : Collation) (owner : String)

/-- `ensureThreadSummary`, if it writes. -/
def ensureThreadSummary (nowMs : Int) (existing : ThreadIndexEntry) (page : List ChatMessage) :
    Option ThreadIndexEntry :=
  match page with
  | [] =>
    if existing.lastActivityMsgId = "" ∧ existing.updatedAtMs ≠ nowMs then
      some { existing with updatedAtMs := nowMs }
    else none
  | latest :: _ =>
    let latestPreview := coercePreview (some latest.text)
    let unread := unreadSummary c owner existing.watermarks (page.map MessageView.ofMessage)
    some (({ existing with
      updatedAtMs := nowMs
      lastActivityAtMs :=
        if latest.createdAtMs ≠ 0 then latest.createdAtMs else existing.lastActivityAtMs
      lastActivityMsgId :=
        if trim latest.messageId ≠ "" then trim latest.messageId else existing.lastActivityMsgId
      lastMessagePreview := (coercePreview latestPreview).or existing.lastMessagePreview
      previewAtMs :=
        if latestPreview.isSome = true then some latest.createdAtMs else existing.previewAtMs
      previewMsgId :=
        if latestPreview.isSome = true then trim latest.messageId
        else existing.previewMsgId } : ThreadIndexEntry).withUnread unread)

def markThreadRead (nowMs : Int) (existing : ThreadIndexEntry) (page : List ChatMessage) :
    ThreadIndexEntry :=
  { existing with
    updatedAtMs := nowMs
    unreadCount := 0
    unreadByChannelId := empty
    lastReadByChannelId := empty
    lastReadAtMs := page.head?.map ChatMessage.createdAtMs
    lastReadMsgId := (page.head?.map fun latest => trim latest.messageId).getD ""
    lastUnreadCountedAtMs := page.head?.map ChatMessage.createdAtMs
    lastUnreadCountedMsgId := (page.head?.map fun latest => trim latest.messageId).getD "" }

/-- The latest message of a channel: the loop of `markChannelRead`. -/
def latestOf (channelKey : String) (messages : List MessageView) : ReadMarker :=
  messages.foldl (fun latest m =>
    if messageChannelKey m = channelKey ∧ trim m.messageId ≠ "" ∧
        isKeyGreater c m.createdAtMs (trim m.messageId) latest.atMs latest.msgId = true then
      ⟨m.createdAtMs, trim m.messageId⟩
    else latest) ⟨0, ""⟩

/-- `nextByChannel`. -/
def nextByChannel (channelKey : String) (existing : ThreadIndexEntry) (messages : List MessageView) :
    ReadMarkers :=
  if (latestOf c channelKey messages).msgId ≠ "" then
    ReadMarkers.assign ⟨existing.lastReadByChannelId, none⟩ channelKey
      (latestOf c channelKey messages)
  else ⟨existing.lastReadByChannelId, none⟩

def markChannelRead (channelId : String) (nowMs : Int) (existing : ThreadIndexEntry)
    (page : List ChatMessage) : ThreadIndexEntry :=
  let messages := page.map MessageView.ofMessage
  let next := nextByChannel c (trim channelId) existing messages
  let unread := unreadSummary c owner { existing.watermarks with byChannel := next } messages
  ({ existing with
    updatedAtMs := nowMs
    lastReadByChannelId := coerceLastReadByChannelId next } : ThreadIndexEntry).withUnread unread

/-- A message that was accepted. -/
structure Accepted where
  messageId : String
  createdAtMs : Option Int
  senderAccountId : Option String
  preview : Option String
  deriving DecidableEq

/-- The loop of `upsertOnMessageAccepted`: one message of each id, and the sender of the accepted
one if it has none. -/
def mergePage (msgId fallbackSenderAccountId : String) :
    List String → List MessageView → List MessageView
  | _, [] => []
  | seen, m :: messages =>
    if trim m.messageId = "" ∨ trim m.messageId ∈ seen then
      mergePage msgId fallbackSenderAccountId seen messages
    else
      (if trim m.messageId = msgId ∧ fallbackSenderAccountId ≠ "" ∧ trim m.senderAccountId = "" then
        { m with senderAccountId := fallbackSenderAccountId }
      else m) :: mergePage msgId fallbackSenderAccountId (trim m.messageId :: seen) messages

/-- The messages that are counted when one is accepted. -/
def merged (msgId : String) (atMs : Int) (senderAccountId : String) (messages : List MessageView) :
    List MessageView :=
  mergePage msgId senderAccountId [] messages ++
    (if msgId ∈ messages.map fun m => trim m.messageId then []
    else [⟨msgId, atMs, senderAccountId, none, none⟩])

/-- The record with a new activity, if it is newer, and its preview. -/
def ThreadIndexEntry.withActivity (e : ThreadIndexEntry) (nowMs atMs : Int) (msgId : String)
    (preview : Option String) : ThreadIndexEntry :=
  let activityIsNewer := isKeyGreater c atMs msgId e.lastActivityAtMs e.lastActivityMsgId
  let previewIsNewer := (coercePreview preview).isSome &&
    isKeyGreater c atMs msgId (e.previewAtMs.getD 0) e.previewMsgId
  { e with
    updatedAtMs := nowMs
    lastActivityAtMs := if activityIsNewer then atMs else e.lastActivityAtMs
    lastActivityMsgId := if activityIsNewer then msgId else e.lastActivityMsgId
    lastMessagePreview :=
      if previewIsNewer then coercePreview (coercePreview preview) else e.lastMessagePreview
    previewAtMs := if previewIsNewer then some atMs else e.previewAtMs
    previewMsgId := if previewIsNewer then msgId else e.previewMsgId }

def upsertOnMessageAccepted (a : Accepted) (nowMs : Int) (existing : ThreadIndexEntry)
    (page : List ChatMessage) : ThreadIndexEntry :=
  let atMs := a.createdAtMs.getD nowMs
  let unread := unreadSummary c owner existing.watermarks
    (merged (trim a.messageId) atMs (trimmed a.senderAccountId) (page.map MessageView.ofMessage))
  (existing.withActivity c nowMs atMs (trim a.messageId) a.preview).withUnread unread

/-- `upsertFromMessage` without a message id. -/
def upsertActivity (atMs : Int) (preview : Option String) (nowMs : Int)
    (existing : ThreadIndexEntry) : ThreadIndexEntry :=
  existing.withActivity c nowMs atMs
    ("sys:" ++ toString atMs ++ ":" ++ existing.threadId) preview

/-- The operations. -/
inductive IndexOp where
  | ensureThreadSummary
  | markThreadRead
  | markChannelRead (channelId : String)
  | upsertOnMessageAccepted (a : Accepted)
  | upsertActivity (atMs : Int) (preview : Option String)
  | removeThread
  deriving DecidableEq

/-- Without the ids it needs, an operation throws. -/
def IndexOp.Callable (threadId : String) : IndexOp → Prop
  | .upsertOnMessageAccepted a => trim threadId ≠ "" ∧ trim a.messageId ≠ ""
  | .ensureThreadSummary | .markThreadRead | .markChannelRead _ | .upsertActivity _ _
  | .removeThread => trim threadId ≠ ""

instance (threadId : String) (op : IndexOp) : Decidable (op.Callable threadId) := by
  unfold IndexOp.Callable
  split <;> infer_instance

/-- `upsertFromMessage`. -/
def upsertFromMessage (messageId : Option String) (atMs : Int) (preview : Option String)
    (senderAccountId : Option String) : IndexOp :=
  if trimmed messageId ≠ "" then
    .upsertOnMessageAccepted ⟨trimmed messageId, some atMs, some (trimmed senderAccountId), preview⟩
  else .upsertActivity atMs preview

/-- The record that an operation writes, if it writes one. -/
def IndexOp.next (op : IndexOp) (nowMs : Int) (existing : ThreadIndexEntry)
    (page : List ChatMessage) : Option ThreadIndexEntry :=
  match op with
  | .ensureThreadSummary => Threads.ensureThreadSummary c owner nowMs existing page
  | .markThreadRead => some (Threads.markThreadRead nowMs existing page)
  | .markChannelRead channelId =>
    some (Threads.markChannelRead c owner channelId nowMs existing page)
  | .upsertOnMessageAccepted a =>
    some (Threads.upsertOnMessageAccepted c owner a nowMs existing page)
  | .upsertActivity atMs preview => some (Threads.upsertActivity c atMs preview nowMs existing)
  | .removeThread => none

/-- The thread of a record is never changed. -/
theorem IndexOp.next_threadId {op : IndexOp} {nowMs : Int} {existing next : ThreadIndexEntry}
    {page : List ChatMessage} (h : op.next c owner nowMs existing page = some next) :
    next.threadId = existing.threadId := by
  cases op with
  | ensureThreadSummary =>
    cases page with
    | nil =>
      simp only [IndexOp.next, Threads.ensureThreadSummary] at h
      split at h
      · rw [← some_inj.1 h]
      · exact absurd h (by simp)
    | cons latest page => rw [← some_inj.1 h]; rfl
  | markThreadRead => rw [← some_inj.1 h]; rfl
  | markChannelRead channelId => rw [← some_inj.1 h]; rfl
  | upsertOnMessageAccepted a => rw [← some_inj.1 h]; rfl
  | upsertActivity atMs preview => rw [← some_inj.1 h]; rfl
  | removeThread => exact absurd h (by simp [IndexOp.next])

end Operations

end RezChat.Threads
