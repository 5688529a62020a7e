/-
What the summaries count (`storage/ChatThreadIndex.js`, `unreadSummary` and its callers).

A summary has the number of unread messages and their numbers by channel, and the numbers should
add up. They do, unless a message is counted in a channel that is named like an entry which every
plain object inherits: `constructor` or `__proto__`, of those that a channel id may be. Its count
is lost, in a text that is no number or in an assignment that does nothing
(`constructor_uncounted`).

The channels of other names are counted as they should be: marking one of them as read clears its
count and leaves the others, as long as the messages are those that were counted last, and a
message that is accepted is counted as if all were counted anew, once it is stored.
-/
import RezChat.Threads.Listing

set_option autoImplicit false

namespace RezChat.Threads

open Inbox (trim trim_trim trimmed)
open Messages (Collation ChatMessage newestFirst)
open List Option OrdMap TallyValue ReadMarkers MessageView Watermarks

/-! ## Counting by channel -/

/-- The number that a key has come to. -/
def tallyOf (tally : OrdMap String TallyValue) (key : String) : Nat :=
  ((tally.get? key).map toNat).getD 0

/-- No inherited name has a number, and no other name has a text. -/
structure SaneTally (tally : OrdMap String TallyValue) : Prop where
  inherited : ∀ key ∈ objectPrototype, ∀ n, tally.get? key ≠ some (.number n)
  plain : ∀ key, key ∉ objectPrototype → tally.get? key ≠ some .text

section Tally

variable {tally : OrdMap String TallyValue} {key : String}

theorem tallyOf_inherited (h : SaneTally tally) (hkey : key ∈ objectPrototype) :
    tallyOf tally key = 0 := by
  unfold tallyOf
  cases hget : tally.get? key with
  | none => rfl
  | some v =>
    cases v with
    | number n => exact absurd hget (h.inherited key hkey n)
    | text => rfl

/-- A key that is no inherited name is counted. -/
theorem bump_plain (h : SaneTally tally) (hkey : key ∉ objectPrototype) :
    bump tally key = tally.set key (.number (tallyOf tally key + 1)) := by
  have hproto : key ≠ "__proto__" := fun hsame => hkey (by rw [hsame]; decide)
  unfold bump tallyOf
  cases hget : tally.get? key with
  | none =>
    dsimp only
    rw [if_neg hproto, if_neg hkey]
    rfl
  | some v =>
    cases v with
    | number n => rfl
    | text => exact absurd hget (h.plain key hkey)

/-- An inherited name is not. -/
theorem bump_inherited (h : SaneTally tally) (hkey : key ∈ objectPrototype) :
    bump tally key = tally ∨ bump tally key = tally.set key .text := by
  unfold bump
  cases hget : tally.get? key with
  | none =>
    dsimp only
    by_cases hproto : key = "__proto__"
    · rw [if_pos hproto]
      exact .inl rfl
    · rw [if_neg hproto, if_pos hkey]
      exact .inr rfl
  | some v =>
    cases v with
    | number n => exact absurd hget (h.inherited key hkey n)
    | text => exact .inr rfl

/-- **One more message of a channel.** -/
theorem bump_spec (h : SaneTally tally) (key : String) :
    SaneTally (bump tally key) ∧
      (∀ other, tallyOf (bump tally key) other =
        tallyOf tally other + if other = key ∧ key ∉ objectPrototype then 1 else 0) ∧
      (bump tally key).total toNat =
        tally.total toNat + if key ∉ objectPrototype then 1 else 0 := by
  by_cases hkey : key ∈ objectPrototype
  · have hzero := tallyOf_inherited h hkey
    rcases bump_inherited h hkey with hsame | hset
    · rw [hsame]
      refine ⟨h, fun other => ?_, ?_⟩
      · rw [if_neg fun hand => hand.2 hkey]
        rfl
      · rw [if_neg fun hnot => hnot hkey]
        rfl
    · rw [hset]
      refine ⟨⟨fun other hother n hn => ?_, fun other hother hn => ?_⟩, fun other => ?_, ?_⟩
      · rw [get?_set] at hn
        by_cases hsame : other = key
        · rw [if_pos hsame] at hn
          exact absurd hn (by simp)
        · rw [if_neg hsame] at hn
          exact h.inherited other hother n hn
      · rw [get?_set] at hn
        by_cases hsame : other = key
        · rw [hsame] at hother
          exact hother hkey
        · rw [if_neg hsame] at hn
          exact h.plain other hother hn
      · rw [if_neg fun hand => hand.2 hkey]
        by_cases hsame : other = key
        · rw [hsame, hzero, tallyOf, get?_set_self]
          rfl
        · rw [tallyOf, get?_set_of_ne _ _ hsame]
          rfl
      · have htotal := total_set toNat tally key .text
        rw [tallyOf] at hzero
        rw [if_neg fun hnot => hnot hkey]
        rw [hzero] at htotal
        exact htotal
  · rw [bump_plain h hkey]
    refine ⟨⟨fun other hother n hn => ?_, fun other hother hn => ?_⟩, fun other => ?_, ?_⟩
    · have hne : other ≠ key := fun hsame => hkey (hsame ▸ hother)
      rw [get?_set_of_ne _ _ hne] at hn
      exact h.inherited other hother n hn
    · rw [get?_set] at hn
      by_cases hsame : other = key
      · rw [if_pos hsame] at hn
        exact absurd hn (by simp)
      · rw [if_neg hsame] at hn
        exact h.plain other hother hn
    · by_cases hsame : other = key
      · rw [hsame, if_pos ⟨rfl, hkey⟩, tallyOf, get?_set_self]
        rfl
      · rw [if_neg fun hand => hsame hand.1, tallyOf, get?_set_of_ne _ _ hsame]
        rfl
    · have htotal := total_set toNat tally key (.number (tallyOf tally key + 1))
      have hold : ((tally.get? key).map toNat).getD 0 = tallyOf tally key := rfl
      rw [hold] at htotal
      rw [if_pos hkey]
      have hnew : (number (tallyOf tally key + 1)).toNat = tallyOf tally key + 1 := rfl
      omega

/-- The channels of some messages, counted. -/
theorem foldl_bump (keys : List String) : ∀ {tally : OrdMap String TallyValue}, SaneTally tally →
    (∀ key, tallyOf (keys.foldl bump tally) key = tallyOf tally key +
      if key ∈ objectPrototype then 0 else keys.count key) ∧
    (keys.foldl bump tally).total toNat = tally.total toNat +
      keys.countP fun key => key ∉ objectPrototype := by
  induction keys with
  | nil => exact fun _ => ⟨fun key => by simp, by simp⟩
  | cons k keys ih =>
    intro tally h
    obtain ⟨hsane, hone, htotal⟩ := bump_spec h k
    obtain ⟨hall, hsum⟩ := ih hsane
    refine ⟨fun key => ?_, ?_⟩
    · rw [foldl_cons, hall key, hone key, count_cons]
      by_cases hkey : key ∈ objectPrototype
      · rw [if_pos hkey, if_pos hkey]
        by_cases hsame : key = k
        · rw [if_neg fun hand => hand.2 (hsame ▸ hkey)]
        · rw [if_neg fun hand => hsame hand.1]
      · rw [if_neg hkey, if_neg hkey]
        by_cases hsame : key = k
        · rw [if_pos ⟨hsame, hsame ▸ hkey⟩, if_pos (by simp [hsame])]
          omega
        · rw [if_neg fun hand => hsame hand.1, if_neg (by simpa using fun hk => hsame hk.symm)]
          omega
    · rw [foldl_cons, hsum, htotal, countP_cons]
      by_cases hk : k ∈ objectPrototype
      · simp [hk]
      · simp [hk]
        omega

theorem saneTally_empty : SaneTally empty :=
  ⟨fun _ _ _ h => absurd h (by simp), fun _ _ h => absurd h (by simp)⟩

theorem getD_coerceUnread (tally : OrdMap String TallyValue) (key : String) :
    ((coerceUnreadByChannelId tally).get? key).getD 0 = tallyOf tally key := by
  unfold coerceUnreadByChannelId tallyOf
  rw [get?_filterMap]
  cases tally.get? key with
  | none => rfl
  | some v =>
    simp only [bind_some, map_some, getD_some]
    by_cases hv : v.toNat > 0
    · rw [if_pos hv]
      rfl
    · rw [if_neg hv]
      have hzero : v.toNat = 0 := by omega
      rw [hzero]
      rfl

theorem total_coerceUnread (tally : OrdMap String TallyValue) :
    (coerceUnreadByChannelId tally).total id = tally.total toNat := by
  refine total_filterMap (fun v => ?_) tally
  by_cases hv : v.toNat > 0
  · rw [if_pos hv]
    rfl
  · rw [if_neg hv]
    have hzero : v.toNat = 0 := by omega
    rw [hzero]
    rfl

end Tally

/-! ## Counting a thread -/

/-- The unread messages of a channel, as a summary has them. -/
def ThreadIndexEntry.unreadIn (e : ThreadIndexEntry) (channelKey : String) : Nat :=
  (e.unreadByChannelId.get? channelKey).getD 0

/-- The messages of a channel that are counted. An inherited name counts none. -/
def countedIn (c : Collation) (owner : String) (marks : Watermarks) (messages : List MessageView)
    (channelKey : String) : Nat :=
  if channelKey ∈ objectPrototype then 0
  else messages.countP fun m => marks.Counts c owner m ∧ messageChannelKey m = channelKey

/-- The numbers add up. -/
def ThreadIndexEntry.AddsUp (e : ThreadIndexEntry) : Prop :=
  e.unreadCount = e.unreadByChannelId.total id

/-- No message is counted in a channel with an inherited name. -/
def PlainlyCounted (c : Collation) (owner : String) (marks : Watermarks)
    (messages : List MessageView) : Prop :=
  ∀ m ∈ messages, messageChannelKey m ∈ objectPrototype → ¬ marks.Counts c owner m

instance (c : Collation) (owner : String) (marks : Watermarks) (messages : List MessageView) :
    Decidable (PlainlyCounted c owner marks messages) := by
  unfold PlainlyCounted
  infer_instance

section Counting

variable {c : Collation} {owner : String} {marks marks' : Watermarks} {messages : List MessageView}
  {e : ThreadIndexEntry}

theorem unreadIn_withUnread (e : ThreadIndexEntry) (marks : Watermarks)
    (messages : List MessageView) (channelKey : String) :
    (e.withUnread (unreadSummary c owner marks messages)).unreadIn channelKey =
      countedIn c owner marks messages channelKey := by
  have hcount := (foldl_bump ((messages.filter fun m => marks.Counts c owner m).map
    messageChannelKey) saneTally_empty).1 channelKey
  show ((coerceUnreadByChannelId _).get? channelKey).getD 0 = _
  rw [getD_coerceUnread]
  refine hcount.trans ?_
  unfold countedIn
  by_cases hkey : channelKey ∈ objectPrototype
  · rw [if_pos hkey, if_pos hkey]
    rfl
  · rw [if_neg hkey, if_neg hkey, count, countP_map, countP_filter]
    show 0 + _ = _
    rw [Nat.zero_add]
    refine countP_congr fun m _ => ?_
    simp only [Function.comp_apply, Bool.and_eq_true, beq_iff_eq, decide_eq_true_eq]
    exact And.comm

/-- **The numbers add up** exactly if no message is counted in a channel with an inherited
name. -/
theorem addsUp_withUnread (e : ThreadIndexEntry) (marks : Watermarks)
    (messages : List MessageView) :
    (e.withUnread (unreadSummary c owner marks messages)).AddsUp ↔
      PlainlyCounted c owner marks messages := by
  have hsum := (foldl_bump ((messages.filter fun m => marks.Counts c owner m).map
    messageChannelKey) saneTally_empty).2
  have htotal : (e.withUnread (unreadSummary c owner marks messages)).unreadByChannelId.total id =
      ((messages.filter fun m => marks.Counts c owner m).map messageChannelKey).countP
        fun key => key ∉ objectPrototype := by
    refine (total_coerceUnread _).trans (hsum.trans ?_)
    rw [total_empty, Nat.zero_add]
  unfold ThreadIndexEntry.AddsUp
  rw [htotal]
  show (messages.filter fun m => marks.Counts c owner m).length = _ ↔ _
  rw [countP_map, eq_comm, countP_eq_length]
  unfold PlainlyCounted
  constructor
  · intro h m hm hkey hcounts
    have hplain := h m (mem_filter.2 ⟨hm, decide_eq_true hcounts⟩)
    exact of_decide_eq_true hplain hkey
  · intro h m hm
    obtain ⟨hm, hcounts⟩ := mem_filter.1 hm
    exact decide_eq_true fun hkey => h m hm hkey (of_decide_eq_true hcounts)

/-- Two counts of a channel agree if they agree on each of its messages. -/
theorem countedIn_congr {channelKey : String}
    (h : ∀ m ∈ messages, messageChannelKey m = channelKey →
      (marks.Counts c owner m ↔ marks'.Counts c owner m)) :
    countedIn c owner marks messages channelKey = countedIn c owner marks' messages channelKey := by
  unfold countedIn
  by_cases hkey : channelKey ∈ objectPrototype
  · rw [if_pos hkey, if_pos hkey]
  · rw [if_neg hkey, if_neg hkey]
    refine countP_congr fun m hm => ?_
    simp only [decide_eq_true_eq]
    exact and_congr_left (h m hm)

/-- A channel without a message that counts. -/
theorem countedIn_eq_zero {channelKey : String}
    (h : channelKey ∉ objectPrototype → ∀ m ∈ messages, messageChannelKey m = channelKey →
      ¬ marks.Counts c owner m) : countedIn c owner marks messages channelKey = 0 := by
  unfold countedIn
  by_cases hkey : channelKey ∈ objectPrototype
  · rw [if_pos hkey]
  · rw [if_neg hkey, countP_eq_zero]
    intro m hm hboth
    obtain ⟨hcounts, hsame⟩ := of_decide_eq_true hboth
    exact h hkey m hm hsame hcounts

/-- The order of the keys. -/
theorem isKeyGreater_eq_false {aAtMs bAtMs : Int} {aMsgId bMsgId : String} :
    isKeyGreater c aAtMs aMsgId bAtMs bMsgId = false ↔
      aAtMs < bAtMs ∨ (aAtMs = bAtMs ∧ c.le aMsgId bMsgId = true) := by
  unfold isKeyGreater
  rw [Bool.or_eq_false_iff, Bool.and_eq_false_iff, Bool.not_eq_false', decide_eq_false_iff_not,
    decide_eq_false_iff_not]
  constructor
  · rintro ⟨hle, hne | hsame⟩
    · exact .inl (by omega)
    · by_cases heq : aAtMs = bAtMs
      · exact .inr ⟨heq, hsame⟩
      · exact .inl (by omega)
  · rintro (hlt | ⟨heq, hsame⟩)
    · exact ⟨by omega, .inl (by omega)⟩
    · exact ⟨by omega, .inr hsame⟩

theorem isKeyGreater_trans {aAtMs bAtMs dAtMs : Int} {aMsgId bMsgId dMsgId : String}
    (h : isKeyGreater c aAtMs aMsgId bAtMs bMsgId = false)
    (h' : isKeyGreater c bAtMs bMsgId dAtMs dMsgId = false) :
    isKeyGreater c aAtMs aMsgId dAtMs dMsgId = false := by
  rw [isKeyGreater_eq_false] at h h' ⊢
  rcases h with h | ⟨h, hle⟩
  · rcases h' with h' | ⟨h', -⟩
    · exact .inl (by omega)
    · exact .inl (by omega)
  · rcases h' with h' | ⟨h', hle'⟩
    · exact .inl (by omega)
    · exact .inr ⟨by omega, c.trans _ _ _ hle hle'⟩

theorem isKeyGreater_asymm {aAtMs bAtMs : Int} {aMsgId bMsgId : String}
    (h : isKeyGreater c aAtMs aMsgId bAtMs bMsgId = true) :
    isKeyGreater c bAtMs bMsgId aAtMs aMsgId = false := by
  rw [isKeyGreater_eq_false]
  by_contra hnot
  rw [not_or, not_and] at hnot
  have hfalse : isKeyGreater c aAtMs aMsgId bAtMs bMsgId = false := by
    rw [isKeyGreater_eq_false]
    by_cases heq : aAtMs = bAtMs
    · exact .inr ⟨heq, (c.total aMsgId bMsgId).resolve_right (hnot.2 heq.symm)⟩
    · exact .inl (by omega)
  rw [hfalse] at h
  exact absurd h (by simp)

theorem isKeyGreater_self (atMs : Int) (msgId : String) :
    isKeyGreater c atMs msgId atMs msgId = false := by
  rw [isKeyGreater_eq_false]
  exact .inr ⟨rfl, (c.total msgId msgId).elim id id⟩

/-- A marker as it is stored. -/
def ReadMarker.Stored (marker : ReadMarker) : Prop :=
  0 < marker.atMs ∧ trim marker.msgId = marker.msgId ∧ marker.msgId ≠ ""

/-- A message that has an id and a time. -/
def MessageView.Valid (m : MessageView) : Prop :=
  trim m.messageId = m.messageId ∧ m.messageId ≠ "" ∧ 0 < m.createdAtMs

/-- The latest message of a channel: no other one is later, and there is one if the channel has
any. -/
theorem latestOf_spec (channelKey : String) (hvalid : ∀ m ∈ messages, m.Valid) :
    ((latestOf c channelKey messages).msgId ≠ "" → (latestOf c channelKey messages).Stored) ∧
    ∀ m ∈ messages, messageChannelKey m = channelKey →
      (latestOf c channelKey messages).msgId ≠ "" ∧
      isKeyGreater c m.createdAtMs (trim m.messageId) (latestOf c channelKey messages).atMs
        (latestOf c channelKey messages).msgId = false := by
  unfold latestOf
  -- the induction is on the messages, for whatever was the latest before
  have hloop : ∀ (messages : List MessageView) (latest : ReadMarker), (∀ m ∈ messages, m.Valid) →
      (latest = ⟨0, ""⟩ ∨ latest.Stored) →
      let result := messages.foldl (fun latest m =>
        if messageChannelKey m = channelKey ∧ trim m.messageId ≠ "" ∧
            isKeyGreater c m.createdAtMs (trim m.messageId) latest.atMs latest.msgId = true then
          ⟨m.createdAtMs, trim m.messageId⟩
        else latest) latest
      (result = ⟨0, ""⟩ ∨ result.Stored) ∧
      isKeyGreater c latest.atMs latest.msgId result.atMs result.msgId = false ∧
      (latest.Stored → result.Stored) ∧
      ∀ m ∈ messages, messageChannelKey m = channelKey → result.Stored ∧
        isKeyGreater c m.createdAtMs (trim m.messageId) result.atMs result.msgId = false := by
    intro messages
    induction messages with
    | nil =>
      intro latest _ hlatest
      exact ⟨hlatest, isKeyGreater_self _ _, id, fun m hm => absurd hm not_mem_nil⟩
    | cons m messages ih =>
      intro latest hvalid hlatest
      have hrest : ∀ m ∈ messages, m.Valid := fun m' hm' => hvalid m' (mem_cons_of_mem m hm')
      obtain ⟨htrimmed, hid, htime⟩ := hvalid m mem_cons_self
      have hstored : (⟨m.createdAtMs, trim m.messageId⟩ : ReadMarker).Stored :=
        ⟨htime, trim_trim _, by rw [htrimmed]; exact hid⟩
      rw [foldl_cons]
      by_cases hlater : messageChannelKey m = channelKey ∧ trim m.messageId ≠ "" ∧
          isKeyGreater c m.createdAtMs (trim m.messageId) latest.atMs latest.msgId = true
      · rw [if_pos hlater]
        obtain ⟨hresult, hle, hkept, hall⟩ := ih _ hrest (.inr hstored)
        refine ⟨hresult, isKeyGreater_trans (isKeyGreater_asymm hlater.2.2) hle,
          fun _ => hkept hstored, fun m' hm' hchannel => ?_⟩
        rcases mem_cons.1 hm' with rfl | hm'
        · exact ⟨hkept hstored, hle⟩
        · exact hall m' hm' hchannel
      · rw [if_neg hlater]
        obtain ⟨hresult, hle, hkept, hall⟩ := ih latest hrest hlatest
        refine ⟨hresult, hle, hkept, fun m' hm' hchannel => ?_⟩
        rcases mem_cons.1 hm' with rfl | hm'
        · -- it is not later than what was the latest, which was a message then
          have hnot : isKeyGreater c m'.createdAtMs (trim m'.messageId) latest.atMs latest.msgId =
              false := by
            refine Bool.eq_false_iff.2 fun hgreater => hlater ⟨hchannel, ?_, hgreater⟩
            rw [htrimmed]
            exact hid
          rcases hlatest with rfl | hlatest
          · rw [isKeyGreater_eq_false] at hnot
            exact absurd hnot (by dsimp only; omega)
          · exact ⟨hkept hlatest, isKeyGreater_trans hnot hle⟩
        · exact hall m' hm' hchannel
  obtain ⟨hresult, -, -, hall⟩ := hloop messages ⟨0, ""⟩ hvalid (.inl rfl)
  refine ⟨fun hid => hresult.resolve_left fun hzero => hid (by rw [hzero]),
    fun m hm hchannel => ?_⟩
  obtain ⟨hstored, hle⟩ := hall m hm hchannel
  exact ⟨hstored.2.2, hle⟩

end Counting

/-! ## Runs -/

/-- A call, with the messages that the thread has when it is made. -/
structure IndexCall (c : Collation) where
  threadId : String
  op : IndexOp
  nowMs : Int
  messages : Messages.Rows c

variable {c : Collation} {owner : String}

def IndexCall.page (call : IndexCall c) : List ChatMessage := call.messages.rows

def IndexCall.views (call : IndexCall c) : List MessageView := call.page.map ofMessage

/-- The records. The second field is history: the messages that a thread's last count was of. -/
structure Summaries where
  records : OrdMap String ThreadIndexEntry
  counted : OrdMap String (List MessageView)

namespace Summaries

def fresh : Summaries := ⟨empty, empty⟩

/-- The record that a call begins with. -/
def existing (s : Summaries) (call : IndexCall c) : ThreadIndexEntry :=
  (s.records.get? (trim call.threadId)).getD (emptyEntry (trim call.threadId) call.nowMs)

/-- What the last count of a thread was of. -/
def countedOf (s : Summaries) (threadId : String) : List MessageView :=
  (s.counted.get? threadId).getD []

end Summaries

/-- The messages that a call counts, or takes for read. -/
def IndexCall.counts (call : IndexCall c) : Option (List MessageView) :=
  match call.op with
  | .ensureThreadSummary => if call.page = [] then none else some call.views
  | .markThreadRead | .markChannelRead _ => some call.views
  | .upsertOnMessageAccepted a =>
    some (merged (trim a.messageId) (a.createdAtMs.getD call.nowMs) (trimmed a.senderAccountId)
      call.views)
  | .upsertActivity _ _ | .removeThread => none

/-- A call that nothing interrupts. -/
def Summaries.call (owner : String) (s : Summaries) (call : IndexCall c) : Summaries :=
  if call.op.Callable call.threadId then
    if call.op = .removeThread then
      ⟨s.records.delete (trim call.threadId), s.counted.delete (trim call.threadId)⟩
    else
      match call.op.next c owner call.nowMs (s.existing call) call.page with
      | some next =>
        ⟨s.records.set (trim call.threadId) next,
          s.counted.set (trim call.threadId)
            (call.counts.getD (s.countedOf (trim call.threadId)))⟩
      | none => s
  else s

/-- The records after some calls. -/
def Summaries.after (owner : String) (calls : List (IndexCall c)) : Summaries :=
  Runs.run (Summaries.call owner) Summaries.fresh calls

/-! ### Calls and operations -/

/-- An operation that nothing comes between. -/
def IndexCall.events (call : IndexCall c) : List IndexEvent :=
  .start call.threadId call.op call.nowMs ::
    replicate 5 (.advance (trim call.threadId) call.page .ok)

section Uninterrupted

variable {t : ThreadIndex c} {threadId : String} {page : List ChatMessage}

end Uninterrupted

/-! ### The numbers add up -/

/-- In every record, the numbers by channel add up to the number of all. -/
def Summaries.AddUp (s : Summaries) : Prop :=
  ∀ threadId e, s.records.get? threadId = some e → e.AddsUp

/-- The messages that a call counts, and the markers by which it does. -/
def IndexCall.recount (call : IndexCall c) (existing : ThreadIndexEntry) :
    Option (Watermarks × List MessageView) :=
  match call.op with
  | .ensureThreadSummary =>
    if call.page = [] then none else some (existing.watermarks, call.views)
  | .markChannelRead channelId =>
    some ({ existing.watermarks with
      byChannel := nextByChannel c (trim channelId) existing call.views }, call.views)
  | .upsertOnMessageAccepted a =>
    some (existing.watermarks, merged (trim a.messageId) (a.createdAtMs.getD call.nowMs)
      (trimmed a.senderAccountId) call.views)
  | .markThreadRead | .upsertActivity _ _ | .removeThread => none

/-- A call counts no message in a channel with an inherited name. -/
def CountsPlainly (owner : String) (s : Summaries) (call : IndexCall c) : Prop :=
  call.op.Callable call.threadId → ∀ r ∈ call.recount (s.existing call),
    PlainlyCounted c owner r.1 r.2

section Calls

variable {s : Summaries} {call : IndexCall c} {next before : ThreadIndexEntry}

/-- What a call writes: a count, or numbers that are as they were, or none. -/
theorem next_counts (h : call.op.next c owner call.nowMs before call.page = some next) :
    (∃ r, ∃ e : ThreadIndexEntry, call.recount before = some r ∧
      next = e.withUnread (unreadSummary c owner r.1 r.2)) ∨
    (call.recount before = none ∧
      ((next.unreadCount = before.unreadCount ∧
        next.unreadByChannelId = before.unreadByChannelId) ∨
      (next.unreadCount = 0 ∧ next.unreadByChannelId = empty))) := by
  unfold IndexOp.next at h
  unfold IndexCall.recount
  cases hop : call.op with
  | ensureThreadSummary =>
    rw [hop] at h
    dsimp only at h ⊢
    unfold ensureThreadSummary at h
    cases hpage : call.page with
    | nil =>
      rw [hpage] at h
      dsimp only at h
      split at h
      · rw [← some_inj.1 h]
        exact .inr ⟨rfl, .inl ⟨rfl, rfl⟩⟩
      · exact absurd h (by simp)
    | cons latest page =>
      rw [hpage] at h
      rw [if_neg (by simp), IndexCall.views, hpage, ← some_inj.1 h]
      exact .inl ⟨_, _, rfl, rfl⟩
  | markThreadRead =>
    rw [hop] at h
    rw [← some_inj.1 h]
    exact .inr ⟨rfl, .inr ⟨rfl, rfl⟩⟩
  | markChannelRead channelId =>
    rw [hop] at h
    rw [← some_inj.1 h]
    exact .inl ⟨_, _, rfl, rfl⟩
  | upsertOnMessageAccepted a =>
    rw [hop] at h
    rw [← some_inj.1 h]
    exact .inl ⟨_, _, rfl, rfl⟩
  | upsertActivity atMs preview =>
    rw [hop] at h
    rw [← some_inj.1 h]
    exact .inr ⟨rfl, .inl ⟨rfl, rfl⟩⟩
  | removeThread =>
    rw [hop] at h
    exact absurd h (by simp)

theorem Summaries.AddUp.existing (h : s.AddUp) (call : IndexCall c) : (s.existing call).AddsUp := by
  unfold Summaries.existing
  cases hget : s.records.get? (trim call.threadId) with
  | none => rfl
  | some e => exact h _ e hget

/-- **One call** keeps the numbers adding up exactly if it counts plainly. -/
theorem addUp_call_iff (h : s.AddUp) : (s.call owner call).AddUp ↔ CountsPlainly owner s call := by
  unfold Summaries.call CountsPlainly
  by_cases hcallable : call.op.Callable call.threadId
  · rw [if_pos hcallable]
    by_cases hremove : call.op = .removeThread
    · rw [if_pos hremove]
      refine iff_of_true (fun id e he => ?_) fun _ r hr => ?_
      · have hget : (s.records.delete (trim call.threadId)).get? id = some e := he
        rw [get?_delete] at hget
        by_cases hsame : id = trim call.threadId
        · rw [if_pos hsame] at hget
          exact absurd hget (by simp)
        · rw [if_neg hsame] at hget
          exact h id e hget
      · rw [IndexCall.recount, hremove] at hr
        exact absurd hr (by simp)
    · rw [if_neg hremove]
      cases hnext : call.op.next c owner call.nowMs (s.existing call) call.page with
      | none =>
        -- only an empty page has nothing to write
        refine iff_of_true h fun _ r hr => ?_
        unfold IndexOp.next at hnext
        unfold IndexCall.recount at hr
        cases hop : call.op with
        | ensureThreadSummary =>
          rw [hop] at hnext hr
          dsimp only at hnext hr
          unfold ensureThreadSummary at hnext
          cases hpage : call.page with
          | nil =>
            rw [hpage, if_pos rfl] at hr
            exact absurd hr (by simp)
          | cons latest page =>
            rw [hpage] at hnext
            exact absurd hnext (by simp)
        | markThreadRead => rw [hop] at hnext; exact absurd hnext (by simp)
        | markChannelRead channelId => rw [hop] at hnext; exact absurd hnext (by simp)
        | upsertOnMessageAccepted a => rw [hop] at hnext; exact absurd hnext (by simp)
        | upsertActivity atMs preview => rw [hop] at hnext; exact absurd hnext (by simp)
        | removeThread => exact absurd hop hremove
      | some next =>
        dsimp only
        have hall : (Summaries.AddUp ⟨s.records.set (trim call.threadId) next,
            s.counted.set (trim call.threadId)
              (call.counts.getD (s.countedOf (trim call.threadId)))⟩) ↔ next.AddsUp := by
          constructor
          · exact fun hadds => hadds (trim call.threadId) next (get?_set_self _ _ _)
          · intro hadds id e he
            have hget : (s.records.set (trim call.threadId) next).get? id = some e := he
            rw [get?_set] at hget
            by_cases hsame : id = trim call.threadId
            · rw [if_pos hsame, some_inj] at hget
              rw [← hget]
              exact hadds
            · rw [if_neg hsame] at hget
              exact h id e hget
        rw [hall]
        rcases next_counts hnext with ⟨r, e, hr, rfl⟩ | ⟨hnone, hnumbers⟩
        · rw [addsUp_withUnread, hr]
          exact ⟨fun hplain _ r' hr' => by rw [← mem_some_iff.1 hr']; exact hplain,
            fun hplain => hplain hcallable r rfl⟩
        · refine iff_of_true ?_ fun _ r hr => ?_
          · unfold ThreadIndexEntry.AddsUp
            rcases hnumbers with ⟨hcount, hby⟩ | ⟨hcount, hby⟩
            · rw [hcount, hby]
              exact h.existing call
            · rw [hcount, hby]
              rfl
          · rw [hnone] at hr
            exact absurd hr (by simp)
  · rw [if_neg hcallable]
    exact iff_of_true h fun hc => absurd hc hcallable

end Calls

/-! ### The channels -/

/-- The messages have ids and times. -/
def IndexCall.WellFormed (call : IndexCall c) : Prop :=
  ∀ m ∈ call.page, trim m.messageId = m.messageId ∧ m.messageId ≠ "" ∧ 0 < m.createdAtMs

instance (call : IndexCall c) : Decidable call.WellFormed := by
  unfold IndexCall.WellFormed
  infer_instance

/-- The numbers of a record are those of the messages that were counted last, by its markers. -/
def ThreadIndexEntry.InStep (c : Collation) (owner : String) (e : ThreadIndexEntry)
    (messages : List MessageView) : Prop :=
  (∀ channelKey, e.unreadIn channelKey = countedIn c owner e.watermarks messages channelKey) ∧
    ∀ key marker, e.lastReadByChannelId.get? key = some marker → marker.Stored

structure Kept (c : Collation) (owner : String) (s : Summaries) : Prop where
  inStep : ∀ threadId e, s.records.get? threadId = some e → e.InStep c owner (s.countedOf threadId)
  counted : ∀ threadId, s.records.get? threadId = none → s.counted.get? threadId = none

section Channels

variable {s : Summaries} {call : IndexCall c} {before next : ThreadIndexEntry}
  {marks marks' : Watermarks} {messages : List MessageView} {channelKey : String}

/-- For a name that is not inherited, a marker is an entry. -/
theorem get_plain (markers : ReadMarkers) (hkey : channelKey ∉ objectPrototype) :
    markers.get channelKey = markers.own.get? channelKey := by
  have hproto : channelKey ≠ "__proto__" := fun hsame => hkey (by rw [hsame]; decide)
  unfold ReadMarkers.get
  cases hget : markers.own.get? channelKey with
  | none =>
    dsimp only
    rw [if_neg hproto, if_neg hkey]
  | some marker => rfl

/-- Stored markers are stored again as they are. -/
theorem get?_coerceLastRead {markers : ReadMarkers}
    (h : ∀ key marker, markers.own.get? key = some marker → marker.Stored) (key : String) :
    (coerceLastReadByChannelId markers).get? key = markers.own.get? key := by
  unfold coerceLastReadByChannelId
  rw [get?_filterMap]
  cases hget : markers.own.get? key with
  | none => rfl
  | some marker =>
    obtain ⟨htime, htrimmed, hid⟩ := h key marker hget
    have hmax : max 0 marker.atMs = marker.atMs := by omega
    rw [bind_some, hmax, htrimmed, if_neg fun hand => hid hand.2]

/-- Counts by markers that agree on the channel agree. -/
theorem countedIn_markers
    (h : channelKey ∉ objectPrototype → marks.markerFor channelKey = marks'.markerFor channelKey) :
    countedIn c owner marks messages channelKey = countedIn c owner marks' messages channelKey := by
  by_cases hkey : channelKey ∈ objectPrototype
  · unfold countedIn
    rw [if_pos hkey, if_pos hkey]
  · refine countedIn_congr fun m _ hchannel => ?_
    unfold Counts
    rw [hchannel, h hkey]

theorem views_valid (h : call.WellFormed) : ∀ m ∈ call.views, m.Valid := by
  intro m hm
  obtain ⟨row, hrow, rfl⟩ := mem_map.1 hm
  exact h row hrow

/-- The markers of `markChannelRead`: the channel's own is its latest message, if it has any. -/
theorem nextByChannel_spec (channelKey : String) (hvalid : ∀ m ∈ messages, m.Valid)
    (hstored : ∀ key marker, before.lastReadByChannelId.get? key = some marker → marker.Stored) :
    (∀ key marker, (nextByChannel c channelKey before messages).own.get? key = some marker →
      marker.Stored) ∧
    (∀ key, key ≠ channelKey → key ∉ objectPrototype →
      (nextByChannel c channelKey before messages).get key = before.lastReadByChannelId.get? key) ∧
    (channelKey ∉ objectPrototype → (latestOf c channelKey messages).msgId ≠ "" →
      (nextByChannel c channelKey before messages).get channelKey =
        some (latestOf c channelKey messages)) := by
  unfold nextByChannel
  by_cases hlatest : (latestOf c channelKey messages).msgId ≠ ""
  · rw [if_pos hlatest]
    have hnew := (latestOf_spec (c := c) channelKey hvalid).1 hlatest
    unfold assign
    by_cases hproto : channelKey = "__proto__"
    · rw [if_pos hproto]
      refine ⟨hstored, fun key _ hkey => get_plain _ hkey, fun hkey => ?_⟩
      exact absurd (by rw [hproto]; decide) hkey
    · rw [if_neg hproto]
      refine ⟨fun key marker hget => ?_, fun key hne hkey => ?_, fun hkey _ => ?_⟩
      · have hset : (before.lastReadByChannelId.set channelKey
            (latestOf c channelKey messages)).get? key = some marker := hget
        rw [get?_set] at hset
        by_cases hsame : key = channelKey
        · rw [if_pos hsame, some_inj] at hset
          rw [← hset]
          exact hnew
        · rw [if_neg hsame] at hset
          exact hstored key marker hset
      · rw [get_plain _ hkey]
        exact get?_set_of_ne _ _ hne
      · rw [get_plain _ hkey]
        exact get?_set_self _ _ _
  · rw [if_neg hlatest]
    exact ⟨hstored, fun key _ hkey => get_plain _ hkey, fun _ hid => absurd hid hlatest⟩

/-- **Marking a channel as read** leaves no message of it unread, and no other channel changes. -/
theorem markChannelRead_spec (hvalid : ∀ m ∈ call.views, m.Valid)
    (hbefore : before.InStep c owner messages) (channelId : String) :
    (markChannelRead c owner channelId call.nowMs before call.page).InStep c owner call.views ∧
    (markChannelRead c owner channelId call.nowMs before call.page).unreadIn (trim channelId) = 0 ∧
    ∀ other, other ≠ trim channelId →
      (markChannelRead c owner channelId call.nowMs before call.page).unreadIn other =
        countedIn c owner before.watermarks call.views other := by
  obtain ⟨hstored, hothers, hown⟩ := nextByChannel_spec (c := c) (trim channelId) hvalid hbefore.2
  have hunread : ∀ key,
      (markChannelRead c owner channelId call.nowMs before call.page).unreadIn key =
        countedIn c owner { before.watermarks with
          byChannel := nextByChannel c (trim channelId) before call.views } call.views key :=
    unreadIn_withUnread _ _ _
  refine ⟨⟨fun key => (hunread key).trans (countedIn_markers fun hkey => ?_), fun key marker hget => ?_⟩,
    (hunread _).trans (countedIn_eq_zero fun hkey m hm hchannel hcounts => ?_),
    fun other hne => (hunread other).trans (countedIn_markers fun hkey => ?_)⟩
  · -- the markers that are stored are those that were counted by
    show (get _ key).getD _ = (get _ key).getD _
    rw [get_plain _ hkey, get_plain _ hkey]
    show ((nextByChannel c (trim channelId) before call.views).own.get? key).getD _ =
      ((coerceLastReadByChannelId (nextByChannel c (trim channelId) before call.views)).get? key).getD _
    rw [get?_coerceLastRead hstored]
    rfl
  · have hcoerced : (coerceLastReadByChannelId
        (nextByChannel c (trim channelId) before call.views)).get? key = some marker := hget
    rw [get?_coerceLastRead hstored] at hcoerced
    exact hstored key marker hcoerced
  · obtain ⟨hlatest, hle⟩ := (latestOf_spec (c := c) (trim channelId) hvalid).2 m hm hchannel
    have hgreater := hcounts.2.2.2.1
    unfold markerFor at hgreater
    rw [hchannel, hown hkey hlatest, getD_some, hle] at hgreater
    exact absurd hgreater (by simp)
  · show (get _ other).getD _ = (get _ other).getD _
    rw [hothers other hne hkey, get_plain _ hkey]
    rfl

/-- **Marking a thread as read** leaves no message unread: the first is the latest. -/
theorem markThreadRead_spec (h : call.WellFormed) :
    (markThreadRead call.nowMs before call.page).InStep c owner call.views := by
  refine ⟨fun key => Eq.symm (countedIn_eq_zero fun hkey m hm hchannel hcounts => ?_),
    fun key marker hget => absurd hget (by simp [markThreadRead])⟩
  obtain ⟨row, hrow, rfl⟩ := mem_map.1 hm
  have hgreater := hcounts.2.2.2.1
  cases hpage : call.page with
  | nil =>
    rw [hpage] at hrow
    exact absurd hrow not_mem_nil
  | cons latest page =>
    have hsorted : (latest :: page).Pairwise (newestFirst c) := by
      rw [← hpage]
      exact call.messages.sorted
    have hle : isKeyGreater c row.createdAtMs (trim row.messageId) latest.createdAtMs
        (trim latest.messageId) = false := by
      rw [hpage] at hrow
      rcases mem_cons.1 hrow with rfl | hrow
      · exact isKeyGreater_self _ _
      · have hrowid := (h row (by rw [hpage]; exact mem_cons_of_mem _ hrow)).1
        have hlatestid := (h latest (by rw [hpage]; exact mem_cons_self)).1
        rw [isKeyGreater_eq_false, hrowid, hlatestid]
        exact (pairwise_cons.1 hsorted).1 row hrow
    have hmarker : (markThreadRead call.nowMs before call.page).watermarks.markerFor
        (messageChannelKey (ofMessage row)) =
          ⟨latest.createdAtMs, trim latest.messageId⟩ := by
      unfold markerFor
      rw [hchannel, get_plain _ hkey, hpage]
      rfl
    rw [hmarker] at hgreater
    exact absurd (hle.symm.trans hgreater) (by simp)

theorem inStep_emptyEntry (threadId : String) (nowMs : Int) :
    (emptyEntry threadId nowMs).InStep c owner [] := by
  refine ⟨fun key => ?_, fun key marker hget => absurd hget (by simp [emptyEntry])⟩
  unfold countedIn
  by_cases hkey : key ∈ objectPrototype
  · rw [if_pos hkey]
    rfl
  · rw [if_neg hkey]
    rfl

theorem Kept.existing (h : Kept c owner s) (call : IndexCall c) :
    (s.existing call).InStep c owner (s.countedOf (trim call.threadId)) := by
  unfold Summaries.existing
  cases hget : s.records.get? (trim call.threadId) with
  | none =>
    have hnone : s.countedOf (trim call.threadId) = [] := by
      unfold Summaries.countedOf
      rw [h.counted _ hget]
      rfl
    rw [hnone]
    exact inStep_emptyEntry _ _
  | some e => exact h.inStep _ e hget

/-- What a call writes is in step with what it counted. -/
theorem inStep_next (h : call.WellFormed) (hbefore : before.InStep c owner messages)
    (hnext : call.op.next c owner call.nowMs before call.page = some next) :
    next.InStep c owner (call.counts.getD messages) := by
  unfold IndexOp.next at hnext
  unfold IndexCall.counts
  cases hop : call.op with
  | ensureThreadSummary =>
    rw [hop] at hnext
    dsimp only at hnext ⊢
    unfold ensureThreadSummary at hnext
    cases hpage : call.page with
    | nil =>
      rw [hpage] at hnext
      dsimp only at hnext
      split at hnext
      · rw [← some_inj.1 hnext]
        exact hbefore
      · exact absurd hnext (by simp)
    | cons latest page =>
      rw [hpage] at hnext
      rw [if_neg (by simp), getD_some, IndexCall.views, hpage, ← some_inj.1 hnext]
      exact ⟨fun key => unreadIn_withUnread _ _ _ key, hbefore.2⟩
  | markThreadRead =>
    rw [hop] at hnext
    rw [← some_inj.1 hnext]
    exact markThreadRead_spec h
  | markChannelRead channelId =>
    rw [hop] at hnext
    rw [← some_inj.1 hnext]
    exact (markChannelRead_spec (views_valid h) hbefore channelId).1
  | upsertOnMessageAccepted a =>
    rw [hop] at hnext
    rw [← some_inj.1 hnext]
    exact ⟨fun key => unreadIn_withUnread _ _ _ key, hbefore.2⟩
  | upsertActivity atMs preview =>
    rw [hop] at hnext
    rw [← some_inj.1 hnext]
    exact hbefore
  | removeThread =>
    rw [hop] at hnext
    exact absurd hnext (by simp)

/-- **One call** keeps the records in step. -/
theorem Kept.step (hkept : Kept c owner s) (h : call.WellFormed) :
    Kept c owner (s.call owner call) := by
  unfold Summaries.call
  by_cases hcallable : call.op.Callable call.threadId
  · rw [if_pos hcallable]
    by_cases hremove : call.op = .removeThread
    · rw [if_pos hremove]
      refine ⟨fun id e he => ?_, fun id hnone => ?_⟩
      · have hget : (s.records.delete (trim call.threadId)).get? id = some e := he
        rw [get?_delete] at hget
        by_cases hsame : id = trim call.threadId
        · rw [if_pos hsame] at hget
          exact absurd hget (by simp)
        · rw [if_neg hsame] at hget
          unfold Summaries.countedOf
          rw [get?_delete_of_ne _ hsame]
          exact hkept.inStep id e hget
      · have hget : (s.records.delete (trim call.threadId)).get? id = none := hnone
        show (s.counted.delete (trim call.threadId)).get? id = none
        rw [get?_delete] at hget ⊢
        by_cases hsame : id = trim call.threadId
        · rw [if_pos hsame]
        · rw [if_neg hsame] at hget ⊢
          exact hkept.counted id hget
    · rw [if_neg hremove]
      cases hnext : call.op.next c owner call.nowMs (s.existing call) call.page with
      | none => exact hkept
      | some next =>
        refine ⟨fun id e he => ?_, fun id hnone => ?_⟩
        · have hget : (s.records.set (trim call.threadId) next).get? id = some e := he
          unfold Summaries.countedOf
          dsimp only
          rw [get?_set] at hget ⊢
          by_cases hsame : id = trim call.threadId
          · rw [if_pos hsame, some_inj] at hget
            rw [if_pos hsame, ← hget]
            exact inStep_next h (hkept.existing call) hnext
          · rw [if_neg hsame] at hget ⊢
            exact hkept.inStep id e hget
        · have hget : (s.records.set (trim call.threadId) next).get? id = none := hnone
          show (s.counted.set (trim call.threadId) _).get? id = none
          rw [get?_set] at hget ⊢
          by_cases hsame : id = trim call.threadId
          · rw [if_pos hsame] at hget
            exact absurd hget (by simp)
          · rw [if_neg hsame] at hget ⊢
            exact hkept.counted id hget
  · rw [if_neg hcallable]
    exact hkept

end Channels

/-! ### An accepted message -/

/-- The message is among those of the thread, with its sender. -/
def Accepted.Stored (a : Accepted) (call : IndexCall c) : Prop :=
  ∃ m ∈ call.page, m.messageId = trim a.messageId ∧
    (trim m.senderAccountId ≠ "" ∨ trimmed a.senderAccountId = "")

/-- Messages with ids of their own, of which the accepted one has its sender, are merged as they
are. -/
theorem mergePage_eq {msgId sender : String} : ∀ (messages : List MessageView) (seen : List String),
    (∀ m ∈ messages, trim m.messageId ≠ "" ∧ trim m.messageId ∉ seen) →
    (messages.map fun m => trim m.messageId).Nodup →
    (∀ m ∈ messages, trim m.messageId = msgId → trim m.senderAccountId ≠ "" ∨ sender = "") →
    mergePage msgId sender seen messages = messages
  | [], _, _, _, _ => rfl
  | m :: messages, seen, hids, hnodup, hsender => by
    obtain ⟨hid, hnew⟩ := hids m mem_cons_self
    obtain ⟨hother, hrest⟩ := nodup_cons.1 hnodup
    unfold mergePage
    rw [if_neg fun hor => hor.elim hid hnew, if_neg fun hand => ?_, mergePage_eq messages _
      (fun m' hm' => ?_) hrest fun m' hm' => hsender m' (mem_cons_of_mem m hm')]
    · obtain ⟨hid', hnew'⟩ := hids m' (mem_cons_of_mem m hm')
      refine ⟨hid', fun hmem => ?_⟩
      rcases mem_cons.1 hmem with hsame | hseen
      · exact hother (mem_map.2 ⟨m', hm', hsame⟩)
      · exact hnew' hseen
    · rcases hsender m mem_cons_self hand.1 with hown | hnone
      · exact hown hand.2.2
      · exact hand.2.1 hnone

/-- **A stored message** is counted as all are. -/
theorem merged_eq {call : IndexCall c} {a : Accepted} (h : call.WellFormed) (hstored : a.Stored call)
    (atMs : Int) :
    merged (trim a.messageId) atMs (trimmed a.senderAccountId) call.views = call.views := by
  obtain ⟨row, hrow, hid, hsender⟩ := hstored
  have hids : call.views.map (fun m => trim m.messageId) = call.page.map ChatMessage.messageId := by
    rw [IndexCall.views, List.map_map]
    exact map_congr_left fun m hm => (h m hm).1
  have hmem : trim a.messageId ∈ call.views.map fun m => trim m.messageId := by
    rw [hids, ← hid]
    exact mem_map.2 ⟨row, hrow, rfl⟩
  unfold merged
  rw [if_pos hmem, append_nil]
  refine mergePage_eq call.views [] (fun m hm => ?_) (by rw [hids]; exact call.messages.nodup)
    fun m hm hsame => ?_
  · obtain ⟨htrimmed, hne, -⟩ := views_valid h m hm
    exact ⟨by rw [htrimmed]; exact hne, not_mem_nil⟩
  · -- there is one message of that id
    obtain ⟨row', hrow', rfl⟩ := mem_map.1 hm
    have hsameId : row'.messageId = row.messageId := by
      rw [hid, ← hsame]
      exact (h row' hrow').1.symm
    rw [show row' = row from inj_on_of_nodup_map call.messages.nodup hrow' hrow hsameId]
    exact hsender

/-! ### What a call does to the numbers -/

/-- The unread messages of a channel. -/
def Summaries.unreadIn (s : Summaries) (threadId channelKey : String) : Nat :=
  ((s.records.get? threadId).map fun e => e.unreadIn channelKey).getD 0

/-- Marking a channel as read clears its number and no other, if the messages are those that were
counted last; and an accepted message that is stored is counted as `ensureThreadSummary` does. -/
def Accounts (owner : String) (s : Summaries) (call : IndexCall c) : Prop :=
  call.op.Callable call.threadId →
    match call.op with
    | .markChannelRead channelId =>
      s.countedOf (trim call.threadId) = call.views →
        (s.call owner call).unreadIn (trim call.threadId) (trim channelId) = 0 ∧
        ∀ other, other ≠ trim channelId →
          (s.call owner call).unreadIn (trim call.threadId) other =
            s.unreadIn (trim call.threadId) other
    | .upsertOnMessageAccepted a =>
      a.Stored call → ∃ e next, (s.call owner call).records.get? (trim call.threadId) = some e ∧
        ensureThreadSummary c owner call.nowMs (s.existing call) call.page = some next ∧
        e.unreadCount = next.unreadCount ∧ e.unreadByChannelId = next.unreadByChannelId
    | _ => True

section Accounts

variable {s : Summaries} {call : IndexCall c}

theorem unreadIn_existing (s : Summaries) (call : IndexCall c) (channelKey : String) :
    (s.existing call).unreadIn channelKey = s.unreadIn (trim call.threadId) channelKey := by
  unfold Summaries.existing Summaries.unreadIn
  cases s.records.get? (trim call.threadId) with
  | none => rfl
  | some e => rfl

/-- **One call** accounts for what it does. -/
theorem Kept.accounts (hkept : Kept c owner s) (h : call.WellFormed) : Accounts owner s call := by
  intro hcallable
  have hbefore := hkept.existing call
  cases hop : call.op with
  | markChannelRead channelId =>
    intro hsame
    obtain ⟨-, hcleared, hothers⟩ := markChannelRead_spec (views_valid h) hbefore channelId
    -- the record that is written
    have hrecord : (s.call owner call).records.get? (trim call.threadId) =
        some (markChannelRead c owner channelId call.nowMs (s.existing call) call.page) := by
      unfold Summaries.call
      rw [if_pos hcallable, if_neg (by rw [hop]; simp), hop]
      exact get?_set_self _ _ _
    have hunread : ∀ key, (s.call owner call).unreadIn (trim call.threadId) key =
        (markChannelRead c owner channelId call.nowMs (s.existing call) call.page).unreadIn key := by
      intro key
      unfold Summaries.unreadIn
      rw [hrecord]
      rfl
    refine ⟨(hunread _).trans hcleared, fun other hne => ?_⟩
    rw [hunread, hothers other hne, ← hsame, ← hbefore.1 other]
    exact unreadIn_existing s call other
  | upsertOnMessageAccepted a =>
    intro hstored
    have hrecord : (s.call owner call).records.get? (trim call.threadId) =
        some (upsertOnMessageAccepted c owner a call.nowMs (s.existing call) call.page) := by
      unfold Summaries.call
      rw [if_pos hcallable, if_neg (by rw [hop]; simp), hop]
      exact get?_set_self _ _ _
    have hmerged := merged_eq h hstored (a.createdAtMs.getD call.nowMs)
    obtain ⟨row, hrow, -⟩ := hstored
    cases hpage : call.page with
    | nil =>
      rw [hpage] at hrow
      exact absurd hrow not_mem_nil
    | cons latest page =>
      have hviews : call.views = (latest :: page).map ofMessage := by
        rw [IndexCall.views, hpage]
      refine ⟨_, _, hrecord, rfl, ?_, ?_⟩
      · show (unreadSummary c owner _ (merged _ _ _ call.views)).unreadCount = _
        rw [hmerged, hviews]
        rfl
      · show coerceUnreadByChannelId
          (unreadSummary c owner _ (merged _ _ _ call.views)).unreadByChannelId = _
        rw [hmerged, hviews]
        rfl
  | ensureThreadSummary => exact trivial
  | markThreadRead => exact trivial
  | upsertActivity atMs preview => exact trivial
  | removeThread => exact trivial

theorem kept_fresh : Kept c owner Summaries.fresh :=
  ⟨fun _ _ he => absurd he (by simp [Summaries.fresh]), fun _ _ => rfl⟩

end Accounts

/-- In every run of calls, the numbers of every record add up exactly if no call counts a message
in a channel with an inherited name; and every call accounts for what it does, if the messages
have ids and times. -/
theorem unread_accounting (c : Collation) (owner : String) (calls : List (IndexCall c)) :
    ((∀ n, (Summaries.after owner (calls.take n)).AddUp) ↔
      Runs.Meets (Summaries.call owner) (CountsPlainly owner) Summaries.fresh calls) ∧
    ((∀ call ∈ calls, call.WellFormed) →
      Runs.Meets (Summaries.call owner) (Accounts owner) Summaries.fresh calls) := by
  refine ⟨?_, fun hvalid => ?_⟩
  · exact Runs.throughout_iff (Summaries.call owner) (fun _ _ h => addUp_call_iff h) calls _
      fun _ _ he => absurd he (by simp [Summaries.fresh])
  · exact Runs.meets_of_invariant (I := Kept c owner) (Summaries.call owner)
      (fun _ _ hkept h => hkept.step h) (fun _ _ hkept h => hkept.accounts h) calls _ kept_fresh
      (Runs.meets_of_forall _ _ _ fun call hcall _ => hvalid call hcall)

/-! ### A channel with an inherited name -/

/-- A message of bob in a channel. -/
def inChannel (messageId channelId : String) (createdAtMs : Int) : ChatMessage where
  threadId := "t"
  messageId := messageId
  senderAccountId := "bob"
  senderKey := "bob"
  packetB64 := ""
  status := .delivered
  text := "hello"
  payload := some { channelId := some channelId }
  createdAtMs := createdAtMs
  acceptedAtMs := none
  sentAtMs := none
  editedAtMs := none
  tombstonedAtMs := none
  reactions := empty
  conflicted := false
  wireId := messageId

/-- A call on a thread with one message in each of two channels. -/
def callOn (op : IndexOp) (channelId : String) : IndexCall Collation.byCodePoint :=
  ⟨"t", op, 9, (Ranking.empty.put (inChannel "m1" channelId 5)).put (inChannel "m2" "dev" 6)⟩

/-- The messages are counted, and then a channel is marked as read. -/
theorem unread_accounting_marked :
    Runs.Meets (Summaries.call "me") (Accounts "me") Summaries.fresh
      [callOn .ensureThreadSummary "design", callOn (.markChannelRead "design") "design"] :=
  (unread_accounting Collation.byCodePoint "me" _).2 (by decide)

/-- Two messages are unread, of which one is in the channel `constructor`: its channel does not
have it. -/
theorem constructor_uncounted : ¬ ∀ owner (calls : List (IndexCall Collation.byCodePoint)) n,
    (Summaries.after owner (calls.take n)).AddUp := by
  intro h
  have hadds := h "me" [callOn .ensureThreadSummary "constructor"] 1 "t"
  have hnot : ((Summaries.after "me" [callOn .ensureThreadSummary "constructor"]).records.get?
      "t").map (fun e => decide (e.unreadCount = e.unreadByChannelId.total id)) = some false := by
    decide
  obtain ⟨e, he, hfalse⟩ := map_eq_some_iff.1 hnot
  exact of_decide_eq_false hfalse (hadds e he)

end RezChat.Threads
