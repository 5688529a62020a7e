/-
File transfers (`services/ServerFileTransferService.js`).

`sendFile` reads the thread, and in a group its members, writes what it found into the one field
`#sendContext`, and hands the file to the transfer service of the SDK. That service calls
`onSendDeposit` for the manifest and for every chunk, with awaits in between, and `onSendDeposit`
looks at the field to find out whom the deposit is for, at which inbox, and in which channel. When
the service is done the field is cleared.

The SDK is not part of this repository. What the code relies on is that it calls `onSendDeposit` only
between the call of its `sendFile` and the end of it, with the account and the thread it was given.
With a second file in its hands the field is that of the other thread, or empty, and a chunk is
sealed to the wrong accounts. Where each call finds the field as its own transfer wrote it, every
deposit is the thread's own (`run_isolated`); with one file at a time each call does
(`run_findsOwn`).

What `sendFile` records and emits once the file is sent is not modelled.
-/
import RezChat.Inbox.Frame
import RezChat.Lib.Runs
import RezChat.Lib.Table

set_option autoImplicit false

namespace RezChat.Files

open Table List

open Inbox (trimmed)

/-! ## Threads -/

/-- The fields of a thread row that `sendFile` reads. -/
structure Thread where
  threadType : Option String
  groupId : Option String
  peerAccountId : Option String
  peerInboxId : Option String

/-- A row of the group's members. -/
structure Member where
  accountId : String
  state : String

/-- Whose server this is. -/
structure Owner where
  ownerAccountId : String
  localInboxId : Option String

namespace Thread

def isGroup (thread : Thread) : Bool :=
  decide (thread.threadType = some "group") && decide (trimmed thread.groupId ≠ "")

def peer (thread : Thread) : String := trimmed thread.peerAccountId

end Thread

/-- The members a group file goes to. -/
def groupTargets (owner : Owner) (members : List Member) : List String :=
  (members.filter fun m =>
    decide (m.state = "active") && decide (m.accountId ≠ owner.ownerAccountId)).map Member.accountId

/-! ## The context -/

/-- `#sendContext`. -/
structure SendContext where
  deliverInboxId : String
  groupTargets : Option (List String)
  channelId : String
  deriving DecidableEq

/-- What `sendFile` puts there. -/
def sendContext (owner : Owner) (thread : Thread) (members : List Member) (channelId : String) :
    SendContext :=
  if thread.isGroup then ⟨"", some (groupTargets owner members), channelId⟩
  else ⟨trimmed thread.peerInboxId, none, channelId⟩

/-- The account that `sendFile` names to the SDK: in a group it is a sentinel. -/
def sdkPeerAccountId (owner : Owner) (thread : Thread) : String :=
  if thread.isGroup then owner.ownerAccountId else thread.peer

def orUndefined (s : String) : Option String := if s = "" then none else some s

/-- The body of a deposit; a JSON object carries the fields that the chat adds. -/
structure Body where
  threadId : String
  senderAccountId : String
  channelId : Option String
  deriving DecidableEq

/-- One call of `sealForPeer`, with the dispatch of what it sealed. -/
structure Deposit where
  transfer : Nat
  accountId : String
  deliverInboxId : Option String
  receiptInboxId : Option String
  body : Option Body
  deriving DecidableEq

/-- What becomes of a deposit. -/
inductive DepositPhase where
  | sealing
  | dispatching
  | deposited
  | failed
  deriving DecidableEq

/-! ## Transfers -/

inductive TransferPhase where
  /-- `getThread` is awaited. -/
  | reading
  /-- `listMembers` is awaited. -/
  | listing
  /-- The SDK has the file. -/
  | sending
  | sent
  | failed
  deriving DecidableEq

/-- A call of `sendFile`, with what it was asked and what it read. -/
structure Transfer where
  threadId : String
  channelId : String
  thread : Thread
  members : List Member
  phase : TransferPhase

/-- The field, the transfers, and the deposits that were made. -/
structure Service where
  sendContext : Option SendContext
  transfers : List Transfer
  deposits : List (Deposit × DepositPhase)

namespace Service

def start : Service := ⟨none, [], []⟩

def setTransfer (s : Service) (i : Nat) (t : Transfer) : Service :=
  { s with transfers := s.transfers.set i t }

/-- `sendFile`, up to its first await. -/
def sendFile (s : Service) (threadId : String) (channelId : Option String) : Service :=
  { s with transfers := s.transfers ++
      [⟨threadId, trimmed channelId, ⟨none, none, none, none⟩, [], .reading⟩] }

/-- The context is written, and the SDK gets the file. -/
def handOver (s : Service) (owner : Owner) (i : Nat) (t : Transfer) : Service :=
  { s with sendContext := some (Files.sendContext owner t.thread t.members t.channelId) }.setTransfer i
    { t with phase := .sending }

/-- The thread was read, or there is none. -/
def threadRead (s : Service) (owner : Owner) (i : Nat) (row : Option Thread) : Service :=
  match s.transfers[i]? with
  | some t =>
    if t.phase = .reading then
      match row with
      | some thread =>
        if thread.isGroup then s.setTransfer i { t with thread := thread, phase := .listing }
        else if thread.peer = "" then s.setTransfer i { t with phase := .failed }
        else s.handOver owner i { t with thread := thread }
      | none => s.setTransfer i { t with phase := .failed }
    else s
  | none => s

/-- The members were listed, or could not be. -/
def membersListed (s : Service) (owner : Owner) (i : Nat) (rows : Option (List Member)) : Service :=
  match s.transfers[i]? with
  | some t =>
    if t.phase = .listing then
      match rows with
      | some members => s.handOver owner i { t with members := members }
      | none => s.setTransfer i { t with phase := .failed }
    else s
  | none => s

/-- The deposits that a call of `onSendDeposit` for the transfer `i` makes, by the context it finds.
`parses` says whether the body is a JSON object. -/
def depositsOf (owner : Owner) (ctx : Option SendContext) (i : Nat) (peerAccountId contextId : String)
    (parses : Bool) : List Deposit :=
  let deliverInboxId := (ctx.map SendContext.deliverInboxId).bind orUndefined
  let channelId := (ctx.map SendContext.channelId).bind orUndefined
  let receiptInboxId := orUndefined (trimmed owner.localInboxId)
  let body : Option Body :=
    if parses then some ⟨contextId, owner.ownerAccountId, channelId⟩ else none
  match ctx.bind SendContext.groupTargets with
  | some targets => targets.map fun accountId => ⟨i, accountId, none, receiptInboxId, body⟩
  | none => [⟨i, peerAccountId, deliverInboxId, receiptInboxId, body⟩]

/-- `onSendDeposit`, up to its first await. -/
def onSendDeposit (s : Service) (owner : Owner) (i : Nat) (parses : Bool) : Service :=
  match s.transfers[i]? with
  | some t =>
    if t.phase = .sending then
      let made := depositsOf owner s.sendContext i (sdkPeerAccountId owner t.thread) t.threadId parses
      { s with deposits := s.deposits ++ made.map (fun d => (d, DepositPhase.sealing)) }
    else s
  | none => s

/-- A deposit goes on. -/
def depositTurn (s : Service) (k : Nat) (ok : Bool) : Service :=
  match s.deposits[k]? with
  | some (d, .sealing) =>
    { s with deposits := s.deposits.set k (d, if ok then .dispatching else .failed) }
  | some (d, .dispatching) =>
    { s with deposits := s.deposits.set k (d, if ok then .deposited else .failed) }
  | _ => s

/-- The SDK is done with the file: the `finally` of `sendFile`. -/
def sdkSettles (s : Service) (i : Nat) (ok : Bool) : Service :=
  match s.transfers[i]? with
  | some t =>
    if t.phase = .sending then
      { s with sendContext := none }.setTransfer i { t with phase := if ok then .sent else .failed }
    else s
  | none => s

/-! ## Runs -/

inductive Event where
  | sendFile (threadId : String) (channelId : Option String)
  | threadRead (i : Nat) (row : Option Thread)
  | membersListed (i : Nat) (rows : Option (List Member))
  | onSendDeposit (i : Nat) (parses : Bool)
  | depositTurn (k : Nat) (ok : Bool)
  | sdkSettles (i : Nat) (ok : Bool)

def step (owner : Owner) (s : Service) : Event → Service
  | .sendFile threadId channelId => s.sendFile threadId channelId
  | .threadRead i row => s.threadRead owner i row
  | .membersListed i rows => s.membersListed owner i rows
  | .onSendDeposit i parses => s.onSendDeposit owner i parses
  | .depositTurn k ok => s.depositTurn k ok
  | .sdkSettles i ok => s.sdkSettles i ok

def after (owner : Owner) (es : List Event) : Service := Runs.run (step owner) start es

/-- A deposit is for the recipients of its thread, at the thread's own inbox, and its body names the
thread and the channel of the transfer. -/
structure Own (owner : Owner) (t : Transfer) (d : Deposit) : Prop where
  recipient : if t.thread.isGroup = true then
      ∃ m ∈ t.members, m.accountId = d.accountId ∧ m.state = "active"
    else d.accountId = t.thread.peer
  inbox : d.deliverInboxId =
    if t.thread.isGroup = true then none else orUndefined (trimmed t.thread.peerInboxId)
  body : ∀ b ∈ d.body, b = ⟨t.threadId, owner.ownerAccountId, orUndefined t.channelId⟩

/-- Every deposit is the own one of its transfer. -/
def Isolated (owner : Owner) (s : Service) : Prop :=
  ∀ p ∈ s.deposits, ∃ t, s.transfers[p.1.transfer]? = some t ∧ Own owner t p.1

/-- The context that a call of `onSendDeposit` finds is the one that its transfer wrote: no other
`sendFile` has written it since, or cleared it. -/
def FindsOwn (owner : Owner) (s : Service) : Event → Prop
  | .onSendDeposit i _ => ∀ t ∈ s.transfers[i]?, t.phase = .sending →
      s.sendContext = some (Files.sendContext owner t.thread t.members t.channelId)
  | _ => True

instance (owner : Owner) (s : Service) : ∀ e, Decidable (s.FindsOwn owner e)
  | .onSendDeposit i _ => inferInstanceAs (Decidable (∀ t ∈ s.transfers[i]?, t.phase = .sending →
      s.sendContext = some (Files.sendContext owner t.thread t.members t.channelId)))
  | .sendFile _ _ => isTrue trivial
  | .threadRead _ _ => isTrue trivial
  | .membersListed _ _ => isTrue trivial
  | .depositTurn _ _ => isTrue trivial
  | .sdkSettles _ _ => isTrue trivial

/-- No transfer is with the SDK. -/
def noneSending (s : Service) : Bool := s.transfers.all fun t => decide (t.phase ≠ .sending)

/-- The SDK gets a file only while it has no other. -/
def OneAtATime (s : Service) : Event → Prop
  | .threadRead _ row => (∃ thread ∈ row, thread.isGroup = false) → s.noneSending = true
  | .membersListed _ rows => rows.isSome = true → s.noneSending = true
  | _ => True

instance (s : Service) (e : Event) : Decidable (s.OneAtATime e) := by
  cases e <;> first | exact isTrue trivial | exact inferInstanceAs (Decidable (_ → _))

/-! ## Deposits -/

variable {owner : Owner} {s : Service} {i j : Nat} {t u : Transfer}

/-- A deposit was made for a transfer that the SDK has, or had, and is its own. -/
def Handed (owner : Owner) (s : Service) : Prop :=
  ∀ p ∈ s.deposits, ∃ t, s.transfers[p.1.transfer]? = some t ∧ t.phase ≠ .reading ∧
    t.phase ≠ .listing ∧ Own owner t p.1

theorem Handed.isolated (h : Handed owner s) : Isolated owner s := by
  intro p hp
  obtain ⟨t, ht, _, _, hown⟩ := h p hp
  exact ⟨t, ht, hown⟩

theorem mem_groupTargets {members : List Member} {accountId : String}
    (h : accountId ∈ groupTargets owner members) :
    ∃ m ∈ members, m.accountId = accountId ∧ m.state = "active" := by
  obtain ⟨m, hm, haccount⟩ := mem_map.1 h
  obtain ⟨hmem, hactive⟩ := mem_filter.1 hm
  rw [Bool.and_eq_true, decide_eq_true_eq] at hactive
  exact ⟨m, hmem, haccount, hactive.1⟩

/-- With the context of its transfer, a call of `onSendDeposit` makes the transfer's own deposits. -/
theorem own_depositsOf {parses : Bool} {d : Deposit}
    (hd : d ∈ depositsOf owner (some (Files.sendContext owner t.thread t.members t.channelId)) i
      (sdkPeerAccountId owner t.thread) t.threadId parses) :
    d.transfer = i ∧ Own owner t d := by
  have hbody : ∀ b ∈ (if parses then some (Body.mk t.threadId owner.ownerAccountId
      (orUndefined t.channelId)) else none), b = ⟨t.threadId, owner.ownerAccountId,
      orUndefined t.channelId⟩ := by
    by_cases hparses : parses = true
    · rw [if_pos hparses]
      intro b hb
      exact (Option.some_inj.1 hb).symm
    · rw [if_neg hparses]
      intro b hb
      simp at hb
  by_cases hgroup : t.thread.isGroup = true
  · rw [Files.sendContext, if_pos hgroup] at hd
    obtain ⟨accountId, hmem, hnew⟩ := mem_map.1 hd
    subst hnew
    refine ⟨rfl, ?_, ?_, hbody⟩
    · rw [if_pos hgroup]
      exact mem_groupTargets hmem
    · rw [if_pos hgroup]
  · rw [Files.sendContext, if_neg hgroup, sdkPeerAccountId, if_neg hgroup] at hd
    obtain rfl := mem_singleton.1 hd
    refine ⟨rfl, ?_, ?_, hbody⟩
    · rw [if_neg hgroup]
    · rw [if_neg hgroup]
      rfl

section

variable (h : Handed owner s)
include h

/-- A transfer that the SDK never had has no deposits, and goes on as it may. -/
theorem Handed.goesOn (hi : s.transfers[i]? = some t)
    (hbefore : t.phase = .reading ∨ t.phase = .listing) (u : Transfer) :
    Handed owner (s.setTransfer i u) := by
  intro p hp
  obtain ⟨v, hv, hreading, hlisting, hown⟩ := h p hp
  have hpi : p.1.transfer ≠ i := by
    intro hpi
    rw [hpi] at hv
    rw [← Option.some_inj.1 (hi.symm.trans hv)] at hreading hlisting
    exact hbefore.elim hreading hlisting
  exact ⟨v, set_other hpi hv, hreading, hlisting, hown⟩

theorem Handed.handOver (hi : s.transfers[i]? = some t)
    (hbefore : t.phase = .reading ∨ t.phase = .listing) (u : Transfer) :
    Handed owner (s.handOver owner i u) :=
  h.goesOn hi hbefore { u with phase := .sending }

theorem Handed.sendFile (threadId : String) (channelId : Option String) :
    Handed owner (s.sendFile threadId channelId) := by
  intro p hp
  obtain ⟨v, hv, hrest⟩ := h p hp
  exact ⟨v, append_left hv, hrest⟩

theorem Handed.threadRead (i : Nat) (row : Option Thread) :
    Handed owner (s.threadRead owner i row) := by
  rw [Service.threadRead]
  cases hi : s.transfers[i]? with
  | none => exact h
  | some t =>
    simp only
    by_cases hphase : t.phase = .reading
    · rw [if_pos hphase]
      have hgoes := fun u => h.goesOn hi (.inl hphase) u
      cases row with
      | none => exact hgoes _
      | some thread =>
        simp only
        by_cases hgroup : thread.isGroup = true
        · rw [if_pos hgroup]
          exact hgoes _
        · rw [if_neg hgroup]
          by_cases hpeer : thread.peer = ""
          · rw [if_pos hpeer]
            exact hgoes _
          · rw [if_neg hpeer]
            exact h.handOver hi (.inl hphase) _
    · rw [if_neg hphase]
      exact h

theorem Handed.membersListed (i : Nat) (rows : Option (List Member)) :
    Handed owner (s.membersListed owner i rows) := by
  rw [Service.membersListed]
  cases hi : s.transfers[i]? with
  | none => exact h
  | some t =>
    simp only
    by_cases hphase : t.phase = .listing
    · rw [if_pos hphase]
      cases rows with
      | none => exact h.goesOn hi (.inr hphase) _
      | some members => exact h.handOver hi (.inr hphase) _
    · rw [if_neg hphase]
      exact h

theorem Handed.onSendDeposit {parses : Bool}
    (hok : s.FindsOwn owner (.onSendDeposit i parses)) :
    Handed owner (s.onSendDeposit owner i parses) := by
  rw [Service.onSendDeposit]
  cases hi : s.transfers[i]? with
  | none => exact h
  | some t =>
    simp only
    by_cases hphase : t.phase = .sending
    · rw [if_pos hphase, hok t hi hphase]
      intro p hp
      rcases mem_append.1 hp with hold | hnew
      · exact h p hold
      · obtain ⟨d, hd, hpd⟩ := mem_map.1 hnew
        obtain ⟨htransfer, hown⟩ := own_depositsOf hd
        subst hpd
        exact ⟨t, htransfer ▸ hi, by simp [hphase], by simp [hphase], hown⟩
    · rw [if_neg hphase]
      exact h

/-- What becomes of a deposit changes nothing about it. -/
theorem Handed.depositTurn (k : Nat) (ok : Bool) :
    Handed owner (s.depositTurn k ok) := by
  have hset : ∀ d phase phase', s.deposits[k]? = some (d, phase) →
      Handed owner { s with deposits := s.deposits.set k (d, phase') } := by
    intro d phase phase' hk p hp
    rcases mem_set hp with hold | hnew
    · exact h p hold
    · rw [hnew]
      exact h (d, phase) (mem_of_getElem? hk)
  rw [Service.depositTurn]
  cases hk : s.deposits[k]? with
  | none => exact h
  | some p =>
    obtain ⟨d, phase⟩ := p
    cases phase with
    | sealing => exact hset d _ _ hk
    | dispatching => exact hset d _ _ hk
    | deposited => exact h
    | failed => exact h

theorem Handed.sdkSettles (i : Nat) (ok : Bool) :
    Handed owner (s.sdkSettles i ok) := by
  rw [Service.sdkSettles]
  cases hi : s.transfers[i]? with
  | none => exact h
  | some t =>
    simp only
    by_cases hphase : t.phase = .sending
    · rw [if_pos hphase]
      intro p hp
      obtain ⟨v, hv, hreading, hlisting, hown⟩ := h p hp
      by_cases hpi : p.1.transfer = i
      · rw [hpi] at hv ⊢
        obtain rfl : t = v := Option.some_inj.1 (hi.symm.trans hv)
        -- the transfer is over: what it was about is as it was
        refine ⟨_, set_self hi, ?_, ?_, hown.recipient, hown.inbox, hown.body⟩
        · cases ok <;> simp
        · cases ok <;> simp
      · exact ⟨v, set_other hpi hv, hreading, hlisting, hown⟩
    · rw [if_neg hphase]
      exact h

theorem Handed.step {e : Event} (hok : s.FindsOwn owner e) :
    Handed owner (s.step owner e) := by
  cases e with
  | sendFile threadId channelId => exact h.sendFile threadId channelId
  | threadRead i row => exact h.threadRead i row
  | membersListed i rows => exact h.membersListed i rows
  | onSendDeposit i parses => exact h.onSendDeposit hok
  | depositTurn k ok => exact h.depositTurn k ok
  | sdkSettles i ok => exact h.sdkSettles i ok

end

/-- **Transfers are isolated** where each call of `onSendDeposit` finds the context of its own
transfer: every manifest and chunk is for the recipients of the thread it was sent to, at the
thread's own inbox and in its channel. -/
theorem run_isolated (owner : Owner) (es : List Event)
    (h : Runs.Meets (Service.step owner) (FindsOwn owner) start es) (n : Nat) :
    Isolated owner (after owner (es.take n)) := by
  have hstart : Handed owner start := by
    intro p hp
    cases hp
  have hkeeps : ∀ s e, Handed owner s → s.FindsOwn owner e → Handed owner (s.step owner e) :=
    fun _ _ hs he => hs.step he
  exact Runs.throughout (Service.step owner) (P := Isolated owner)
    (fun es hm => (Runs.invariant (Service.step owner) hkeeps es start hstart hm).isolated) es h n

/-- A thread with one peer, and one with the members of a group. -/
def direct : Thread := ⟨some "direct", none, some "alice", some "inbox-alice"⟩

def group : Thread := ⟨some "group", some "choir", none, none⟩

def choir : List Member := [⟨"owner", "active"⟩, ⟨"bob", "active"⟩, ⟨"carol", "removed"⟩]

/-- A file to the group, and then one to the peer. -/
def oneByOne : List Event :=
  [.sendFile "t-choir" (some "general"), .threadRead 0 (some group), .membersListed 0 (some choir),
    .onSendDeposit 0 true, .onSendDeposit 0 true, .sdkSettles 0 true, .sendFile "t-alice" none,
    .threadRead 1 (some direct), .onSendDeposit 1 true, .sdkSettles 1 true]

theorem run_isolated_oneByOne :
    Isolated ⟨"owner", some "inbox-owner"⟩ (after ⟨"owner", some "inbox-owner"⟩ oneByOne) :=
  run_isolated _ oneByOne (by decide) 99

/-- While a file goes to Alice, one is sent to the group: a chunk of Alice's file is sealed to a
member of the group. -/
theorem chunk_to_group : ¬ ∀ es, Isolated ⟨"owner", none⟩ (after ⟨"owner", none⟩ es) := by
  intro h
  obtain ⟨t, ht, hown⟩ := h [.sendFile "t-alice" none, .threadRead 0 (some direct),
    .sendFile "t-choir" none, .threadRead 1 (some group), .membersListed 1 (some choir),
    .onSendDeposit 0 true] (⟨0, "bob", none, none, some ⟨"t-alice", "owner", none⟩⟩, .sealing)
    (by decide)
  obtain rfl := Option.some_inj.1 ht
  have hrecipient := hown.recipient
  exact absurd hrecipient (by decide)

/-! ## One file at a time -/

/-- The field is that of the transfer that the SDK works on. -/
structure Sole (owner : Owner) (s : Service) : Prop where
  context : ∀ (i : Nat) (t : Transfer), s.transfers[i]? = some t → t.phase = .sending →
    s.sendContext = some (Files.sendContext owner t.thread t.members t.channelId)
  alone : ∀ (i j : Nat) (t u : Transfer), s.transfers[i]? = some t → s.transfers[j]? = some u →
    t.phase = .sending → u.phase = .sending → i = j

theorem Sole.findsOwn (h : Sole owner s) (e : Event) : s.FindsOwn owner e := by
  cases e with
  | onSendDeposit i parses => exact fun t hi hphase => h.context i t hi hphase
  | _ => trivial

theorem Sole.goesOn (h : Sole owner s) (i : Nat) (hu : u.phase ≠ .sending) :
    Sole owner (s.setTransfer i u) := by
  refine ⟨fun j v hj hv => ?_, fun j k v w hj hk hv hw => ?_⟩
  · rcases getElem_set hj with ⟨_, hnew⟩ | ⟨_, hold⟩
    · exact absurd (hnew ▸ hv) hu
    · exact h.context j v hold hv
  · rcases getElem_set hj with ⟨_, hnew⟩ | ⟨_, hold⟩
    · exact absurd (hnew ▸ hv) hu
    · rcases getElem_set hk with ⟨_, hnew⟩ | ⟨_, hold'⟩
      · exact absurd (hnew ▸ hw) hu
      · exact h.alone j k v w hold hold' hv hw

theorem sending_of_noneSending (h : s.noneSending = true) (hi : s.transfers[i]? = some t) :
    t.phase ≠ .sending := by
  rw [noneSending, all_eq_true] at h
  exact of_decide_eq_true (h t (mem_of_getElem? hi))

/-- The SDK gets its only file. -/
theorem Sole.handOver (hnone : s.noneSending = true) : Sole owner (s.handOver owner i u) := by
  refine ⟨fun j v hj hv => ?_, fun j k v w hj hk hv hw => ?_⟩
  · rcases getElem_set hj with ⟨_, hnew⟩ | ⟨_, hold⟩
    · rw [hnew]
      rfl
    · exact absurd hv (sending_of_noneSending hnone hold)
  · rcases getElem_set hj with ⟨hji, _⟩ | ⟨_, hold⟩
    · rcases getElem_set hk with ⟨hki, _⟩ | ⟨_, hold'⟩
      · exact hji.trans hki.symm
      · exact absurd hw (sending_of_noneSending hnone hold')
    · exact absurd hv (sending_of_noneSending hnone hold)

section

variable (h : Sole owner s)
include h

theorem Sole.threadRead {row : Option Thread}
    (hok : s.OneAtATime (.threadRead i row)) : Sole owner (s.threadRead owner i row) := by
  rw [Service.threadRead]
  cases hi : s.transfers[i]? with
  | none => exact h
  | some t =>
    simp only
    by_cases hphase : t.phase = .reading
    · rw [if_pos hphase]
      cases row with
      | none => exact h.goesOn i (by simp)
      | some thread =>
        simp only
        by_cases hgroup : thread.isGroup = true
        · rw [if_pos hgroup]
          exact h.goesOn i (by simp)
        · rw [if_neg hgroup]
          by_cases hpeer : thread.peer = ""
          · rw [if_pos hpeer]
            exact h.goesOn i (by simp)
          · rw [if_neg hpeer]
            exact Sole.handOver (hok ⟨thread, rfl, Bool.not_eq_true _ |>.mp hgroup⟩)
    · rw [if_neg hphase]
      exact h

theorem Sole.membersListed {rows : Option (List Member)}
    (hok : s.OneAtATime (.membersListed i rows)) : Sole owner (s.membersListed owner i rows) := by
  rw [Service.membersListed]
  cases hi : s.transfers[i]? with
  | none => exact h
  | some t =>
    simp only
    by_cases hphase : t.phase = .listing
    · rw [if_pos hphase]
      cases rows with
      | none => exact h.goesOn i (by simp)
      | some members => exact Sole.handOver (hok rfl)
    · rw [if_neg hphase]
      exact h

/-- Deposits leave the field and the transfers as they are. -/
theorem Sole.of_eq {s' : Service} (hcontext : s'.sendContext = s.sendContext)
    (htransfers : s'.transfers = s.transfers) : Sole owner s' := by
  obtain ⟨context, alone⟩ := h
  rw [← hcontext, ← htransfers] at context
  rw [← htransfers] at alone
  exact ⟨context, alone⟩

theorem Sole.onSendDeposit (i : Nat) (parses : Bool) :
    Sole owner (s.onSendDeposit owner i parses) := by
  rw [Service.onSendDeposit]
  cases s.transfers[i]? with
  | none => exact h
  | some t =>
    simp only
    by_cases hphase : t.phase = .sending
    · rw [if_pos hphase]
      exact h.of_eq rfl rfl
    · rw [if_neg hphase]
      exact h

theorem Sole.depositTurn (k : Nat) (ok : Bool) :
    Sole owner (s.depositTurn k ok) := by
  rw [Service.depositTurn]
  split
  · exact h.of_eq rfl rfl
  · exact h.of_eq rfl rfl
  · exact h

theorem Sole.sdkSettles (i : Nat) (ok : Bool) :
    Sole owner (s.sdkSettles i ok) := by
  rw [Service.sdkSettles]
  cases hi : s.transfers[i]? with
  | none => exact h
  | some t =>
    simp only
    by_cases hphase : t.phase = .sending
    · rw [if_pos hphase]
      have hover : (if ok then TransferPhase.sent else .failed) ≠ .sending := by
        cases ok <;> decide
      -- the transfer that is over was the only one
      have hnone : ∀ (j : Nat) (v : Transfer), j ≠ i → s.transfers[j]? = some v →
          v.phase ≠ .sending := fun j v hji hj hv => hji (h.alone j i v t hj hi hv hphase)
      have hafter : ∀ (j : Nat) (v : Transfer), (s.transfers.set i
          { t with phase := if ok then .sent else .failed })[j]? = some v → v.phase ≠ .sending := by
        intro j v hj
        rcases getElem_set hj with ⟨_, hnew⟩ | ⟨hji, hold⟩
        · rw [hnew]
          exact hover
        · exact hnone j v hji hold
      exact ⟨fun j v hj hv => absurd hv (hafter j v hj),
        fun j k v w hj hk hv hw => absurd hv (hafter j v hj)⟩
    · rw [if_neg hphase]
      exact h

theorem Sole.sendFile (threadId : String) (channelId : Option String) :
    Sole owner (s.sendFile threadId channelId) := by
  refine ⟨fun j v hj hv => ?_, fun j k v w hj hk hv hw => ?_⟩
  · rcases getElem_append hj with ⟨_, hnew⟩ | ⟨_, hold⟩
    · rw [hnew] at hv
      cases hv
    · exact h.context j v hold hv
  · rcases getElem_append hj with ⟨_, hnew⟩ | ⟨_, hold⟩
    · rw [hnew] at hv
      cases hv
    · rcases getElem_append hk with ⟨_, hnew⟩ | ⟨_, hold'⟩
      · rw [hnew] at hw
        cases hw
      · exact h.alone j k v w hold hold' hv hw

theorem Sole.step {e : Event} (hok : s.OneAtATime e) :
    Sole owner (s.step owner e) := by
  cases e with
  | sendFile threadId channelId => exact h.sendFile threadId channelId
  | threadRead i row => exact h.threadRead hok
  | membersListed i rows => exact h.membersListed hok
  | onSendDeposit i parses => exact h.onSendDeposit i parses
  | depositTurn k ok => exact h.depositTurn k ok
  | sdkSettles i ok => exact h.sdkSettles i ok

end

/-- While the SDK never has two files, each call of `onSendDeposit` finds its own context. -/
theorem run_findsOwn (owner : Owner) (es : List Event)
    (h : Runs.Meets (Service.step owner) OneAtATime start es) :
    Runs.Meets (Service.step owner) (FindsOwn owner) start es :=
  Runs.meets_of_invariant (Service.step owner) (I := Sole owner) (fun _ _ hs he => hs.step he)
    (fun _ e hs _ => hs.findsOwn e) es start
    ⟨fun _ _ h => (nomatch h), fun _ _ _ _ h => (nomatch h)⟩ h

theorem run_findsOwn_oneByOne : Runs.Meets (Service.step ⟨"owner", none⟩) (FindsOwn ⟨"owner", none⟩)
    start oneByOne :=
  run_findsOwn ⟨"owner", none⟩ oneByOne (by decide)

end Service

end RezChat.Files
